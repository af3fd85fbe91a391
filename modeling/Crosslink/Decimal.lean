set_option autoImplicit false

namespace Crosslink

/-- The number `mantissa * 10 ^ exponent`; signs are kept elsewhere. -/
structure Decimal where
  mantissa : Nat
  exponent : Int
  deriving DecidableEq

namespace Decimal

def natOfDigits (cs : List Char) : Nat :=
  cs.foldl (fun n c => n * 10 + (c.toNat - '0'.toNat)) 0

/-- The least number that is too large for a double: halfway above the largest one. -/
def doubleBound : Nat := Nat.pow 2 1024 - Nat.pow 2 970

/-- Whether the number rounds to a finite double. Numbers far below and far above the bound are
    told apart by their number of digits. -/
def isFinite (d : Decimal) : Bool :=
  let digits : Int := (Nat.toDigits 10 d.mantissa).length
  if d.mantissa = 0 || digits + d.exponent ≤ 308 then true
  else if 309 < digits + d.exponent then false
  else d.mantissa * Nat.pow 10 d.exponent.toNat < doubleBound * Nat.pow 10 (-d.exponent).toNat

end Decimal

def hexDigit? (c : Char) : Option Nat :=
  if c.isDigit then some (c.toNat - '0'.toNat)
  else if 'a' ≤ c ∧ c ≤ 'f' then some (c.toNat - 'a'.toNat + 10)
  else if 'A' ≤ c ∧ c ≤ 'F' then some (c.toNat - 'A'.toNat + 10)
  else none

def natOfHex? (cs : List Char) : Option Nat :=
  cs.foldlM (fun n c => (hexDigit? c).map (n * 16 + ·)) 0

theorem natOfHex?_pair {n : Nat} {high low : Char} (hhigh : hexDigit? high = some (n / 16))
    (hlow : hexDigit? low = some (n % 16)) : natOfHex? ['0', '0', high, low] = some n := by
  have hzero : hexDigit? '0' = some 0 := by decide
  simp only [natOfHex?, List.foldlM_cons, List.foldlM_nil, hzero, hhigh, hlow, Option.map_some,
    Option.bind_eq_bind, Option.bind_some, Option.pure_def, Option.some.injEq]
  omega

def charOfNat? (n : Nat) : Option Char := if n.isValidChar then some (Char.ofNat n) else none

end Crosslink
