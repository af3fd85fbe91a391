import Crosslink.Decimal
import Crosslink.Toml.Value

set_option autoImplicit false

namespace Crosslink.Toml

def isScalarChar (c : Char) : Bool :=
  c.isAlphanum || c == '+' || c == '-' || c == '.' || c == '_' || c == ':'

def digits? (isDigit : Char → Bool) : List Char → Option (List Char)
  | [] => none
  | [c] => if isDigit c then some [c] else none
  | c :: '_' :: cs => if isDigit c then (digits? isDigit cs).map (c :: ·) else none
  | c :: cs => if isDigit c then (digits? isDigit cs).map (c :: ·) else none

def wholeDigits? (cs : List Char) : Option (List Char) :=
  match digits? Char.isDigit cs with
  | some ('0' :: _ :: _) => none
  | ds => ds

def sign : List Char → Bool × List Char
  | '-' :: cs => (true, cs)
  | '+' :: cs => (false, cs)
  | cs => (false, cs)

def natOfBase (base : Nat) (cs : List Char) : Nat :=
  cs.foldl (fun n c => n * base + (hexDigit? c).getD 0) 0

def ranged? (n : Int) : Option Value :=
  if -Int.pow 2 63 ≤ n ∧ n < Int.pow 2 63 then some (.integer n) else none

def integer? (cs : List Char) : Option Value :=
  match cs with
  | '0' :: 'x' :: ds =>
    (digits? (fun c => (hexDigit? c).isSome) ds).bind fun ds => ranged? (natOfBase 16 ds)
  | '0' :: 'o' :: ds =>
    (digits? (fun c => '0' ≤ c ∧ c ≤ '7') ds).bind fun ds => ranged? (natOfBase 8 ds)
  | '0' :: 'b' :: ds =>
    (digits? (fun c => c == '0' || c == '1') ds).bind fun ds => ranged? (natOfBase 2 ds)
  | _ =>
    let (negative, ds) := sign cs
    (wholeDigits? ds).bind fun ds =>
      let n : Int := Decimal.natOfDigits ds
      ranged? (if negative then -n else n)

def cutBefore (stops : List Char) (cs : List Char) : List Char × List Char :=
  (cs.takeWhile (!stops.contains ·), cs.dropWhile (!stops.contains ·))

def exponent? : List Char → Option Int
  | [] => some 0
  | _ :: cs =>
    let (negative, ds) := sign cs
    (digits? Char.isDigit ds).map fun ds =>
      let n : Int := Decimal.natOfDigits ds
      if negative then -n else n

def fraction? : List Char → Option (List Char)
  | [] => some []
  | _ :: cs => digits? Char.isDigit cs

def float? (cs : List Char) : Option Value := do
  let (negative, unsigned) := sign cs
  if unsigned = "inf".toList || unsigned = "nan".toList then
    return .float (String.ofList cs)
  let (significand, exponentPart) := cutBefore ['e', 'E'] unsigned
  let (wholePart, fractionPart) := cutBefore ['.'] significand
  if exponentPart.isEmpty && fractionPart.isEmpty then failure
  let whole ← wholeDigits? wholePart
  let fraction ← fraction? fractionPart
  let exponent ← exponent? exponentPart
  let size : Decimal := ⟨Decimal.natOfDigits (whole ++ fraction), exponent - fraction.length⟩
  if negative || size.isFinite then return .float (String.ofList cs) else failure

def twoDigits? (a b : Char) : Option Nat :=
  if a.isDigit && b.isDigit then some (Decimal.natOfDigits [a, b]) else none

def isLeapYear (year : Nat) : Bool := year % 4 = 0 && (year % 100 ≠ 0 || year % 400 = 0)

def daysInMonth (year month : Nat) : Nat :=
  if month = 2 then if isLeapYear year then 29 else 28
  else if month ∈ [4, 6, 9, 11] then 30
  else 31

def afterDate? : List Char → Option (List Char)
  | a :: b :: c :: d :: '-' :: e :: f :: '-' :: g :: h :: rest => do
    let year := (← twoDigits? a b) * 100 + (← twoDigits? c d)
    let month ← twoDigits? e f
    let day ← twoDigits? g h
    if 1 ≤ month ∧ month ≤ 12 ∧ 1 ≤ day ∧ day ≤ daysInMonth year month then return rest
    else failure
  | _ => none

def afterFraction? : List Char → Option (List Char)
  | '.' :: cs =>
    if (cs.takeWhile Char.isDigit).isEmpty then none else some (cs.dropWhile Char.isDigit)
  | cs => some cs

/-- What follows a time of day at the start of a text. A minute may have a leap second. -/
def afterTime? : List Char → Option (List Char)
  | a :: b :: ':' :: c :: d :: ':' :: e :: f :: rest => do
    let hour ← twoDigits? a b
    let minute ← twoDigits? c d
    let second ← twoDigits? e f
    if hour ≤ 23 ∧ minute ≤ 59 ∧ second ≤ 60 then afterFraction? rest else failure
  | _ => none

def isOffset : List Char → Bool
  | [] => true
  | ['Z'] => true
  | ['z'] => true
  | [s, a, b, ':', c, d] =>
    (s == '+' || s == '-') && ((twoDigits? a b).any (· ≤ 23)) && ((twoDigits? c d).any (· ≤ 59))
  | _ => false

def isTimeWithOffset (cs : List Char) : Bool := (afterTime? cs).any isOffset

def moment? (cs : List Char) : Option Value :=
  let valid :=
    match afterDate? cs with
    | some [] => true
    | some (c :: rest) => (c == 'T' || c == 't') && isTimeWithOffset rest
    | none => (afterTime? cs).any List.isEmpty
  if valid then some (.moment (String.ofList cs)) else none

def scalar? (cs : List Char) : Option Value :=
  if cs = "true".toList then some (.boolean true)
  else if cs = "false".toList then some (.boolean false)
  else (moment? cs).or ((integer? cs).or (float? cs))

end Crosslink.Toml
