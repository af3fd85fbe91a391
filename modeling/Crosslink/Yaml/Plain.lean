import Crosslink.Decimal
import Crosslink.Text.Cut

set_option autoImplicit false

namespace Crosslink.Yaml

def isNull (s : String) : Bool := s ∈ ["null", "Null", "NULL", "~"]

def bool? (s : String) : Option Bool :=
  if s ∈ ["true", "True", "TRUE"] then some true
  else if s ∈ ["false", "False", "FALSE"] then some false
  else none

def unsigned : List Char → List Char
  | '+' :: cs => cs
  | '-' :: cs => cs
  | cs => cs

def isZeroPadded (cs : List Char) : Bool :=
  match unsigned cs with
  | '0' :: c :: cs => (c :: cs).all Char.isDigit
  | _ => false

def ofBase? (base : Nat) : List Char → Option Nat
  | [] => none
  | cs =>
    cs.foldlM
      (fun n c => (hexDigit? c).bind fun d => if d < base then some (n * base + d) else none)
      0

def based? : List Char → Option Nat
  | '0' :: 'x' :: cs => ofBase? 16 cs
  | '0' :: 'o' :: cs => ofBase? 8 cs
  | '0' :: 'b' :: cs => ofBase? 2 cs
  | _ => none

/-- Whether a text is an integer with the mark of its base. Integers have 128 bits. -/
def isBased (cs : List Char) : Bool :=
  match cs with
  | '-' :: cs => (based? cs).any (· ≤ Nat.pow 2 127)
  | '+' :: cs => (based? cs).any (· < Nat.pow 2 128)
  | cs => (based? cs).any (· < Nat.pow 2 128)

def exponent? : List Char → Option Int
  | [] => some 0
  | _ :: cs =>
    let ds := unsigned cs
    if ds.isEmpty || !ds.all Char.isDigit then none
    else if cs.head? = some '-' then some (-(Decimal.natOfDigits ds : Int))
    else some (Decimal.natOfDigits ds)

def decimal? (cs : List Char) : Option Decimal :=
  let significand := cs.takeWhile fun c => c != 'e' && c != 'E'
  let whole := significand.takeWhile (· != '.')
  let fraction := (significand.dropWhile (· != '.')).drop 1
  if (whole ++ fraction).isEmpty || !(whole ++ fraction).all Char.isDigit then none
  else
    (exponent? (cs.dropWhile fun c => c != 'e' && c != 'E')).map fun exponent =>
      ⟨Decimal.natOfDigits (whole ++ fraction), exponent - fraction.length⟩

/-- Whether a text is a float: an infinity, a NaN, or a decimal number that is not zero padded and
    in the range of doubles. -/
def isFloat (cs : List Char) : Bool :=
  let s := String.ofList cs
  s ∈ [".inf", ".Inf", ".INF", "+.inf", "+.Inf", "+.INF", "-.inf", "-.Inf", "-.INF",
    ".nan", ".NaN", ".NAN"]
    || (!isZeroPadded cs && (decimal? (unsigned cs)).any Decimal.isFinite)

def isAmbiguous (s : String) : Bool :=
  s.isEmpty || isNull s || (bool? s).isSome || isZeroPadded s.toList || isBased s.toList
    || isFloat s.toList

end Crosslink.Yaml
