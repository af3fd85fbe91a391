import Crosslink.Json.Value

set_option autoImplicit false

namespace Crosslink.Json

def isBlank (c : Char) : Bool := c == ' ' || c == '\t' || c == '\n' || c == '\r'

def skipBlanks (cs : List Char) : List Char := cs.dropWhile isBlank

def escaped? (c : Char) : Option Char :=
  if c = '"' then some '"'
  else if c = '\\' then some '\\'
  else if c = '/' then some '/'
  else if c = 'b' then some '\x08'
  else if c = 'f' then some '\x0c'
  else if c = 'n' then some '\n'
  else if c = 'r' then some '\r'
  else if c = 't' then some '\t'
  else none

def isHighSurrogate (n : Nat) : Bool := 0xD800 ≤ n && n ≤ 0xDBFF

def isLowSurrogate (n : Nat) : Bool := 0xDC00 ≤ n && n ≤ 0xDFFF

def joinSurrogates (high low : Nat) : Char :=
  Char.ofNat (0x10000 + (high - 0xD800) * 0x400 + (low - 0xDC00))

def consText (c : Option Char) :
    Option (Option (List Char) × List Char) → Option (Option (List Char) × List Char)
  | some (text, rest) => some (text.bind fun cs => c.map (· :: cs), rest)
  | none => none

def stringBody? : List Char → Option (Option (List Char) × List Char)
  | [] => none
  | '"' :: cs => some (some [], cs)
  | '\\' :: 'u' :: a :: b :: c :: d :: '\\' :: 'u' :: e :: f :: g :: h :: cs =>
    match natOfHex? [a, b, c, d], natOfHex? [e, f, g, h] with
    | some high, some low =>
      if isHighSurrogate high && isLowSurrogate low then
        consText (some (joinSurrogates high low)) (stringBody? cs)
      else if isHighSurrogate high || isLowSurrogate high then
        consText none (stringBody? ('\\' :: 'u' :: e :: f :: g :: h :: cs))
      else
        consText (some (Char.ofNat high)) (stringBody? ('\\' :: 'u' :: e :: f :: g :: h :: cs))
    | _, _ => none
  | '\\' :: 'u' :: a :: b :: c :: d :: cs =>
    match natOfHex? [a, b, c, d] with
    | some unit =>
      consText
        (if isHighSurrogate unit || isLowSurrogate unit then none else some (Char.ofNat unit))
        (stringBody? cs)
    | none => none
  | '\\' :: c :: cs =>
    match escaped? c with
    | some c => consText (some c) (stringBody? cs)
    | none => none
  | c :: cs => if c = '\\' || c.toNat < 0x20 then none else consText (some c) (stringBody? cs)

def digits? (cs : List Char) : Option (List Char × List Char) :=
  if (cs.takeWhile Char.isDigit).isEmpty then none
  else some (cs.takeWhile Char.isDigit, cs.dropWhile Char.isDigit)

def wholeDigits? (cs : List Char) : Option (List Char × List Char) :=
  match cs with
  | '0' :: rest => some (['0'], rest)
  | _ => digits? cs

def fraction? : List Char → Option (List Char × List Char)
  | '.' :: cs => digits? cs
  | cs => some ([], cs)

def exponent? : List Char → Option (Int × List Char)
  | c :: cs =>
    if c = 'e' || c = 'E' then
      match cs with
      | '-' :: cs => (digits? cs).map fun (ds, rest) => (-(Decimal.natOfDigits ds : Int), rest)
      | '+' :: cs => (digits? cs).map fun (ds, rest) => ((Decimal.natOfDigits ds : Int), rest)
      | cs => (digits? cs).map fun (ds, rest) => ((Decimal.natOfDigits ds : Int), rest)
    else some (0, c :: cs)
  | [] => some (0, [])

def number? (cs : List Char) : Option (Decimal × List Char) := do
  let (whole, afterWhole) ← wholeDigits? cs
  let (fraction, afterFraction) ← fraction? afterWhole
  let (exponent, rest) ← exponent? afterFraction
  return (⟨Decimal.natOfDigits (whole ++ fraction), exponent - fraction.length⟩, rest)

def afterWord? : List Char → List Char → Option (List Char)
  | [], cs => some cs
  | _ :: _, [] => none
  | w :: ws, c :: cs => if w = c then afterWord? ws cs else none

def stringText (text : Option (List Char)) : Option String := text.map String.ofList

mutual

/-- Reads a value at the start of a text. The fuel bounds the number of nested steps. -/
def value? : Nat → List Char → Option (Value × List Char)
  | 0, _ => none
  | fuel + 1, cs =>
    match cs with
    | '"' :: cs => (stringBody? cs).map fun (text, rest) => (.string (stringText text), rest)
    | '[' :: cs =>
      match skipBlanks cs with
      | ']' :: rest => some (.array [], rest)
      | cs => (items? fuel cs).map fun (items, rest) => (.array items, rest)
    | '\x7b' :: cs =>
      match skipBlanks cs with
      | '\x7d' :: rest => some (.object [], rest)
      | cs => (fields? fuel cs).map fun (fields, rest) => (.object fields, rest)
    | '-' :: cs => (number? cs).map fun (n, rest) => (.number n, rest)
    | 't' :: cs => (afterWord? ['r', 'u', 'e'] cs).map fun rest => (.bool true, rest)
    | 'f' :: cs => (afterWord? ['a', 'l', 's', 'e'] cs).map fun rest => (.bool false, rest)
    | 'n' :: cs => (afterWord? ['u', 'l', 'l'] cs).map fun rest => (.null, rest)
    | cs => (number? cs).map fun (n, rest) => (.number n, rest)

def items? : Nat → List Char → Option (List Value × List Char)
  | 0, _ => none
  | fuel + 1, cs =>
    match value? fuel cs with
    | some (v, rest) =>
      match skipBlanks rest with
      | ']' :: rest => some ([v], rest)
      | ',' :: rest => (items? fuel (skipBlanks rest)).map fun (vs, rest) => (v :: vs, rest)
      | _ => none
    | none => none

def fields? : Nat → List Char → Option (List (Option String × Value) × List Char)
  | 0, _ => none
  | fuel + 1, cs =>
    match cs with
    | '"' :: cs =>
      match stringBody? cs with
      | some (name, rest) =>
        match skipBlanks rest with
        | ':' :: rest =>
          match value? fuel (skipBlanks rest) with
          | some (v, rest) =>
            match skipBlanks rest with
            | '\x7d' :: rest => some ([(stringText name, v)], rest)
            | ',' :: rest =>
              (fields? fuel (skipBlanks rest)).map fun (fields, rest) =>
                ((stringText name, v) :: fields, rest)
            | _ => none
          | none => none
        | _ => none
      | none => none
    | _ => none

end

def read? (cs : List Char) : Option Value :=
  match value? (2 * cs.length + 2) (skipBlanks cs) with
  | some (v, rest) => if (skipBlanks rest).isEmpty then some v else none
  | none => none

def depthLimit : Nat := 127

/-- Whether a text is a value that can be kept as a whole: its strings have texts, its numbers are
    in range and it is not nested too deeply. -/
def isKept (cs : List Char) : Bool :=
  match read? cs with
  | some v => v.isPlain && v.depth ≤ depthLimit
  | none => false

end Crosslink.Json
