import Crosslink.Bundle.Tree
import Crosslink.Yaml.Char
import Crosslink.Yaml.Plain

set_option autoImplicit false

/-!
Writing trees as YAML. Records and lists are written as blocks, two columns a level, and a list in
a record stands at the record's own column; empty ones are written in brackets. A text is written
plain where that is read back as the same text, else in apostrophes, else in quotes with escapes;
a text of several lines is written as a block where that is possible.
-/

namespace Crosslink.Yaml

def isLeadingMark (c : Char) : Bool := "#,[]\x7b\x7d&*!|>\x27\"%@\x60".toList.contains c

/-- Whether a mark ends a key or starts a comment behind the first character. `blank` tells whether
    a blank or a line end stands right before. -/
def hasInnerMark (blank : Bool) : List Char → Bool
  | [] => false
  | c :: cs =>
    (c == ':' && endsWord cs.head?) || (c == '#' && blank)
      || hasInnerMark (endsWord (some c)) cs

def hasMark : List Char → Bool
  | [] => false
  | c :: cs =>
    let start := (c :: cs).take 3
    start == ['-', '-', '-'] || start == ['.', '.', '.'] || isLeadingMark c
      || ((c == '?' || c == ':' || c == '-') && endsWord cs.head?)
      || hasInnerMark (endsWord (some c)) cs

def hasPair (p : Char → Char → Bool) : List Char → Bool
  | c :: d :: cs => p c d || hasPair p (d :: cs)
  | _ => false

def hasBreakSpace (cs : List Char) : Bool := hasPair (fun c d => isBreak c && d == ' ') cs

def hasSpaceBreak (cs : List Char) : Bool := hasPair (fun c d => c == ' ' && isBreak d) cs

def isSpaceOrBreak (c : Char) : Bool := c == ' ' || isBreak c

def canQuote (cs : List Char) : Bool :=
  cs.all isPrintable && !hasBreakSpace cs && !hasSpaceBreak cs

def canStandPlain (cs : List Char) : Bool :=
  canQuote cs && !cs.any isBreak && !hasMark cs
    && !cs.head?.any isSpaceOrBreak && !cs.getLast?.any isSpaceOrBreak

def canStandAsBlock (cs : List Char) : Bool :=
  cs.all isPrintable && !hasSpaceBreak cs && cs.getLast? != some ' '

inductive Style where
  | plain
  | single
  | double
  | block
  deriving DecidableEq

def Style.choose (s : String) : Style :=
  let cs := s.toList
  if cs.contains '\n' then if canStandAsBlock cs then block else double
  else if !isAmbiguous s && canStandPlain cs then plain
  else if canQuote cs then single
  else double

def spaces (n : Nat) : List Char := List.replicate n ' '

/-- A text in apostrophes. A line goes on at a column behind each line end; `atStart` tells whether
    one stands right before. -/
def singleBody (column : Nat) (atStart : Bool) : List Char → List Char
  | [] => if atStart then spaces column else []
  | c :: cs =>
    if isBreak c then c :: singleBody column true cs
    else
      (if atStart then spaces column else []) ++ (if c = '\x27' then ['\x27', '\x27'] else [c])
        ++ singleBody column false cs

def hexDigit (n : Nat) : Char := if n < 10 then Char.ofNat (n + 48) else Char.ofNat (n + 55)

def hexDigits (width n : Nat) : List Char :=
  ((List.range width).map fun i => hexDigit (n / Nat.pow 16 i % 16)).reverse

def escapeLetter? (c : Char) : Option Char :=
  [('\x00', '0'), ('\x07', 'a'), ('\x08', 'b'), ('\t', 't'), ('\n', 'n'), ('\x0b', 'v'),
   ('\x0c', 'f'), ('\r', 'r'), ('\x1b', 'e'), ('"', '"'), ('\\', '\\'), ('\x85', 'N'),
   ('\xa0', '_'), ('\u2028', 'L'), ('\u2029', 'P')].lookup c

def doubleChar (c : Char) : List Char :=
  if isPrintable c && !isBreak c && c != '"' && c != '\\' then [c]
  else
    match escapeLetter? c with
    | some letter => ['\\', letter]
    | none =>
      if c.toNat ≤ 0xFF then '\\' :: 'x' :: hexDigits 2 c.toNat
      else if c.toNat ≤ 0xFFFF then '\\' :: 'u' :: hexDigits 4 c.toNat
      else '\\' :: 'U' :: hexDigits 8 c.toNat

def blockBody (column : Nat) (atStart : Bool) : List Char → List Char
  | [] => []
  | c :: cs =>
    if isBreak c then c :: blockBody column true cs
    else (if atStart then spaces column else []) ++ c :: blockBody column false cs

/-- What tells how a block is read: its indentation, where its first line cannot show it, and what
    becomes of the line ends behind its last line. -/
def blockHints (cs : List Char) : List Char :=
  let indentation := if cs.head?.any isSpaceOrBreak then ['2'] else []
  let ending :=
    match cs.reverse with
    | [] => ['-']
    | last :: before =>
      if !isBreak last then ['-']
      else if before.head?.all isBreak then ['+']
      else []
  indentation ++ ending

def writeText (column : Nat) (s : String) : List Char :=
  let cs := s.toList
  match Style.choose s with
  | .plain => cs
  | .single => '\x27' :: singleBody column false cs ++ ['\x27']
  | .double => '"' :: cs.flatMap doubleChar ++ ['"']
  | .block => '|' :: blockHints cs ++ '\n' :: blockBody column true cs

def endLine (cs : List Char) : List Char :=
  if cs.getLast?.any isBreak then cs else cs ++ ['\n']

mutual

def writeValue (column : Nat) : Tree → List Char
  | .text s => ' ' :: endLine (writeText (column + 2) s)
  | .flag true => " true\n".toList
  | .flag false => " false\n".toList
  | .list [] => " []\n".toList
  | .list (item :: items) => '\n' :: writeItems column (item :: items)
  | .record [] => " \x7b\x7d\n".toList
  | .record (field :: fields) => '\n' :: writeFields (column + 2) (field :: fields)

/-- Writes an item behind its dash. The first field of a record, and the first item of a list,
    stands on the same line. -/
def writeItem (column : Nat) : Tree → List Char
  | .list (item :: items) =>
    ' ' :: '-' :: writeItem (column + 2) item ++ writeItems (column + 2) items
  | .record ((name, value) :: fields) =>
    ' ' :: name.toList ++ ':' :: writeValue (column + 2) value ++ writeFields (column + 2) fields
  | tree => writeValue column tree

def writeItems (column : Nat) : List Tree → List Char
  | [] => []
  | item :: items => spaces column ++ '-' :: writeItem column item ++ writeItems column items

def writeFields (column : Nat) : List (String × Tree) → List Char
  | [] => []
  | (name, value) :: fields =>
    spaces column ++ name.toList ++ ':' :: writeValue column value ++ writeFields column fields

end

def write : List Tree → List Char
  | [] => "[]\n".toList
  | items => writeItems 0 items

def writeBundle (documents : List Document) : String :=
  String.ofList (write (documents.map Document.toTree))

end Crosslink.Yaml
