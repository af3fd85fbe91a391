set_option autoImplicit false

namespace Crosslink.Toml

inductive Quoting where
  | basic
  | literal
  | basicLines
  | literalLines
  deriving DecidableEq

def longestRun (c : Char) (run : Nat) : List Char → Nat
  | [] => run
  | d :: cs => if d = c then longestRun c (run + 1) cs else max run (longestRun c 0 cs)

def needsEscape (c : Char) : Bool :=
  (c.toNat < 0x20 && c ≠ '\t' && c ≠ '\n') || c.toNat = 0x7F

def Quoting.choose (cs : List Char) : Quoting :=
  let controls := cs.any needsEscape
  let lines := cs.contains '\n'
  let backslashes := cs.contains '\\'
  let quotes := longestRun '"' 0 cs
  let apostrophes := longestRun '\x27' 0 cs
  if !controls && !backslashes && quotes = 0 && !lines then basic
  else if !controls && apostrophes = 0 && !lines then literal
  else if !controls && !backslashes && quotes ≤ 2 then basicLines
  else if !controls && apostrophes ≤ 2 then literalLines
  else if lines then basicLines
  else basic

def upperHex (n : Nat) : Char := if n < 10 then Char.ofNat (n + 48) else Char.ofNat (n + 55)

def escape? (c : Char) : Option (List Char) :=
  if c = '\x08' then some ['\\', 'b']
  else if c = '\t' then some ['\\', 't']
  else if c = '\x0c' then some ['\\', 'f']
  else if c = '\r' then some ['\\', 'r']
  else if c = '\\' then some ['\\', '\\']
  else if needsEscape c then
    some ['\\', 'u', '0', '0', upperHex (c.toNat / 16), upperHex (c.toNat % 16)]
  else none

/-- Writes the text of a basic string, `run` quotes standing right before it unescaped. Of the
    quotes in one run as many stay as they are as the notation allows. -/
def escapeText (lines : Bool) (run : Nat) : List Char → List Char
  | [] => []
  | c :: cs =>
    if c = '"' then
      if run < (if lines then 2 else 0) then '"' :: escapeText lines (run + 1) cs
      else '\\' :: '"' :: escapeText lines 0 cs
    else if c = '\n' then
      if lines then '\n' :: escapeText lines 0 cs else '\\' :: 'n' :: escapeText lines 0 cs
    else
      match escape? c with
      | some written => written ++ escapeText lines 0 cs
      | none => c :: escapeText lines 0 cs

/-- Writes a string in a notation. A text of several lines starts on a line of its own. -/
def Quoting.write (n : Quoting) (cs : List Char) : List Char :=
  let start := if cs.contains '\n' then ['\n'] else []
  match n with
  | basic => '"' :: escapeText false 0 cs ++ ['"']
  | literal => '\x27' :: cs ++ ['\x27']
  | basicLines => ['"', '"', '"'] ++ start ++ escapeText true 0 cs ++ ['"', '"', '"']
  | literalLines =>
    ['\x27', '\x27', '\x27'] ++ start ++ cs ++ ['\x27', '\x27', '\x27']

def writeString (s : String) : String :=
  String.ofList ((Quoting.choose s.toList).write s.toList)

end Crosslink.Toml
