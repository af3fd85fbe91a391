import Crosslink.Decimal
import Crosslink.Pattern.Property
import Crosslink.Text.Blank
import Crosslink.Text.Letter
import Crosslink.Text.Word

set_option autoImplicit false

namespace Crosslink.Pattern

structure Mode where
  verbose : Bool := false
  unicode : Bool := true
  deriving DecidableEq

def skipSpace (comment : Bool) : List Char → List Char
  | [] => []
  | c :: cs =>
    if comment then skipSpace (c != '\n') cs
    else if Text.isBlank c then skipSpace false cs
    else if c = '#' then skipSpace true cs
    else c :: cs

def Mode.skip (m : Mode) (cs : List Char) : List Char :=
  if m.verbose then skipSpace false cs else cs

inductive Atom where
  | literal (c : Char)
  | set (ascii : Bool)
  | position
  deriving DecidableEq

def Mode.allows (m : Mode) : Atom → Bool
  | .literal c => m.unicode || c.toNat < 128
  | .set ascii => m.unicode || ascii
  | .position => true

def untilBrace? (m : Mode) (comment : Bool) : List Char → Option (List Char × List Char)
  | [] => none
  | c :: cs =>
    if comment then untilBrace? m (c != '\n') cs
    else if c = '\x7d' then some ([], cs)
    else if m.verbose && Text.isBlank c then untilBrace? m false cs
    else if m.verbose && c = '#' then untilBrace? m true cs
    else (untilBrace? m false cs).map fun (text, rest) => (c :: text, rest)

def takeExactly? (m : Mode) : Nat → List Char → Option (List Char × List Char)
  | 0, cs => some ([], cs)
  | _ + 1, [] => none
  | n + 1, c :: cs => (takeExactly? m n (m.skip cs)).map fun (text, rest) => (c :: text, rest)

def codePoint? (m : Mode) (width : Nat) (cs : List Char) : Option (Atom × List Char) := do
  let (digits, rest) ←
    match m.skip cs with
    | '\x7b' :: cs => untilBrace? m false cs
    | cs => takeExactly? m width cs
  if digits.isEmpty then failure
  let c ← (natOfHex? digits).bind charOfNat?
  return (.literal c, rest)

def property? (m : Mode) (cs : List Char) : Option (Atom × List Char) :=
  match m.skip cs with
  | [] => none
  | '\x7b' :: cs =>
    (untilBrace? m false cs).bind fun (name, rest) =>
      if isProperty name then some (.set false, rest) else none
  | c :: cs => if isPropertyName [c] then some (.set false, m.skip cs) else none

def isBoundaryChar (c : Char) : Bool := c.isAlpha || c == '-'

def boundaries : List String := ["start", "end", "start-half", "end-half"]

def boundary? (m : Mode) (cs : List Char) : Option (Atom × List Char) :=
  match cs with
  | '\x7b' :: inner =>
    match m.skip inner with
    | [] => none
    | c :: inner =>
      if isBoundaryChar c then
        (untilBrace? m false (c :: inner)).bind fun (name, rest) =>
          if String.ofList name ∈ boundaries then some (.position, rest) else none
      else some (.position, cs)
  | _ => some (.position, cs)

def marks : List Char := "\\.+*?()|[]\x7b\x7d^$#&-~".toList

def isEscapable (c : Char) : Bool :=
  c ∈ marks || (c.toNat < 128 && !c.isAlphanum && c != '<' && c != '>')

def escape? (m : Mode) : List Char → Option (Atom × List Char)
  | [] => none
  | c :: cs =>
    if c = 'x' then codePoint? m 2 cs
    else if c = 'u' then codePoint? m 4 cs
    else if c = 'U' then codePoint? m 8 cs
    else if c = 'p' || c = 'P' then property? m cs
    else if c ∈ ['d', 's', 'w'] then some (.set true, cs)
    else if c ∈ ['D', 'S', 'W'] then some (.set false, cs)
    else if isEscapable c then some (.literal c, cs)
    else if c = 'a' then some (.literal '\x07', cs)
    else if c = 'f' then some (.literal '\x0c', cs)
    else if c = 't' then some (.literal '\t', cs)
    else if c = 'n' then some (.literal '\n', cs)
    else if c = 'r' then some (.literal '\r', cs)
    else if c = 'v' then some (.literal '\x0b', cs)
    else if c = 'b' then boundary? m cs
    else if c ∈ ['A', 'z', 'B', '<', '>'] then some (.position, cs)
    else none

def namedSets : List String :=
  ["alnum", "alpha", "ascii", "blank", "cntrl", "digit", "graph", "lower", "print", "punct",
   "space", "upper", "word", "xdigit"]

def afterNamedSet? (cs : List Char) : Option (List Char) :=
  match cs with
  | ':' :: cs =>
    let named :=
      match cs with
      | '^' :: cs => cs
      | cs => cs
    match named.dropWhile (· != ':') with
    | ':' :: ']' :: rest =>
      if String.ofList (named.takeWhile (· != ':')) ∈ namedSets then some rest else none
    | _ => none
  | _ => none

def dropDashes (m : Mode) (comment : Bool) : List Char → List Char
  | [] => []
  | c :: cs =>
    if comment then dropDashes m (c != '\n') cs
    else if c = '-' then dropDashes m false cs
    else if m.verbose && Text.isBlank c then dropDashes m false cs
    else if m.verbose && c = '#' then dropDashes m true cs
    else c :: cs

/-- Reads the start of a set behind its bracket: a caret, and dashes or a closing bracket that mean
    themselves. -/
def opening (m : Mode) (cs : List Char) : Bool × List Char :=
  let (negated, body) :=
    match m.skip cs with
    | '^' :: cs => (true, m.skip cs)
    | cs => (false, cs)
  match body with
  | '-' :: cs => (negated, dropDashes m false cs)
  | ']' :: cs => (negated, m.skip cs)
  | cs => (negated, cs)

def element? (m : Mode) (cs : List Char) : Option (Atom × List Char) := do
  let (atom, rest) ←
    match cs with
    | [] => none
    | '\\' :: cs => escape? m cs
    | c :: cs => some (.literal c, cs)
  if atom = .position || !m.allows atom then failure else return (atom, rest)

/-- Reads an element or a range of a set. Ranges ascend from a character to a character. -/
def range? (m : Mode) (cs : List Char) : Option (List Char) := do
  let (first, rest) ← element? m cs
  match m.skip rest with
  | [] => failure
  | '-' :: after =>
    match m.skip after with
    | [] => failure
    | c :: inner =>
      if c = ']' || c = '-' then return '-' :: after
      else
        let (last, rest) ← element? m (c :: inner)
        match first, last with
        | .literal a, .literal b => if a ≤ b then return rest else failure
        | _, _ => failure
  | rest => return rest

/-- What follows a set in brackets. Sets nest; `depth` more are open, and the fuel bounds the
    number of elements. -/
def afterSet? (m : Mode) : Nat → Nat → List Char → Option (List Char)
  | 0, _, _ => none
  | fuel + 1, depth, cs =>
    match m.skip cs with
    | [] => none
    | '[' :: cs =>
      match afterNamedSet? cs with
      | some rest => afterSet? m fuel depth rest
      | none => afterSet? m fuel (depth + 1) (opening m cs).2
    | ']' :: cs =>
      match depth with
      | 0 => some cs
      | depth + 1 => afterSet? m fuel depth cs
    | '&' :: '&' :: cs => afterSet? m fuel depth cs
    | '-' :: '-' :: cs => afterSet? m fuel depth cs
    | '~' :: '~' :: cs => afterSet? m fuel depth cs
    | c :: cs => (range? m (c :: cs)).bind (afterSet? m fuel depth)

def set? (m : Mode) (cs : List Char) : Option (List Char) :=
  let (negated, body) := opening m cs
  if negated && !m.unicode then none else afterSet? m (body.length + 1) 0 body

def digits (m : Mode) (comment : Bool) : List Char → List Char × List Char
  | [] => ([], [])
  | c :: cs =>
    if comment then digits m (c != '\n') cs
    else if c.isDigit then
      let (ds, rest) := digits m false cs
      (c :: ds, rest)
    else if m.verbose && Text.isBlank c then digits m false cs
    else if m.verbose && c = '#' then digits m true cs
    else ([], c :: cs)

def count? (m : Mode) (cs : List Char) : Option (Nat × List Char) :=
  let (ds, rest) := digits m false (Text.trimStart cs)
  let n := Decimal.natOfDigits ds
  if ds.isEmpty || n ≥ Nat.pow 2 32 then none else some (n, Text.trimStart rest)

/-- What follows the counts of a repetition behind their brace. The counts ascend, and the second
    may be missing. -/
def afterCounts? (m : Mode) (cs : List Char) : Option (List Char) := do
  let (low, rest) ← count? m (m.skip cs)
  match rest with
  | '\x7d' :: rest => return rest
  | ',' :: rest =>
    match m.skip rest with
    | '\x7d' :: rest => return rest
    | rest =>
      match ← count? m rest with
      | (high, '\x7d' :: rest) => if low ≤ high then return rest else failure
      | _ => failure
  | _ => failure

def isNameStart (c : Char) : Bool := c == '_' || Text.isLetter c

def isNameChar (c : Char) : Bool := c == '.' || c == '[' || c == ']' || Text.isWord c

def groupName? (cs : List Char) : Option (List Char × List Char) :=
  let name := cs.takeWhile (· != '>')
  match name, cs.dropWhile (· != '>') with
  | c :: more, '>' :: rest =>
    if isNameStart c && more.all isNameChar then some (name, rest) else none
  | _, _ => none

def flagLetters : List Char := "imsURux-".toList

def Mode.set (m : Mode) (flag : Char) (on : Bool) : Mode :=
  if flag = 'x' then { m with verbose := on }
  else if flag = 'u' then { m with unicode := on }
  else m

/-- Reads flags up to a colon or a closing parenthesis, which stands first in the rest. No flag is
    repeated and a dash is not the last of them. -/
def flags? (seen : List Char) (m : Mode) : List Char → Option (List Char × Mode × List Char)
  | [] => none
  | c :: cs =>
    if c = ':' || c = ')' then
      if seen.head? = some '-' then none else some (seen, m, c :: cs)
    else if c ∈ flagLetters && !(c ∈ seen) then
      flags? (c :: seen) (m.set c !('-' ∈ seen)) cs
    else none

structure State where
  mode : Mode := {}
  /-- The modes to return to at the end of each open group. -/
  outer : List Mode := []
  /-- Whether something stands before that can be repeated. -/
  operand : Bool := false
  names : List (List Char) := []

def State.openGroup (s : State) (mode : Mode) : State :=
  { s with mode := mode, outer := s.mode :: s.outer, operand := false }

def group? (s : State) (cs : List Char) : Option (State × List Char) :=
  let named (cs : List Char) : Option (State × List Char) :=
    (groupName? cs).bind fun (name, rest) =>
      if name ∈ s.names then none
      else some ({ s.openGroup s.mode with names := name :: s.names }, rest)
  match s.mode.skip cs with
  | '?' :: '=' :: _ => none
  | '?' :: '!' :: _ => none
  | '?' :: '<' :: '=' :: _ => none
  | '?' :: '<' :: '!' :: _ => none
  | '?' :: 'P' :: '<' :: cs => named cs
  | '?' :: '<' :: cs => named cs
  | '?' :: cs =>
    match flags? [] s.mode cs with
    | some (_, mode, ':' :: rest) => some (s.openGroup mode, rest)
    | some (_ :: _, mode, _ :: rest) => some ({ s with mode := mode, operand := false }, rest)
    | _ => none
  | cs => some (s.openGroup s.mode, cs)

def step? (s : State) (c : Char) (cs : List Char) : Option (State × List Char) :=
  let seen (rest : List Char) : State × List Char := ({ s with operand := true }, rest)
  let atom (a : Atom) (rest : List Char) : Option (State × List Char) :=
    if s.mode.allows a then some (seen rest) else none
  if c = '(' then group? s cs
  else if c = ')' then
    match s.outer with
    | [] => none
    | mode :: outer => some ({ s with mode := mode, outer := outer, operand := true }, cs)
  else if c = '|' then some ({ s with operand := false }, cs)
  else if c = '[' then (set? s.mode cs).map seen
  else if c = '?' || c = '*' || c = '+' then if s.operand then some (seen cs) else none
  else if c = '\x7b' then if s.operand then (afterCounts? s.mode cs).map seen else none
  else if c = '\\' then (escape? s.mode cs).bind fun (a, rest) => atom a rest
  else if c = '.' then atom (.set false) cs
  else if c = '^' || c = '$' then atom .position cs
  else atom (.literal c) cs

/-- Whether the rest of a pattern is one. Each step reads at least one character, so a text has
    enough fuel in its length. -/
def accepts : Nat → State → List Char → Bool
  | fuel, s, cs =>
    match s.mode.skip cs, fuel with
    | [], _ => s.outer.isEmpty
    | _ :: _, 0 => false
    | c :: cs, fuel + 1 =>
      match step? s c cs with
      | some (s, rest) => accepts fuel s rest
      | none => false

def isValid (text : String) : Bool := accepts text.toList.length {} text.toList

end Crosslink.Pattern
