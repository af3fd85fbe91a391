import Crosslink.Decimal
import Crosslink.Yaml.Char
import Crosslink.Yaml.Token

set_option autoImplicit false

namespace Crosslink.Yaml

def normalBreak (c : Char) : Char := if c = '\u2028' || c = '\u2029' then c else '\n'

def isDocumentMark (p : Position) (cs : List Char) : Bool :=
  p.column = 0 && (cs.take 3 == ['-', '-', '-'] || cs.take 3 == ['.', '.', '.'])
    && endsWord (cs.drop 3).head?

/-- Blanks and line ends between two words. The first line end is missing if it was escaped. -/
inductive Gap where
  | none
  | spaces (cs : List Char)
  | lines (first : Option Char) (more : List Char)

namespace Gap

def addBlank : Gap → Char → Gap
  | none, c => spaces [c]
  | spaces cs, c => spaces (cs ++ [c])
  | lines first more, _ => lines first more

def addBreak : Gap → Char → Gap
  | lines first more, c => lines first (more ++ [c])
  | _, c => lines (some c) []

def text : Gap → List Char
  | none => []
  | spaces cs => cs
  | lines (some '\n') [] => [' ']
  | lines (some '\n') more => more
  | lines first more => first.toList ++ more

def hasLine : Gap → Bool
  | lines _ _ => true
  | _ => false

def isNone : Gap → Bool
  | none => true
  | _ => false

end Gap

def isFlowMark (c : Char) : Bool := ",[]\x7b\x7d".toList.contains c

def isStrayColon (flow : Bool) (c : Char) (next : Option Char) : Bool :=
  flow && c == ':' && next.any fun d => isFlowMark d || d == '?'

def endsPlain (flow : Bool) (c : Char) (next : Option Char) : Bool :=
  (c == ':' && endsWord next) || (flow && isFlowMark c)

/-- Reads a plain scalar from inside. Outside brackets its lines start at the column `bound` or
    behind it. The flag of the result tells whether a line ended behind the scalar. -/
def plainRest? (flow : Bool) (bound : Nat) (p : Position) (gap : Gap) :
    List Char → Option (List Char × Bool × Position × List Char)
  | [] => some ([], gap.hasLine, p, [])
  | '\r' :: '\n' :: cs => plainRest? flow bound (p.nextLine 2) (gap.addBreak '\n') cs
  | c :: cs =>
    if isBreak c then plainRest? flow bound (p.nextLine 1) (gap.addBreak (normalBreak c)) cs
    else if isBlank c then
      if gap.hasLine && p.column < bound && c == '\t' then none
      else plainRest? flow bound (p.skip 1) (gap.addBlank c) cs
    else if isDocumentMark p (c :: cs)
        || (!gap.isNone && (c == '#' || (!flow && p.column < bound))) then
      some ([], gap.hasLine, p, c :: cs)
    else if isStrayColon flow c cs.head? then none
    else if endsPlain flow c cs.head? then some ([], gap.hasLine, p, c :: cs)
    else
      (plainRest? flow bound (p.skip 1) .none cs).map fun (text, after) =>
        (gap.text ++ c :: text, after)

def consAfter (gap : Gap) (c : Char) :
    Option (List Char × Position × List Char) → Option (List Char × Position × List Char)
  | some (text, after) => some (gap.text ++ c :: text, after)
  | none => none

def singleRest? (p : Position) (gap : Gap) : List Char → Option (List Char × Position × List Char)
  | [] => none
  | '\r' :: '\n' :: cs => singleRest? (p.nextLine 2) (gap.addBreak '\n') cs
  | '\x27' :: '\x27' :: cs => consAfter gap '\x27' (singleRest? (p.skip 2) .none cs)
  | '\x27' :: cs => some (gap.text, p.skip 1, cs)
  | c :: cs =>
    if isBreak c then singleRest? (p.nextLine 1) (gap.addBreak (normalBreak c)) cs
    else if isBlank c then singleRest? (p.skip 1) (gap.addBlank c) cs
    else if isDocumentMark p (c :: cs) then none
    else consAfter gap c (singleRest? (p.skip 1) .none cs)

def escapedChar? (c : Char) : Option Char :=
  [('0', '\x00'), ('a', '\x07'), ('b', '\x08'), ('t', '\t'), ('\t', '\t'), ('n', '\n'),
   ('v', '\x0b'), ('f', '\x0c'), ('r', '\r'), ('e', '\x1b'), (' ', ' '), ('"', '"'), ('/', '/'),
   ('\\', '\\'), ('N', '\x85'), ('_', '\xa0'), ('L', '\u2028'), ('P', '\u2029')].lookup c

/-- Reads a scalar in quotes behind the first one. A backslash before a line end joins the lines
    without a space. -/
def doubleRest? (p : Position) (gap : Gap) : List Char → Option (List Char × Position × List Char)
  | [] => none
  | '\r' :: '\n' :: cs => doubleRest? (p.nextLine 2) (gap.addBreak '\n') cs
  | '"' :: cs => some (gap.text, p.skip 1, cs)
  | '\\' :: '\r' :: '\n' :: cs =>
    (doubleRest? (p.nextLine 3) (.lines none []) cs).map fun (text, after) =>
      (gap.text ++ text, after)
  | '\\' :: 'x' :: a :: b :: cs =>
    ((natOfHex? [a, b]).bind charOfNat?).bind fun c =>
      consAfter gap c (doubleRest? (p.skip 4) .none cs)
  | '\\' :: 'u' :: a :: b :: c :: d :: cs =>
    ((natOfHex? [a, b, c, d]).bind charOfNat?).bind fun c =>
      consAfter gap c (doubleRest? (p.skip 6) .none cs)
  | '\\' :: 'U' :: a :: b :: c :: d :: e :: f :: g :: h :: cs =>
    ((natOfHex? [a, b, c, d, e, f, g, h]).bind charOfNat?).bind fun c =>
      consAfter gap c (doubleRest? (p.skip 10) .none cs)
  | '\\' :: c :: cs =>
    if isBreak c then
      (doubleRest? (p.nextLine 2) (.lines none []) cs).map fun (text, after) =>
        (gap.text ++ text, after)
    else (escapedChar? c).bind fun c => consAfter gap c (doubleRest? (p.skip 2) .none cs)
  | c :: cs =>
    if isBreak c then doubleRest? (p.nextLine 1) (gap.addBreak (normalBreak c)) cs
    else if isBlank c then doubleRest? (p.skip 1) (gap.addBlank c) cs
    else if isDocumentMark p (c :: cs) || c == '\\' then none
    else consAfter gap c (doubleRest? (p.skip 1) .none cs)

inductive Chomp where
  | strip
  | clip
  | keep
  deriving DecidableEq

def Chomp.ofChar? (c : Char) : Option Chomp :=
  if c = '-' then some strip else if c = '+' then some keep else none

/-- Reads the hints of a block: what becomes of its last line ends, and its indentation or zero.
    The number of characters read is given too. -/
def blockHints? : List Char → Option (Chomp × Nat × Nat × List Char)
  | [] => some (.clip, 0, 0, [])
  | c :: cs =>
    match Chomp.ofChar? c with
    | some chomp =>
      match cs with
      | d :: rest =>
        if d = '0' then none
        else if d.isDigit then some (chomp, d.toNat - '0'.toNat, 2, rest)
        else some (chomp, 0, 1, cs)
      | [] => some (chomp, 0, 1, [])
    | none =>
      if c = '0' then none
      else if c.isDigit then
        match cs.head?.bind Chomp.ofChar? with
        | some chomp => some (chomp, c.toNat - '0'.toNat, 2, cs.drop 1)
        | none => some (.clip, c.toNat - '0'.toNat, 1, cs)
      else some (.clip, 0, 0, c :: cs)

def skipLineRest (p : Position) (cs : List Char) : Position × List Char :=
  let blanks := cs.takeWhile isBlank
  let rest := cs.dropWhile isBlank
  match rest with
  | '#' :: _ =>
    (p.skip (blanks.length + (rest.takeWhile (!isBreak ·)).length), rest.dropWhile (!isBreak ·))
  | _ => (p.skip blanks.length, rest)

def takeBreak (p : Position) : List Char → List Char × Position × List Char
  | '\r' :: '\n' :: cs => (['\n'], p.nextLine 2, cs)
  | c :: cs => if isBreak c then ([normalBreak c], p.nextLine 1, cs) else ([], p, c :: cs)
  | [] => ([], p, [])

/-- Empty lines of a block and the indentation behind them. Spaces are skipped up to the column
    `indent`, or all of them if that is zero; a tab must not stand among them. The largest column
    reached is given too. -/
def emptyLines? (indent widest : Nat) (p : Position) :
    List Char → Option (List Char × Nat × Position × List Char)
  | [] => some ([], max widest p.column, p, [])
  | '\r' :: '\n' :: cs =>
    (emptyLines? indent (max widest p.column) (p.nextLine 2) cs).map fun (breaks, after) =>
      ('\n' :: breaks, after)
  | c :: cs =>
    if c == ' ' && (indent = 0 || p.column < indent) then emptyLines? indent widest (p.skip 1) cs
    else if c == '\t' && (indent = 0 || p.column < indent) then none
    else if isBreak c then
      (emptyLines? indent (max widest p.column) (p.nextLine 1) cs).map fun (breaks, after) =>
        (normalBreak c :: breaks, after)
    else some ([], max widest p.column, p, c :: cs)

structure BlockLine where
  text : List Char
  ending : List Char
  blanks : List Char

/-- The lines of a block at a column. The fuel bounds their number. -/
def blockLines? (indent : Nat) :
    Nat → Position → List Char → Option (List BlockLine × Position × List Char)
  | 0, _, _ => none
  | fuel + 1, p, cs =>
    if p.column = indent && !cs.isEmpty then
      let text := cs.takeWhile (!isBreak ·)
      let (ending, afterLine, rest) :=
        takeBreak (p.skip text.length) (cs.dropWhile (!isBreak ·))
      match emptyLines? indent 0 afterLine rest with
      | some (blanks, _, next, rest) =>
        (blockLines? indent fuel next rest).map fun (lines, after) =>
          (⟨text, ending, blanks⟩ :: lines, after)
      | none => none
    else some ([], p, cs)

def BlockLine.isIndented (l : BlockLine) : Bool := l.text.head?.any isBlank

/-- What stands between two lines. Folding joins them, unless one of them is indented further. -/
def BlockLine.joint (folded : Bool) (line next : BlockLine) : List Char :=
  if folded && line.ending == ['\n'] && !line.isIndented && !next.isIndented then
    if line.blanks.isEmpty then [' '] else line.blanks
  else line.ending ++ line.blanks

def blockText (folded : Bool) (chomp : Chomp) : List BlockLine → List Char
  | [] => []
  | [last] =>
    last.text ++ (if chomp = .strip then [] else last.ending)
      ++ (if chomp = .keep then last.blanks else [])
  | line :: next :: lines =>
    line.text ++ line.joint folded next ++ blockText folded chomp (next :: lines)

/-- Reads a block behind its mark. `outer` is the column of the block around it, or -1. -/
def block? (folded : Bool) (outer : Int) (p : Position) (cs : List Char) :
    Option (List Char × Position × List Char) := do
  let (chomp, increment, width, afterHints) ← blockHints? cs
  let (lineEnd, rest) := skipLineRest (p.skip width) afterHints
  if !rest.head?.all isBreak then none
  else
    let (_, start, body) := takeBreak lineEnd rest
    let given := if increment = 0 then 0 else (max outer 0).toNat + increment
    let (blanks, widest, next, rest) ← emptyLines? given 0 start body
    let indent := if given = 0 then max widest (max (outer + 1).toNat 1) else given
    let (lines, after, rest) ← blockLines? indent (rest.length + 1) next rest
    let text :=
      if lines.isEmpty && chomp ≠ .keep then [] else blanks ++ blockText folded chomp lines
    some (text, after, rest)

end Crosslink.Yaml
