import Crosslink.Yaml.Scalar

set_option autoImplicit false

/-!
From a text to tokens. Indentation opens and closes blocks. A key on one line is known as such only
when its colon is found, so the place where it may have started is kept, one for each pair of
brackets around it.
-/

namespace Crosslink.Yaml

/-- The characters of a tag; `verbatim` ones may hold commas and brackets. -/
def isTagChar (verbatim : Bool) (c : Char) : Bool :=
  isWordChar c || ";/?:@&=+$.%!~*\x27()".toList.contains c
    || (verbatim && ",[]".toList.contains c)

def byteWidth? (n : Nat) : Option Nat :=
  if n < 0x80 then some 1
  else if 0xC0 ≤ n && n < 0xE0 then some 2
  else if 0xE0 ≤ n && n < 0xF0 then some 3
  else if 0xF0 ≤ n && n < 0xF8 then some 4
  else none

def moreBytes? : Nat → Nat → List Char → Option (Nat × List Char)
  | 0, value, cs => some (value, cs)
  | n + 1, value, '%' :: a :: b :: cs =>
    (natOfHex? [a, b]).bind fun byte =>
      if 0x80 ≤ byte && byte < 0xC0 then moreBytes? n (value * 0x40 + (byte - 0x80)) cs else none
  | _ + 1, _, _ => none

def escapedBytes? : List Char → Option (Char × List Char)
  | '%' :: a :: b :: cs =>
    (natOfHex? [a, b]).bind fun byte =>
      (byteWidth? byte).bind fun width =>
        let start := if width = 1 then byte else byte % Nat.pow 2 (7 - width)
        (moreBytes? (width - 1) start cs).map fun (value, rest) => (Char.ofNat value, rest)
  | _ => none

def tagChars? (verbatim : Bool) : Nat → List Char → Option (List Char × List Char)
  | 0, _ => none
  | _ + 1, [] => some ([], [])
  | fuel + 1, c :: cs =>
    if c = '%' then
      (escapedBytes? (c :: cs)).bind fun (d, rest) =>
        (tagChars? verbatim fuel rest).map fun (text, rest) => (d :: text, rest)
    else if isTagChar verbatim c then
      (tagChars? verbatim fuel cs).map fun (text, rest) => (c :: text, rest)
    else some ([], c :: cs)

/-- Reads a handle: `!`, `!!` or `!name!`. What is not closed by a second `!` may be part of a
    tag. -/
def tagHandle? : List Char → Option (List Char × List Char)
  | '!' :: cs =>
    let name := cs.takeWhile isWordChar
    match cs.dropWhile isWordChar with
    | '!' :: rest => some ('!' :: name ++ ['!'], rest)
    | rest => some ('!' :: name, rest)
  | _ => none

def isClosedHandle (handle : List Char) : Bool := 2 ≤ handle.length && handle.getLast? = some '!'

def tag? (cs : List Char) : Option (Token × List Char) :=
  match cs with
  | '!' :: '<' :: rest =>
    match tagChars? true (rest.length + 1) rest with
    | some (suffix, '>' :: rest) =>
      if suffix.isEmpty then none else some (.tag "" (String.ofList suffix), rest)
    | _ => none
  | _ =>
    (tagHandle? cs).bind fun (handle, rest) =>
      (tagChars? false (rest.length + 1) rest).bind fun (suffix, rest) =>
        if isClosedHandle handle then
          if suffix.isEmpty then none
          else some (.tag (String.ofList handle) (String.ofList suffix), rest)
        else
          let whole := handle.drop 1 ++ suffix
          if whole.isEmpty then some (.tag "" "!", rest)
          else some (.tag "!" (String.ofList whole), rest)

def anchorName? (cs : List Char) : Option (String × List Char) :=
  let name := cs.takeWhile isWordChar
  let next := (cs.dropWhile isWordChar).head?
  if name.isEmpty || !(endsWord next || next.any ("?:,]\x7d%@\x60".toList.contains ·)) then none
  else some (String.ofList name, cs.dropWhile isWordChar)

def versionNumber? (cs : List Char) : Option (Nat × List Char) :=
  let ds := cs.takeWhile Char.isDigit
  if ds.isEmpty || 9 < ds.length then none
  else some (Decimal.natOfDigits ds, cs.dropWhile Char.isDigit)

def versionDirective? (cs : List Char) : Option (Token × List Char) := do
  let (major, afterMajor) ← versionNumber? (cs.dropWhile isBlank)
  match afterMajor with
  | '.' :: rest =>
    let (minor, rest) ← versionNumber? rest
    return (.version major minor, rest)
  | _ => none

def handleDirective? (cs : List Char) : Option (Token × List Char) := do
  let (handle, afterHandle) ← tagHandle? (cs.dropWhile isBlank)
  if handle.length ≠ 1 && !isClosedHandle handle then none
  else if !afterHandle.head?.any isBlank then none
  else
    let start := afterHandle.dropWhile isBlank
    let (uri, rest) ← tagChars? true (start.length + 1) start
    if uri.isEmpty || !endsWord rest.head? then none
    else some (.handle (String.ofList handle) (String.ofList uri), rest)

def directive? (cs : List Char) : Option (Token × List Char) := do
  let name := cs.takeWhile isWordChar
  let rest := cs.dropWhile isWordChar
  if !endsWord rest.head? then none
  else
    let (token, rest) ←
      if name = "YAML".toList then versionDirective? rest
      else if name = "TAG".toList then handleDirective? rest
      else none
    let (_, rest) := skipLineRest {} rest
    if rest.head?.all isBreak then some (token, rest) else none

/-- Where a key on one line may have started: the number of the token before which it stands, and
    its place. A required one must turn out to be a key. -/
structure PossibleKey where
  required : Bool
  number : Nat
  position : Position

structure Lexer where
  position : Position := {}
  rest : List Char
  tokens : Array Token := #[]
  /-- The column of the innermost block, or -1, and those of the blocks around it. -/
  indent : Int := -1
  indents : List Int := []
  keyAllowed : Bool := true
  /-- A possible key for each level of brackets, the innermost first; the last one is outside. -/
  keys : List (Option PossibleKey) := [none]

namespace Lexer

def inFlow (s : Lexer) : Bool := 1 < s.keys.length

def emit (s : Lexer) (t : Token) : Lexer := { s with tokens := s.tokens.push t }

def skip (s : Lexer) (n : Nat) : Lexer :=
  { s with position := s.position.skip n, rest := s.rest.drop n }

def moveTo (s : Lexer) (p : Position) (rest : List Char) : Lexer :=
  { s with position := p, rest := rest }

/-- Skips blanks, comments and line ends up to the next token. Tabs are skipped only where no key
    may start; a new line outside brackets allows one. -/
def skipBlanks (flow allowed comment : Bool) (p : Position) :
    List Char → Bool × Position × List Char
  | [] => (allowed, p, [])
  | '\r' :: '\n' :: cs => skipBlanks flow (allowed || !flow) false (p.nextLine 2) cs
  | c :: cs =>
    if isBreak c then skipBlanks flow (allowed || !flow) false (p.nextLine 1) cs
    else if comment || c == ' ' || (c == '\t' && (flow || !allowed))
        || (c == '\uFEFF' && p.index = 0) then
      skipBlanks flow allowed comment (p.skip 1) cs
    else if c == '#' then skipBlanks flow allowed true (p.skip 1) cs
    else (allowed, p, c :: cs)

def expireKey (p : Position) : Option PossibleKey → Option (Option PossibleKey)
  | some key =>
    if key.position.line < p.line || key.position.index + 1024 < p.index then
      if key.required then none else some none
    else some (some key)
  | none => some none

def closeTo (column indent : Int) : List Int → Nat × Int × List Int
  | [] => (0, indent, [])
  | outer :: indents =>
    if column < indent then
      let (n, rest) := closeTo column outer indents
      (n + 1, rest)
    else (0, indent, outer :: indents)

def unroll (s : Lexer) (column : Int) : Lexer :=
  if s.inFlow then s
  else
    let (n, indent, indents) := closeTo column s.indent s.indents
    { s with
      tokens := s.tokens ++ Array.replicate n Token.blockEnd
      indent := indent
      indents := indents }

/-- Opens a block at a column, if that lies behind the innermost block. The token goes before the
    token of the given number. -/
def roll (s : Lexer) (column number : Nat) (t : Token) : Lexer :=
  if s.inFlow || (column : Int) ≤ s.indent then s
  else
    { s with
      tokens := s.tokens.insertIdxIfInBounds number t
      indent := column
      indents := s.indent :: s.indents }

def dropKey? (s : Lexer) : Option Lexer :=
  match s.keys with
  | some key :: keys => if key.required then none else some { s with keys := none :: keys }
  | _ => some s

def saveKey? (s : Lexer) : Option Lexer :=
  if s.keyAllowed then
    s.dropKey?.map fun s =>
      let key : PossibleKey :=
        { required := !s.inFlow && s.indent = s.position.column
          number := s.tokens.size
          position := s.position }
      { s with keys := some key :: s.keys.drop 1 }
  else some s

def allowKey (s : Lexer) (allowed : Bool) : Lexer := { s with keyAllowed := allowed }

def mark (s : Lexer) (n : Nat) (t : Token) : Lexer := (s.skip n).emit t

def directive? (s : Lexer) : Option Lexer := do
  let s ← (s.unroll (-1)).dropKey?
  let (token, rest) ← Yaml.directive? (s.rest.drop 1)
  let width := s.rest.length - rest.length
  let (_, position, rest) := takeBreak (s.position.skip width) rest
  return ((s.allowKey false).moveTo position rest).emit token

def documentMark? (s : Lexer) (t : Token) : Option Lexer := do
  let s ← (s.unroll (-1)).dropKey?
  return (s.allowKey false).mark 3 t

def open? (s : Lexer) (t : Token) : Option Lexer := do
  let s ← s.saveKey?
  return ({ s with keys := none :: s.keys }.allowKey true).mark 1 t

def close? (s : Lexer) (t : Token) : Option Lexer := do
  let s ← s.dropKey?
  let keys := if s.inFlow then s.keys.drop 1 else s.keys
  return ({ s with keys := keys }.allowKey false).mark 1 t

def comma? (s : Lexer) : Option Lexer := do
  let s ← s.dropKey?
  return (s.allowKey true).mark 1 .comma

def entry? (s : Lexer) : Option Lexer := do
  if !s.inFlow && !s.keyAllowed then none
  else
    let s ← (s.roll s.position.column s.tokens.size .sequenceStart).dropKey?
    return (s.allowKey true).mark 1 .entry

def key? (s : Lexer) : Option Lexer := do
  if !s.inFlow && !s.keyAllowed then none
  else
    let s ← (s.roll s.position.column s.tokens.size .mappingStart).dropKey?
    return (s.allowKey (!s.inFlow)).mark 1 .key

def value? (s : Lexer) : Option Lexer :=
  match s.keys with
  | some key :: keys =>
    let s := { s with keys := none :: keys, tokens := s.tokens.insertIdxIfInBounds key.number .key }
    some (((s.roll key.position.column key.number .mappingStart).allowKey false).mark 1 .value)
  | _ =>
    if !s.inFlow && !s.keyAllowed then none
    else
      let s := s.roll s.position.column s.tokens.size .mappingStart
      some ((s.allowKey (!s.inFlow)).mark 1 .value)

def anchor? (s : Lexer) (token : String → Token) : Option Lexer := do
  let s ← s.saveKey?
  let (name, _) ← anchorName? (s.rest.drop 1)
  return (s.allowKey false).mark (name.length + 1) (token name)

def tag? (s : Lexer) : Option Lexer := do
  let s ← s.saveKey?
  let (token, rest) ← Yaml.tag? s.rest
  if !endsWord rest.head? && !(s.inFlow && rest.head? = some ',') then none
  else return (s.allowKey false).mark (s.rest.length - rest.length) token

def block? (s : Lexer) (style : ScalarStyle) : Option Lexer := do
  let s ← s.dropKey?
  let (text, position, rest) ←
    Yaml.block? (style = .folded) s.indent (s.position.skip 1) (s.rest.drop 1)
  return ((s.allowKey true).moveTo position rest).emit (.scalar style (String.ofList text))

def quoted? (s : Lexer) (style : ScalarStyle) : Option Lexer := do
  let s ← s.saveKey?
  let read := if style = .single then singleRest? else doubleRest?
  let (text, position, rest) ← read (s.position.skip 1) .none (s.rest.drop 1)
  return ((s.allowKey false).moveTo position rest).emit (.scalar style (String.ofList text))

def plain? (s : Lexer) : Option Lexer := do
  let s ← s.saveKey?
  let (text, lineEnded, position, rest) ←
    plainRest? s.inFlow (s.indent + 1).toNat s.position .none s.rest
  return ((s.allowKey lineEnded).moveTo position rest).emit (.scalar .plain (String.ofList text))

def startsPlain (flow : Bool) (c : Char) (next : Option Char) : Bool :=
  !(endsWord (some c) || "-?:,[]\x7b\x7d#&*!|>\x27\"%@\x60".toList.contains c)
    || (c == '-' && !next.any isBlank)
    || (!flow && (c == '?' || c == ':') && !endsWord next)

def token? (s : Lexer) : Option Lexer :=
  match s.rest with
  | [] => none
  | c :: cs =>
    let next := cs.head?
    let flow := s.inFlow
    if s.position.column = 0 && c == '%' then s.directive?
    else if isDocumentMark s.position (c :: cs) then
      s.documentMark? (if c = '-' then .documentStart else .documentEnd)
    else if c = '[' then s.open? .openBracket
    else if c = '\x7b' then s.open? .openBrace
    else if c = ']' then s.close? .closeBracket
    else if c = '\x7d' then s.close? .closeBrace
    else if c = ',' then s.comma?
    else if c = '-' && endsWord next then s.entry?
    else if c = '?' && (flow || endsWord next) then s.key?
    else if c = ':' && (flow || endsWord next) then s.value?
    else if c = '*' then s.anchor? .alias
    else if c = '&' then s.anchor? .anchor
    else if c = '!' then s.tag?
    else if c = '|' && !flow then s.block? .literal
    else if c = '>' && !flow then s.block? .folded
    else if c = '\x27' then s.quoted? .single
    else if c = '"' then s.quoted? .double
    else if startsPlain flow c next then s.plain?
    else none

/-- Goes to the next token: possible keys expire and blocks are closed on the way. -/
def advance? (s : Lexer) : Option Lexer := do
  let (allowed, position, rest) := skipBlanks s.inFlow s.keyAllowed false s.position s.rest
  let keys ← s.keys.mapM (expireKey position)
  let moved := { s with keys := keys, keyAllowed := allowed }.moveTo position rest
  return moved.unroll position.column

def run? : Nat → Lexer → Option (List Token)
  | 0, _ => none
  | fuel + 1, s => do
    let s ← s.advance?
    if s.rest.isEmpty then
      let s ← (s.unroll (-1)).dropKey?
      return s.tokens.toList
    else
      let s ← s.token?
      run? fuel s

end Lexer

def dropMark : List Char → List Char
  | '\uFEFF' :: cs => cs
  | cs => cs

/-- The tokens of a text. A text with characters that YAML does not allow has none. -/
def tokens? (text : String) : Option (List Token) :=
  let cs := dropMark text.toList
  if cs.all isAllowed then Lexer.run? (cs.length + 1) { rest := cs } else none

end Crosslink.Yaml
