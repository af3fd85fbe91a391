import Crosslink.Toml.Scalar

set_option autoImplicit false

namespace Crosslink.Toml

def isSpace (c : Char) : Bool := c == ' ' || c == '\t'

def skipSpaces (cs : List Char) : List Char := cs.dropWhile isSpace

def isTextChar (c : Char) : Bool := c == '\t' || (0x20 ≤ c.toNat && c.toNat ≠ 0x7F)

def afterLineEnd? : List Char → Option (List Char)
  | '\n' :: cs => some cs
  | '\r' :: '\n' :: cs => some cs
  | _ => none

def afterLine? (cs : List Char) : Option (List Char) :=
  let rest :=
    match skipSpaces cs with
    | '#' :: cs => cs.dropWhile isTextChar
    | cs => cs
  match rest with
  | [] => some []
  | rest => afterLineEnd? rest

/-- Skips spaces, line ends and comments; `comment` tells whether a comment is open. A character
    that no comment may hold is left standing. -/
def skipLines : (comment : Bool) → List Char → List Char
  | _, [] => []
  | _, '\n' :: cs => skipLines false cs
  | _, '\r' :: '\n' :: cs => skipLines false cs
  | true, c :: cs => if isTextChar c then skipLines true cs else c :: cs
  | false, '#' :: cs => skipLines true cs
  | false, c :: cs => if isSpace c then skipLines false cs else c :: cs

def consChar (c : Char) : Option (List Char × List Char) → Option (List Char × List Char)
  | some (text, rest) => some (c :: text, rest)
  | none => none

def escaped? (c : Char) : Option Char :=
  if c = 'b' then some '\x08'
  else if c = 't' then some '\t'
  else if c = 'n' then some '\n'
  else if c = 'f' then some '\x0c'
  else if c = 'r' then some '\r'
  else if c = '"' then some '"'
  else if c = '\\' then some '\\'
  else none

def codePoint? (digits : List Char) : Option Char := (natOfHex? digits).bind charOfNat?

def basicBody? : List Char → Option (List Char × List Char)
  | [] => none
  | '"' :: cs => some ([], cs)
  | '\\' :: 'u' :: a :: b :: c :: d :: cs =>
    (codePoint? [a, b, c, d]).bind fun c => consChar c (basicBody? cs)
  | '\\' :: 'U' :: a :: b :: c :: d :: e :: f :: g :: h :: cs =>
    (codePoint? [a, b, c, d, e, f, g, h]).bind fun c => consChar c (basicBody? cs)
  | '\\' :: c :: cs => (escaped? c).bind fun c => consChar c (basicBody? cs)
  | c :: cs => if c = '\\' || !isTextChar c then none else consChar c (basicBody? cs)

def endsLine (cs : List Char) : Bool := (afterLineEnd? (skipSpaces cs)).isSome

/-- Reads a string of several lines behind its opening quotes. Up to two quotes may stand right
    before the closing ones. With `joining`, blanks are skipped up to the next text. -/
def linesBody? : (joining : Bool) → List Char → Option (List Char × List Char)
  | _, [] => none
  | true, '\r' :: '\n' :: cs => linesBody? true cs
  | false, '\r' :: '\n' :: cs => consChar '\n' (linesBody? false cs)
  | _, '"' :: '"' :: '"' :: '"' :: '"' :: cs => some (['"', '"'], cs)
  | _, '"' :: '"' :: '"' :: '"' :: cs => some (['"'], cs)
  | _, '"' :: '"' :: '"' :: cs => some ([], cs)
  | joining, '\\' :: cs =>
    if endsLine cs then linesBody? true cs
    else
      match cs with
      | 'u' :: a :: b :: c :: d :: cs =>
        (codePoint? [a, b, c, d]).bind fun c => consChar c (linesBody? false cs)
      | 'U' :: a :: b :: c :: d :: e :: f :: g :: h :: cs =>
        (codePoint? [a, b, c, d, e, f, g, h]).bind fun c => consChar c (linesBody? false cs)
      | c :: cs => (escaped? c).bind fun c => consChar c (linesBody? false cs)
      | [] => linesBody? joining []
  | joining, c :: cs =>
    if joining && (isSpace c || c = '\n') then linesBody? true cs
    else if c = '\n' || isTextChar c then consChar c (linesBody? false cs)
    else none

def literalBody? : List Char → Option (List Char × List Char)
  | [] => none
  | '\x27' :: cs => some ([], cs)
  | c :: cs => if isTextChar c then consChar c (literalBody? cs) else none

def literalLinesBody? : List Char → Option (List Char × List Char)
  | [] => none
  | '\x27' :: '\x27' :: '\x27' :: '\x27' :: '\x27' :: cs => some (['\x27', '\x27'], cs)
  | '\x27' :: '\x27' :: '\x27' :: '\x27' :: cs => some (['\x27'], cs)
  | '\x27' :: '\x27' :: '\x27' :: cs => some ([], cs)
  | '\r' :: '\n' :: cs => consChar '\n' (literalLinesBody? cs)
  | c :: cs => if c = '\n' || isTextChar c then consChar c (literalLinesBody? cs) else none

def dropFirstLineEnd (cs : List Char) : List Char := (afterLineEnd? cs).getD cs

def lineString? : List Char → Option (List Char × List Char)
  | '"' :: cs => basicBody? cs
  | '\x27' :: cs => literalBody? cs
  | _ => none

def string? : List Char → Option (List Char × List Char)
  | '"' :: '"' :: '"' :: cs => linesBody? false (dropFirstLineEnd cs)
  | '\x27' :: '\x27' :: '\x27' :: cs => literalLinesBody? (dropFirstLineEnd cs)
  | cs => lineString? cs

def isBareChar (c : Char) : Bool := c.isAlphanum || c == '_' || c == '-'

def simpleKey? (cs : List Char) : Option (String × List Char) :=
  if (cs.takeWhile isBareChar).isEmpty then
    (lineString? cs).map fun (key, rest) => (String.ofList key, rest)
  else some (String.ofList (cs.takeWhile isBareChar), cs.dropWhile isBareChar)

def depthLimit : Nat := 79

def key? : Nat → List Char → Option (List String × List Char)
  | 0, _ => none
  | fuel + 1, cs =>
    match simpleKey? (skipSpaces cs) with
    | some (key, rest) =>
      match skipSpaces rest with
      | '.' :: rest => (key? fuel rest).map fun (keys, rest) => (key :: keys, rest)
      | rest => some ([key], rest)
    | none => none

def assigned? (cs : List Char) : Option (List String × String × List Char) :=
  match key? depthLimit cs with
  | some (keys, '=' :: rest) => keys.getLast?.map fun key => (keys.dropLast, key, skipSpaces rest)
  | _ => none

/-- Reads an unquoted scalar. Between a date and a time there may be a space. -/
def bare? (cs : List Char) : Option (Value × List Char) :=
  let word := cs.takeWhile isScalarChar
  let rest := cs.dropWhile isScalarChar
  match afterDate? word, rest with
  | some [], ' ' :: more =>
    let time := more.takeWhile isScalarChar
    if isTimeWithOffset time then
      some (.moment (String.ofList (word ++ ' ' :: time)), more.dropWhile isScalarChar)
    else some (.moment (String.ofList word), rest)
  | _, _ => (scalar? word).map fun v => (v, rest)

mutual

def value? : (fuel depth : Nat) → List Char → Option (Value × List Char)
  | 0, _, _ => none
  | fuel + 1, depth, cs =>
    match depth, cs with
    | 0, '[' :: _ => none
    | 0, '\x7b' :: _ => none
    | depth + 1, '[' :: cs =>
      (items? fuel depth (skipLines false cs)).map fun (items, rest) => (.array items, rest)
    | depth + 1, '\x7b' :: cs =>
      match skipSpaces cs with
      | '\x7d' :: rest => some (.table .inline [], rest)
      | cs => (entries? fuel depth [] cs).map fun (entries, rest) => (.table .inline entries, rest)
    | _, '"' :: _ => (string? cs).map fun (s, rest) => (.string (String.ofList s), rest)
    | _, '\x27' :: _ => (string? cs).map fun (s, rest) => (.string (String.ofList s), rest)
    | _, _ => bare? cs

/-- Reads the items of an array up to its closing bracket; a comma may stand behind the last. -/
def items? : (fuel depth : Nat) → List Char → Option (List Value × List Char)
  | 0, _, _ => none
  | fuel + 1, depth, cs =>
    match cs with
    | ']' :: rest => some ([], rest)
    | cs =>
      match value? fuel depth cs with
      | some (v, rest) =>
        match skipLines false rest with
        | ']' :: rest => some ([v], rest)
        | ',' :: rest =>
          (items? fuel depth (skipLines false rest)).map fun (vs, rest) => (v :: vs, rest)
        | _ => none
      | none => none

def entries? : (fuel depth : Nat) → Entries → List Char → Option (Entries × List Char)
  | 0, _, _, _ => none
  | fuel + 1, depth, before, cs =>
    match assigned? cs with
    | some (path, key, rest) =>
      match value? fuel depth rest with
      | some (v, rest) =>
        match assign path key v before with
        | some entries =>
          match skipSpaces rest with
          | '\x7d' :: rest => some (entries, rest)
          | ',' :: rest => entries? fuel depth entries rest
          | _ => none
        | none => none
      | none => none
    | none => none

end

def header? : List Char → Option (Statement × List Char)
  | '[' :: cs =>
    match key? depthLimit cs with
    | some (path, ']' :: ']' :: rest) => some (.arrayHeader path, rest)
    | _ => none
  | cs =>
    match key? depthLimit cs with
    | some (path, ']' :: rest) => some (.header path, rest)
    | _ => none

def statement? : List Char → Option (Statement × List Char)
  | '[' :: cs => header? cs
  | cs =>
    match assigned? cs with
    | some (path, key, rest) =>
      (value? (2 * rest.length + 2) depthLimit rest).map fun (v, rest) => (.assign path key v, rest)
    | none => none

def statements? : Nat → List Char → Option (List Statement)
  | 0, _ => none
  | fuel + 1, cs =>
    match skipLines false cs with
    | [] => some []
    | cs =>
      match statement? cs with
      | some (statement, rest) =>
        (afterLine? rest).bind fun rest => (statements? fuel rest).map (statement :: ·)
      | none => none

def dropMark : List Char → List Char
  | '\uFEFF' :: cs => cs
  | cs => cs

def read? (text : String) : Option Entries :=
  (statements? (text.length + 1) (dropMark text.toList)).bind (build [] [])

end Crosslink.Toml
