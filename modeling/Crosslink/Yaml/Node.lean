import Crosslink.Yaml.Lexer

set_option autoImplicit false

namespace Crosslink.Yaml

inductive Node where
  | alias (number : Nat)
  | scalar (anchor : Option Nat) (tag : Option String) (style : ScalarStyle) (text : String)
  | sequence (anchor : Option Nat) (tag : Option String) (items : List Node)
  | mapping (anchor : Option Nat) (tag : Option String) (entries : List (Node × Node))

def Node.empty : Node := .scalar none none .plain ""

structure Input where
  tokens : List Token
  names : List (String × Nat) := []

namespace Input

def next? (i : Input) : Option Token := i.tokens.head?

def drop (i : Input) : Input := { i with tokens := i.tokens.drop 1 }

end Input

def nameCount (names : List (String × Nat)) : Nat := (names.map Prod.fst).eraseDups.length

def standardHandles : List (String × String) := [("!", "!"), ("!!", "tag:yaml.org,2002:")]

def fullTag? (handles : List (String × String)) (handle suffix : String) : Option String :=
  if handle.isEmpty then some suffix else (handles.lookup handle).map (· ++ suffix)

def scalarTag (tag : Option String) : Option String := if tag = some "!" then none else tag

def properties? (handles : List (String × String)) (i : Input) :
    Option (Option String × Option String × Input) :=
  match i.tokens with
  | .anchor name :: .tag handle suffix :: rest =>
    (fullTag? handles handle suffix).map fun tag => (some name, some tag, { i with tokens := rest })
  | .tag handle suffix :: .anchor name :: rest =>
    (fullTag? handles handle suffix).map fun tag => (some name, some tag, { i with tokens := rest })
  | .anchor name :: rest => some (some name, none, { i with tokens := rest })
  | .tag handle suffix :: rest =>
    (fullTag? handles handle suffix).map fun tag => (none, some tag, { i with tokens := rest })
  | _ => some (none, none, i)

/-- Numbers the anchor of a node, if it has one. The number is that of the different names before
    it, so that one may be given again after a name was used twice. -/
def number (name : Option String) (i : Input) : Option Nat × Input :=
  match name with
  | some name =>
    let n := nameCount i.names
    (some n, { i with names := (name, n) :: i.names })
  | none => (none, i)

mutual

/-- Reads a node. Blocks are allowed with `block`; with `indentless` a sequence may stand at the
    column of the mapping it is a value of. -/
def node? (handles : List (String × String)) (block indentless : Bool) :
    Nat → Input → Option (Node × Input)
  | 0, _ => none
  | fuel + 1, i =>
    match i.tokens with
    | .alias name :: _ => (i.names.lookup name).map fun n => (.alias n, i.drop)
    | _ => do
      let (name, tag, i) ← properties? handles i
      let (anchor, i) := number name i
      match i.next? with
      | some (.scalar style text) => return (.scalar anchor (scalarTag tag) style text, i.drop)
      | some .openBracket =>
        let (items, i) ← flowItems? handles true fuel i.drop
        return (.sequence anchor tag items, i)
      | some .openBrace =>
        let (entries, i) ← flowEntries? handles true fuel i.drop
        return (.mapping anchor tag entries, i)
      | some .entry =>
        if indentless then
          let (items, i) ← indentlessItems? handles fuel i
          return (.sequence anchor tag items, i)
        else blank? anchor name tag i
      | some .sequenceStart =>
        if block then
          let (items, i) ← blockItems? handles fuel i.drop
          return (.sequence anchor tag items, i)
        else blank? anchor name tag i
      | some .mappingStart =>
        if block then
          let (entries, i) ← blockEntries? handles fuel i.drop
          return (.mapping anchor tag entries, i)
        else blank? anchor name tag i
      | _ => blank? anchor name tag i
where
  blank? (anchor : Option Nat) (name tag : Option String) (i : Input) : Option (Node × Input) :=
    if name.isSome || tag.isSome then some (.scalar anchor tag .plain "", i) else none

def nodeOrEmpty? (handles : List (String × String)) (block indentless : Bool) (stops : List Token) :
    Nat → Input → Option (Node × Input)
  | 0, _ => none
  | fuel + 1, i =>
    match i.next? with
    | some t =>
      if t ∈ stops then some (.empty, i) else node? handles block indentless fuel i
    | none => node? handles block indentless fuel i

def blockItems? (handles : List (String × String)) : Nat → Input → Option (List Node × Input)
  | 0, _ => none
  | fuel + 1, i =>
    match i.next? with
    | some .entry => do
      let (item, i) ← nodeOrEmpty? handles true false [.entry, .blockEnd] fuel i.drop
      let (items, i) ← blockItems? handles fuel i
      return (item :: items, i)
    | some .blockEnd => some ([], i.drop)
    | _ => none

def indentlessItems? (handles : List (String × String)) : Nat → Input → Option (List Node × Input)
  | 0, _ => none
  | fuel + 1, i =>
    match i.next? with
    | some .entry => do
      let (item, i) ←
        nodeOrEmpty? handles true false [.entry, .key, .value, .blockEnd] fuel i.drop
      let (items, i) ← indentlessItems? handles fuel i
      return (item :: items, i)
    | _ => some ([], i)

/-- Reads the entries of a block mapping up to its end. A key without a value and a value without a
    key are completed by nothing. -/
def blockEntries? (handles : List (String × String)) :
    Nat → Input → Option (List (Node × Node) × Input)
  | 0, _ => none
  | fuel + 1, i =>
    match i.next? with
    | some .key => do
      let (key, i) ← nodeOrEmpty? handles true true [.key, .value, .blockEnd] fuel i.drop
      let (value, i) ← blockValue? handles fuel i
      let (entries, i) ← blockEntries? handles fuel i
      return ((key, value) :: entries, i)
    | some .blockEnd => some ([], i.drop)
    | _ => none

def blockValue? (handles : List (String × String)) : Nat → Input → Option (Node × Input)
  | 0, _ => none
  | fuel + 1, i =>
    match i.next? with
    | some .value => nodeOrEmpty? handles true true [.key, .value, .blockEnd] fuel i.drop
    | _ => some (.empty, i)

/-- Reads the items of a sequence in brackets up to the closing one. An item may be a pair. -/
def flowItems? (handles : List (String × String)) (first : Bool) :
    Nat → Input → Option (List Node × Input)
  | 0, _ => none
  | fuel + 1, i =>
    match i.next?, first with
    | some .closeBracket, _ => some ([], i.drop)
    | some .comma, false => flowItem? handles fuel i.drop
    | _, true => flowItem? handles fuel i
    | _, false => none

def flowItem? (handles : List (String × String)) : Nat → Input → Option (List Node × Input)
  | 0, _ => none
  | fuel + 1, i =>
    match i.next? with
    | some .closeBracket => some ([], i.drop)
    | some .key => do
      let (key, i) ← pairKey? handles fuel i.drop
      let (value, i) ← flowValue? handles [.comma, .closeBracket] fuel i
      let (items, i) ← flowItems? handles false fuel i
      return (.mapping none none [(key, value)] :: items, i)
    | _ => do
      let (item, i) ← node? handles false false fuel i
      let (items, i) ← flowItems? handles false fuel i
      return (item :: items, i)

/-- Reads the key of a pair in brackets. A missing one takes the token behind it away. -/
def pairKey? (handles : List (String × String)) : Nat → Input → Option (Node × Input)
  | 0, _ => none
  | fuel + 1, i =>
    match i.next? with
    | some .value => some (.empty, i.drop)
    | some .comma => some (.empty, i.drop)
    | some .closeBracket => some (.empty, i.drop)
    | _ => node? handles false false fuel i

def flowValue? (handles : List (String × String)) (stops : List Token) :
    Nat → Input → Option (Node × Input)
  | 0, _ => none
  | fuel + 1, i =>
    match i.next? with
    | some .value => nodeOrEmpty? handles false false stops fuel i.drop
    | _ => some (.empty, i)

def flowEntries? (handles : List (String × String)) (first : Bool) :
    Nat → Input → Option (List (Node × Node) × Input)
  | 0, _ => none
  | fuel + 1, i =>
    match i.next?, first with
    | some .closeBrace, _ => some ([], i.drop)
    | some .comma, false => flowEntry? handles fuel i.drop
    | _, true => flowEntry? handles fuel i
    | _, false => none

/-- Reads an entry of a mapping in braces and those behind it. Without the mark of a key it is a
    key without a value. -/
def flowEntry? (handles : List (String × String)) :
    Nat → Input → Option (List (Node × Node) × Input)
  | 0, _ => none
  | fuel + 1, i =>
    match i.next? with
    | some .closeBrace => some ([], i.drop)
    | some .key => do
      let (key, i) ←
        nodeOrEmpty? handles false false [.value, .comma, .closeBrace] fuel i.drop
      let (value, i) ← flowValue? handles [.comma, .closeBrace] fuel i
      let (entries, i) ← flowEntries? handles false fuel i
      return ((key, value) :: entries, i)
    | _ => do
      let (key, i) ← node? handles false false fuel i
      let (entries, i) ← flowEntries? handles false fuel i
      return ((key, .empty) :: entries, i)

end

structure Directives where
  version : Bool := false
  handles : List (String × String) := []

/-- Reads directives. A version or a handle must not be given twice, and the version is 1.1 or
    1.2. -/
def directives? (d : Directives) : List Token → Option (Directives × List Token)
  | .version major minor :: rest =>
    if d.version || major ≠ 1 || (minor ≠ 1 && minor ≠ 2) then none
    else directives? { d with version := true } rest
  | .handle handle start :: rest =>
    if (d.handles.lookup handle).isSome then none
    else directives? { d with handles := d.handles ++ [(handle, start)] } rest
  | rest => some (d, rest)

def isDirective : Token → Bool
  | .version _ _ => true
  | .handle _ _ => true
  | _ => false

def stepBound (tokens : List Token) : Nat := 4 * tokens.length + 8

def content? (handles : List (String × String)) (tokens : List Token) : Option (Node × Input) :=
  match tokens with
  | [] => some (.empty, ⟨[], []⟩)
  | t :: _ =>
    if isDirective t || t = .documentStart || t = .documentEnd then some (.empty, ⟨tokens, []⟩)
    else node? handles true false (stepBound tokens) ⟨tokens, []⟩

def document? (tokens : List Token) : Option (Option Node) :=
  match tokens with
  | [] => some none
  | t :: _ => do
    let (node, i) ←
      if isDirective t || t = .documentStart then do
        let (d, rest) ← directives? {} tokens
        match rest with
        | .documentStart :: rest => content? (d.handles ++ standardHandles) rest
        | _ => none
      else node? standardHandles true false (stepBound tokens) ⟨tokens, []⟩
    if (i.tokens.dropWhile (· = .documentEnd)).isEmpty then return some node else none

def read? (text : String) : Option (Option Node) := (tokens? text).bind document?

mutual

def Node.anchored : Node → List (Nat × Node)
  | .alias _ => []
  | .scalar anchor tag style text =>
    anchor.toList.map fun n => (n, .scalar anchor tag style text)
  | .sequence anchor tag items =>
    (anchor.toList.map fun n => (n, .sequence anchor tag items)) ++ anchoredItems items
  | .mapping anchor tag entries =>
    (anchor.toList.map fun n => (n, .mapping anchor tag entries)) ++ anchoredEntries entries

def anchoredItems : List Node → List (Nat × Node)
  | [] => []
  | item :: items => item.anchored ++ anchoredItems items

def anchoredEntries : List (Node × Node) → List (Nat × Node)
  | [] => []
  | (key, value) :: entries => key.anchored ++ value.anchored ++ anchoredEntries entries

end

mutual

/-- The number of marks a node is made of: one for a scalar or alias, two around a collection. -/
def Node.size : Node → Nat
  | .alias _ => 1
  | .scalar _ _ _ _ => 1
  | .sequence _ _ items => sizeOfItems items + 2
  | .mapping _ _ entries => sizeOfEntries entries + 2

def sizeOfItems : List Node → Nat
  | [] => 0
  | item :: items => item.size + sizeOfItems items

def sizeOfEntries : List (Node × Node) → Nat
  | [] => 0
  | (key, value) :: entries => key.size + value.size + sizeOfEntries entries

end

end Crosslink.Yaml
