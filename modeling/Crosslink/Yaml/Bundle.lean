import Crosslink.Bundle.Source
import Crosslink.Yaml.Node
import Crosslink.Yaml.Plain
import Crosslink.Yaml.Writer

set_option autoImplicit false

/-!
Bundles in YAML. Any scalar is a text as written. A plain scalar may also stand for a flag or an
absent value, and a plain scalar without text for an empty list or record. Aliases are followed
where a value is asked for, a bounded number of times.
-/

namespace Crosslink.Yaml

abbrev Reading := StateT Nat Option

/-- The node that is meant: an alias is followed. -/
def follow (anchored : List (Nat × Node)) : Node → Reading Node
  | .alias number => do
    let left ← get
    match left, anchored.lookup number with
    | left + 1, some node =>
      set left
      return node
    | _, _ => failure
  | node => return node

def nullTag : String := "tag:yaml.org,2002:null"

def boolTag : String := "tag:yaml.org,2002:bool"

def text : Node → Reading String
  | .scalar _ _ _ text => return text
  | _ => failure

/-- Whether a scalar can be a flag: if it is plain, or a literal block that is tagged so. -/
def canBeFlag (tag : Option String) (style : ScalarStyle) : Bool :=
  style = .plain || (style = .literal && tag = some boolTag)

def flag : Node → Reading Bool
  | .scalar _ tag style text =>
    if canBeFlag tag style then
      match bool? text with
      | some b => return b
      | none => failure
    else failure
  | _ => failure

/-- Whether a scalar stands for nothing. One that is tagged as a null must be written as one. -/
def present : Node → Reading (Option Node)
  | .scalar anchor tag style text => do
    let node : Node := .scalar anchor tag style text
    if style ≠ .plain then return some node
    else
      match tag with
      | some tag =>
        if tag ≠ nullTag then return some node
        else if isNull text then return none
        else failure
      | none => if text.isEmpty || isNull text then return none else return some node
  | node => return some node

def isNothing : Node → Bool
  | .scalar _ _ style text => style = .plain && text.isEmpty
  | _ => false

def items : Node → Reading (List Node)
  | .sequence _ _ items => return items
  | node => if isNothing node then return [] else failure

/-- The known fields of a mapping. Every key must be a scalar, and a known one must not be
    repeated. -/
def knownFields (anchored : List (Nat × Node)) (names : List String) :
    List (Node × Node) → Reading (List (String × Node))
  | [] => return []
  | (key, value) :: entries => do
    let name ← text (← follow anchored key)
    let known ← knownFields anchored names entries
    if name ∈ names then
      if (known.lookup name).isSome then failure else return (name, value) :: known
    else return known

def fields (anchored : List (Nat × Node)) (names : List String) :
    Node → Reading (List (String × Node))
  | .mapping _ _ entries => knownFields anchored names entries
  | node => if isNothing node then return [] else failure

def tagOf : Node → Option String
  | .alias _ => none
  | .scalar _ tag _ _ => tag
  | .sequence _ tag _ => tag
  | .mapping _ tag _ => tag

def localTag? (node : Node) : Option String :=
  (tagOf node).bind fun tag =>
    match tag.toList with
    | '!' :: name => some (String.ofList name)
    | _ => none

def choice (names : List String) (node : Node) : Reading String :=
  match node with
  | .scalar _ _ style text =>
    let word :=
      match localTag? node with
      | some name => if style = .plain && (text.isEmpty || isNull text) then name else ""
      | none => text
    if word ∈ names then return word else failure
  | _ => failure

def source (anchored : List (Nat × Node)) : Source Reading Node where
  text node := do text (← follow anchored node)
  flag node := do flag (← follow anchored node)
  present node := do present (← follow anchored node)
  items node := do items (← follow anchored node)
  fields names node := do fields anchored names (← follow anchored node)
  choice names node := do choice names (← follow anchored node)

def Node.source (node : Node) : Source Reading Node := Yaml.source node.anchored.reverse

def aliasLimit (node : Node) : Nat := 100 * node.size

def readBundle? (text : String) : Option (List Document) :=
  match read? text with
  | some (some node) => ((node.source.bundle node).run (aliasLimit node)).map Prod.fst
  | some none => some []
  | none => none

def readFlag? (text : String) : Option Bool :=
  match read? text with
  | some (some node) => ((node.source.flag node).run (aliasLimit node)).map Prod.fst
  | _ => none

end Crosslink.Yaml
