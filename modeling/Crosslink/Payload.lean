import Crosslink.Name
import Crosslink.Text.Blank

set_option autoImplicit false

namespace Crosslink

inductive Payload where
  /-- `#member` or `#member(parameters)`: a member of the document's owner. -/
  | member (member : List Char) (parameters : Option (List Char))
  /-- `Class#member` or `Class#member(parameters)`. -/
  | qualified (owner member : List Char) (parameters : Option (List Char))
  /-- A path with parameters or a wildcard, such as `a.B<T>.m(int)` or `a.B.m*`. -/
  | plain (name : List Char) (parameters : Option (List Char)) (wildcard : Bool)
  deriving DecidableEq

namespace Payload

def parameters? : Payload → Option (List Char)
  | member _ parameters => parameters
  | qualified _ _ parameters => parameters
  | plain _ parameters _ => parameters

def isArgument (c : Char) : Bool :=
  Text.isWord c || Text.isBlank c || "$.,<>?[]".toList.contains c

/-- Where a path stands outside angle brackets: before a segment, in its identifier, or behind its
    closing bracket. -/
inductive Place where
  | before
  | inside
  | closed
  deriving DecidableEq

/-- How far a path is read. A `>` may close the arguments of a segment or belong to them, so both
    readings are kept: `arguments` tells whether the text so far can end inside arguments, and
    `place` where it can end outside of them. -/
structure PathState where
  arguments : Bool
  place : Option Place
  deriving DecidableEq

def Place.next : Place → Char → Option Place
  | before, c => if Name.isStart c then some inside else none
  | inside, c => if Name.isPart c then some inside else if c = '.' then some before else none
  | closed, c => if c = '.' then some before else none

def PathState.next (s : PathState) (c : Char) : PathState where
  arguments := (s.arguments && isArgument c) || (s.place == some .inside && c == '<')
  place := if s.arguments && c == '>' then some .closed else s.place.bind (·.next c)

def isPath (cs : List Char) : Bool :=
  let place := (cs.foldl PathState.next ⟨false, some .before⟩).place
  place == some .inside || place == some .closed

def withoutArrays : List Char → List Char
  | [] => []
  | c :: cs =>
    match withoutArrays cs with
    | [] => [c]
    | [']'] => if c = '[' then [] else [c, ']']
    | rest => c :: rest

def parenthesised? : List Char → Option (List Char × List Char)
  | '(' :: cs =>
    match cs.dropWhile fun c => c != '(' && c != ')' with
    | ')' :: rest => some (cs.takeWhile fun c => c != '(' && c != ')', rest)
    | _ => none
  | _ => none

theorem parenthesised?_eq_some {cs inner rest : List Char}
    (h : parenthesised? cs = some (inner, rest)) : cs = '(' :: inner ++ ')' :: rest := by
  unfold parenthesised? at h
  split at h
  · rename_i cs
    split at h
    · rename_i found
      simp only [Option.some.injEq, Prod.mk.injEq] at h
      obtain ⟨rfl, rfl⟩ := h
      simp [← found]
    · cases h
  · cases h

def member? (cs : List Char) : Option (List Char × Option (List Char)) :=
  let name := cs.takeWhile Name.isPart
  if Name.isIdentifier name then
    match Text.trimStart (cs.dropWhile Name.isPart) with
    | [] => some (name, none)
    | rest =>
      match parenthesised? rest with
      | some (inner, []) => some (name, some (Text.trimBoth inner))
      | _ => none
  else none

def qualified? (cs : List Char) : Option Payload :=
  match cs.dropWhile (· != '#') with
  | [] => none
  | _ :: rest =>
    if isPath (cs.takeWhile (· != '#')) then
      (member? rest).map fun (name, parameters) =>
        qualified (cs.takeWhile (· != '#')) name parameters
    else none

def plain? (cs : List Char) : Option Payload :=
  let name := Text.trimEnd (cs.takeWhile fun c => c != '(' && c != '*')
  if isPath (withoutArrays name) then
    match cs.dropWhile fun c => c != '(' && c != '*' with
    | [] => some (plain name none false)
    | ['*'] => some (plain name none true)
    | rest =>
      match parenthesised? rest with
      | some (inner, []) => some (plain name (some (Text.trimBoth inner)) false)
      | some (inner, ['*']) => some (plain name (some (Text.trimBoth inner)) true)
      | _ => none
  else none

def ofText? (cs : List Char) : Option Payload :=
  match Text.trimBoth cs with
  | '#' :: rest => (member? rest).map fun (name, parameters) => member name parameters
  | text => (qualified? text).or (plain? text)

end Payload

end Crosslink
