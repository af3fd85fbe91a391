import Crosslink.Index
import Crosslink.Payload

set_option autoImplicit false

/-!
Scopes: an index as seen from one document, and the resolution of payloads in it. The names of the
document come before the shared ones; a payload is looked up as written, first inside the
document's package, and only then by its class and member.
-/

namespace Crosslink

structure Scope where
  document : String
  own : Option NameTable
  shared : Std.TreeMap String String

/-- The scope of a document; a document that is not indexed sees the shared names only. -/
def Index.scope (i : Index) (document : String) : Scope :=
  ⟨document, i.tables.get? document, i.shared⟩

namespace Scope

def get? (s : Scope) (name : String) : Option String :=
  (s.own.bind (·.get? name)).or (s.shared.get? name)

def contains (s : Scope) (name : String) : Bool :=
  s.own.any (·.contains name) || s.shared.contains name

def owner? (s : Scope) : Option String := s.own.bind NameTable.owner?

def classUid? (s : Scope) (cs : List Char) : Option String :=
  (s.get? (String.ofList cs)).or <|
    if Signature.withoutGenerics cs ≠ cs then s.get? (String.ofList (Signature.withoutGenerics cs))
    else none

/-- A member of a resolved class; a wildcard stands for all its overloads. -/
def memberUid (owner : String) (member : List Char) (wildcard : Bool) : String :=
  owner ++ String.ofList ('.' :: member ++ if wildcard then ['*'] else [])

/-- Resolution by class and member. The overload is unknown where parameters are given, so the
    result is then a wildcard. -/
def fuzzy? (s : Scope) (cs : List Char) : Option String :=
  match Payload.ofText? cs with
  | some (.qualified owner member parameters) =>
    (s.classUid? owner).map (memberUid · member parameters.isSome)
  | some (.plain name none wildcard) =>
    (Text.cutAtLast? '.' name).bind fun (owner, member) =>
      (s.classUid? owner).map (memberUid · member wildcard)
  | _ => none

/-- The name inside a package; a name that is there already stays. -/
def qualify (package cs : List Char) : List Char :=
  if package.isEmpty || (Text.dropStart? (package ++ ['.']) cs).isSome then cs
  else package ++ '.' :: cs

/-- Resolution as written: inside the package first, then as it stands. -/
def asWritten? (s : Scope) (package cs : List Char) : Option String :=
  (s.get? (String.ofList (qualify package cs))).or (s.get? (String.ofList cs))

def withOwner (s : Scope) : List Char → List Char
  | '#' :: cs =>
    match s.owner? with
    | some owner => owner.toList ++ '#' :: cs
    | none => '#' :: cs
  | cs => cs

def resolve (s : Scope) (package cs : List Char) : String :=
  match Text.trimBoth cs with
  | [] => ""
  | text =>
    let payload := s.withOwner text
    ((s.asWritten? package (payload.map fun c => if c = '#' then '.' else c)).or
      (s.fuzzy? payload)).getD ""

end Scope

end Crosslink
