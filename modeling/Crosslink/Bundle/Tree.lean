import Crosslink.Document

set_option autoImplicit false

namespace Crosslink

inductive Tree where
  | text (s : String)
  | flag (b : Bool)
  | list (items : List Tree)
  | record (fields : List (String × Tree))

namespace Tree

def optional {α : Type} (name : String) (toTree : α → Tree) : Option α → List (String × Tree)
  | some value => [(name, toTree value)]
  | none => []

def unlessEmpty {α : Type} (name : String) (toTree : α → Tree) :
    List α → List (String × Tree)
  | [] => []
  | items => [(name, list (items.map toTree))]

end Tree

open Crosslink.Tree

def Status.name : Status → String
  | deprecated => "deprecated"
  | preview => "preview"

def Status.ofName? (name : String) : Option Status :=
  if name = "deprecated" then some .deprecated
  else if name = "preview" then some .preview
  else none

def Parameter.toTree (p : Parameter) : Tree :=
  record (("id", text p.id) :: optional "type" text p.type
    ++ optional "description" text p.description)

def ReturnValue.toTree (r : ReturnValue) : Tree :=
  record (optional "type" text r.type ++ optional "description" text r.description)

def Exception.toTree (e : Exception) : Tree :=
  record (("type", text e.type) :: optional "description" text e.description)

def Declaration.toTree (d : Declaration) : Tree :=
  record (unlessEmpty "parameters" Parameter.toTree d.parameters
    ++ optional "return" ReturnValue.toTree d.returns
    ++ unlessEmpty "exceptions" Exception.toTree d.exceptions)

def Entity.toTree (e : Entity) : Tree :=
  record ([("uid", text e.uid), ("name", text e.name), ("nameWithType", text e.nameWithType)]
    ++ optional "fullName" text e.fullName ++ optional "href" text e.href
    ++ optional "summary" text e.summary ++ optional "syntax" Declaration.toTree e.declaration
    ++ (if e.isOwner then [("isOwner", flag true)] else [])
    ++ optional "status" (fun status => text status.name) e.status)

def Part.toTree (p : Part) : Tree :=
  record (optional "uid" text p.uid ++ [("name", text p.name), ("fullName", text p.fullName)])

def Reference.toTree (r : Reference) : Tree :=
  record ([("uid", text r.uid), ("name", text r.name)]
    ++ optional "nameWithType" text r.nameWithType ++ optional "fullName" text r.fullName
    ++ unlessEmpty "parts" Part.toTree r.parts)

def Document.toTree (d : Document) : Tree :=
  record
    [("id", text d.id), ("package", text d.package),
     ("entities", list (d.entities.map Entity.toTree)),
     ("references", list (d.references.map Reference.toTree))]

def bundleTree (documents : List Document) : Tree := list (documents.map Document.toTree)

end Crosslink
