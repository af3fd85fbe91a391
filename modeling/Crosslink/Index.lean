import Crosslink.Alias
import Crosslink.Compound
import Std.Data.TreeMap
import Std.Data.TreeSet

set_option autoImplicit false

/-!
The index of a list of documents: which name stands for which symbol. Each document has a table of
its own names, and all documents share one. In a document's own table the names that its owner has
written are protected, so that no later write reaches them; among all other writes the last one
counts.
-/

namespace Crosslink

structure NameTable where
  owner? : Option String := none
  names : Std.TreeMap String String := ∅
  kept : Std.TreeSet String := ∅

namespace NameTable

def get? (t : NameTable) (name : String) : Option String := t.names.get? name

def contains (t : NameTable) (name : String) : Bool := t.names.contains name

def insert (t : NameTable) (name uid : String) : NameTable × Bool :=
  if name ∈ t.kept then (t, false) else ({ t with names := t.names.insert name uid }, true)

/-- Writes a name of the owner and protects it. The document goes by the first of them. -/
def insertOwner (t : NameTable) (name uid : String) : NameTable :=
  match insert { t with owner? := t.owner?.or (some name) } name uid with
  | (t, true) => { t with kept := t.kept.insert name }
  | (t, false) => t

def toList (t : NameTable) : List (String × String) := t.names.toList

def size (t : NameTable) : Nat := t.names.size

def isEmpty (t : NameTable) : Bool := t.names.isEmpty

end NameTable

abbrev Write := String × String

def Entity.writes (e : Entity) : List Write := e.aliases.map (·, e.uid)

/-- The parts under which a compound reference is known: the stored ones, else those of its type. -/
def Reference.knownParts (r : Reference) : List Part :=
  if r.parts.isEmpty && isCompoundType r.uid then typeParts r.uid else r.parts

def Part.writes (p : Part) : List Write :=
  match p.uid with
  | some uid =>
    ([p.name, p.fullName].map Text.trim).filterMap fun name =>
      if name.isEmpty then none else some (name, uid)
  | none => []

def Reference.writes (r : Reference) : List Write :=
  (r.uid, r.uid) :: if r.isCompound then r.knownParts.flatMap Part.writes else []

namespace Document

def otherEntities (d : Document) : List Entity :=
  match d.ownerPosition? with
  | some position => d.entities.eraseIdx position
  | none => []

def ownerWrites (d : Document) : List Write :=
  match d.owner? with
  | some owner => owner.writes
  | none => []

def ownWrites (d : Document) : List Write :=
  d.otherEntities.flatMap Entity.writes ++ d.references.flatMap Reference.writes

/-- The writes to the shared table. Parts of compound references are not among them. -/
def sharedWrites (d : Document) : List Write :=
  d.ownerWrites ++ d.otherEntities.flatMap Entity.writes ++ d.references.map fun r => (r.uid, r.uid)

def ownerTable (d : Document) : NameTable :=
  d.ownerWrites.foldl (fun t (name, uid) => t.insertOwner name uid) {}

def nameTable (d : Document) : NameTable :=
  d.ownWrites.foldl (fun t (name, uid) => (t.insert name uid).1) d.ownerTable

end Document

structure Index where
  shared : Std.TreeMap String String := ∅
  tables : Std.TreeMap String NameTable := ∅

namespace Index

def insertShared (i : Index) (name uid : String) : Index :=
  { i with shared := i.shared.insert name uid }

def tableOf (i : Index) (document : String) : NameTable := (i.tables.get? document).getD {}

def insertOwn (i : Index) (document name uid : String) : Index × Bool :=
  match (i.tableOf document).insert name uid with
  | (table, taken) => ({ i with tables := i.tables.insert document table }, taken)

/-- Adds the names of a document; of documents with one identifier the last one's table stays. -/
def addDocument (i : Index) (d : Document) : Index where
  shared := d.sharedWrites.foldl (fun shared (name, uid) => shared.insert name uid) i.shared
  tables := i.tables.insert d.id d.nameTable

def ofDocuments (documents : List Document) : Index := documents.foldl addDocument {}

def documentCount (i : Index) : Nat := i.tables.size

def isEmpty (i : Index) : Bool :=
  i.shared.isEmpty && i.tables.toList.all fun (_, table) => table.isEmpty

end Index

end Crosslink
