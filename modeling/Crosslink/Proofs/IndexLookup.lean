import Crosslink.Scope
import Mathlib.Data.List.Basic

set_option autoImplicit false

/-!
What an index answers, told from the documents alone. Of all writes to a name the last one counts;
the owner of a document keeps its names there, and the names of the document come before those that
all documents share.
-/

namespace Crosslink

def lastWrite? (writes : List Write) (name : String) : Option String := writes.reverse.lookup name

theorem lastWrite?_append (first second : List Write) (name : String) :
    lastWrite? (first ++ second) name = (lastWrite? second name).or (lastWrite? first name) := by
  simp [lastWrite?, List.lookup_append]

theorem lastWrite?_cons (key uid : String) (writes : List Write) (name : String) :
    lastWrite? ((key, uid) :: writes) name =
      (lastWrite? writes name).or (if key = name then some uid else none) := by
  have h := lastWrite?_append [(key, uid)] writes name
  rw [List.singleton_append] at h
  rw [h]
  by_cases hk : key = name
  · simp [lastWrite?, hk]
  · have hne : (name == key) = false := by simpa using Ne.symm hk
    simp [lastWrite?, hne, hk]

theorem get?_foldl_insert (writes : List Write) (m : Std.TreeMap String String) (name : String) :
    (writes.foldl (fun m (key, uid) => m.insert key uid) m).get? name =
      (lastWrite? writes name).or (m.get? name) := by
  induction writes generalizing m with
  | nil => rfl
  | cons w writes ih =>
    obtain ⟨key, uid⟩ := w
    rw [List.foldl_cons, ih, lastWrite?_cons, Option.or_assoc, Std.TreeMap.get?_eq_getElem?,
      Std.TreeMap.getElem?_insert]
    by_cases hk : key = name
    · simp [hk]
    · simp [hk]

namespace NameTable

theorem insert_of_mem {t : NameTable} {key : String} (h : key ∈ t.kept) (uid : String) :
    t.insert key uid = (t, false) := if_pos h

theorem insert_of_not_mem {t : NameTable} {key : String} (h : key ∉ t.kept) (uid : String) :
    t.insert key uid = ({ t with names := t.names.insert key uid }, true) := if_neg h

theorem kept_insert (t : NameTable) (key uid : String) : (t.insert key uid).1.kept = t.kept := by
  by_cases h : key ∈ t.kept
  · rw [insert_of_mem h]
  · rw [insert_of_not_mem h]

theorem owner?_insert (t : NameTable) (key uid : String) :
    (t.insert key uid).1.owner? = t.owner? := by
  by_cases h : key ∈ t.kept
  · rw [insert_of_mem h]
  · rw [insert_of_not_mem h]

theorem get?_insert (t : NameTable) (key uid name : String) :
    (t.insert key uid).1.get? name =
      if key = name ∧ name ∉ t.kept then some uid else t.get? name := by
  by_cases h : key ∈ t.kept
  · rw [insert_of_mem h, if_neg]
    rintro ⟨rfl, hname⟩
    exact hname h
  · rw [insert_of_not_mem h, get?, get?, Std.TreeMap.get?_eq_getElem?, Std.TreeMap.getElem?_insert]
    by_cases hname : key = name
    · subst hname
      simp [h]
    · simp [hname]

/-- Protected names answer as before; among the writes to the others the last one counts. -/
theorem get?_foldl_insert (writes : List Write) (t : NameTable) (name : String) :
    (writes.foldl (fun t (key, uid) => (t.insert key uid).1) t).get? name =
      if name ∈ t.kept then t.get? name else (lastWrite? writes name).or (t.get? name) := by
  induction writes generalizing t with
  | nil => simp [lastWrite?]
  | cons w writes ih =>
    obtain ⟨key, uid⟩ := w
    rw [List.foldl_cons, ih, kept_insert, get?_insert, lastWrite?_cons, Option.or_assoc]
    by_cases hkept : name ∈ t.kept
    · simp [hkept]
    · by_cases hkey : key = name <;> simp [hkept, hkey]

/-- The table goes by the first of the names, and the protected names are these, all of which stand
    for one symbol. -/
structure Protects (t : NameTable) (names : List String) (uid : String) : Prop where
  owner? : t.owner? = names.head?
  mem_kept : ∀ name, name ∈ t.kept ↔ name ∈ names
  get? : ∀ name ∈ names, t.get? name = some uid

theorem protects_empty (uid : String) : Protects {} [] uid where
  owner? := rfl
  mem_kept := by simp
  get? := by simp

theorem Protects.insert {t : NameTable} {names : List String} {uid : String}
    (h : t.Protects names uid) (key other : String) :
    (t.insert key other).1.Protects names uid where
  owner? := by rw [owner?_insert, h.owner?]
  mem_kept := by simpa only [kept_insert] using h.mem_kept
  get? := by
    intro name hname
    have hkept : name ∈ t.kept := (h.mem_kept name).2 hname
    rw [get?_insert, if_neg fun hwrite => hwrite.2 hkept]
    exact h.get? name hname

theorem Protects.foldl_insert {t : NameTable} {names : List String} {uid : String}
    (h : t.Protects names uid) (writes : List Write) :
    (writes.foldl (fun t (key, other) => (t.insert key other).1) t).Protects names uid := by
  induction writes generalizing t with
  | nil => exact h
  | cons w writes ih => exact ih (h.insert w.1 w.2)

theorem insertOwner_of_mem {t : NameTable} {key : String} (h : key ∈ t.kept) (uid : String) :
    t.insertOwner key uid = { t with owner? := t.owner?.or (some key) } := by
  have hwrite := insert_of_mem (t := { t with owner? := t.owner?.or (some key) }) h uid
  rw [insertOwner, hwrite]

theorem insertOwner_of_not_mem {t : NameTable} {key : String} (h : key ∉ t.kept) (uid : String) :
    t.insertOwner key uid =
      ⟨t.owner?.or (some key), t.names.insert key uid, t.kept.insert key⟩ := by
  have hwrite := insert_of_not_mem (t := { t with owner? := t.owner?.or (some key) }) h uid
  rw [insertOwner, hwrite]

theorem owner?_insertOwner (t : NameTable) (key uid : String) :
    (t.insertOwner key uid).owner? = t.owner?.or (some key) := by
  by_cases h : key ∈ t.kept
  · rw [insertOwner_of_mem h]
  · rw [insertOwner_of_not_mem h]

theorem mem_kept_insertOwner {t : NameTable} {key uid name : String} :
    name ∈ (t.insertOwner key uid).kept ↔ name ∈ t.kept ∨ name = key := by
  by_cases h : key ∈ t.kept
  · rw [insertOwner_of_mem h]
    exact ⟨.inl, fun hname => hname.elim id fun heq => heq ▸ h⟩
  · rw [insertOwner_of_not_mem h, Std.TreeSet.mem_insert, Std.LawfulEqOrd.compare_eq_iff_eq,
      eq_comm, or_comm]

theorem get?_insertOwner (t : NameTable) (key uid name : String) :
    (t.insertOwner key uid).get? name =
      if key = name ∧ name ∉ t.kept then some uid else t.get? name := by
  have hnames : (t.insertOwner key uid).names = (t.insert key uid).1.names := by
    by_cases h : key ∈ t.kept
    · rw [insertOwner_of_mem h, insert_of_mem h]
    · rw [insertOwner_of_not_mem h, insert_of_not_mem h]
  rw [← get?_insert, get?, get?, hnames]

theorem Protects.insertOwner {t : NameTable} {names : List String} {uid : String}
    (h : t.Protects names uid) (key : String) :
    (t.insertOwner key uid).Protects (names ++ [key]) uid where
  owner? := by rw [owner?_insertOwner, h.owner?, List.head?_append, List.head?_cons]
  mem_kept := by
    intro name
    rw [mem_kept_insertOwner, h.mem_kept, List.mem_append, List.mem_singleton]
  get? := by
    intro name hname
    have hkept := h.mem_kept name
    rw [get?_insertOwner]
    by_cases hold : name ∈ names
    · -- The owner has written this name before.
      rw [if_neg fun hwrite => hwrite.2 (hkept.2 hold)]
      exact h.get? name hold
    · have hkey : key = name := by simpa [hold, eq_comm] using hname
      rw [if_pos ⟨hkey, fun hname => hold (hkept.1 hname)⟩]

/-- What the owner writes is protected, and nothing else is written. -/
theorem foldl_insertOwner {t : NameTable} {names : List String} {uid : String}
    (h : t.Protects names uid) (more : List String) :
    let t' := (more.map (·, uid)).foldl (fun t (key, uid) => t.insertOwner key uid) t
    t'.Protects (names ++ more) uid ∧ ∀ name, name ∉ more → t'.get? name = t.get? name := by
  induction more generalizing t names with
  | nil => exact ⟨by rwa [List.append_nil], fun _ _ => rfl⟩
  | cons key more ih =>
    obtain ⟨hprotects, hothers⟩ := ih (h.insertOwner key)
    refine ⟨by rwa [List.append_cons], fun name hname => ?_⟩
    rw [List.mem_cons, not_or] at hname
    rw [List.map_cons, List.foldl_cons, hothers name hname.2, get?_insertOwner,
      if_neg fun hwrite => hname.1 hwrite.1.symm]

end NameTable

namespace Document

theorem ownerTable_of_owner {d : Document} {owner : Entity} (h : d.owner? = some owner) :
    d.ownerTable.Protects owner.aliases owner.uid ∧
      ∀ name, name ∉ owner.aliases → d.ownerTable.get? name = none := by
  have htable := NameTable.foldl_insertOwner (NameTable.protects_empty owner.uid) owner.aliases
  rw [ownerTable, ownerWrites, h]
  exact htable

/-- The names of the owner are protected from all other writes of its document. -/
theorem protects_nameTable {d : Document} {owner : Entity} (h : d.owner? = some owner) :
    d.nameTable.Protects owner.aliases owner.uid := by
  rw [nameTable]
  exact (ownerTable_of_owner h).1.foldl_insert d.ownWrites

theorem get?_nameTable (d : Document) (name : String) :
    d.nameTable.get? name =
      match d.owner? with
      | some owner =>
        if name ∈ owner.aliases then some owner.uid else lastWrite? d.ownWrites name
      | none => lastWrite? d.ownWrites name := by
  cases howner : d.owner? with
  | none =>
    have htable : d.ownerTable = {} := by simp [ownerTable, ownerWrites, howner]
    rw [nameTable, NameTable.get?_foldl_insert, htable]
    simp [NameTable.get?]
  | some owner =>
    obtain ⟨hprotects, hothers⟩ := ownerTable_of_owner howner
    simp only
    split
    · rename_i hname
      exact (protects_nameTable howner).get? name hname
    · rename_i hname
      have hkept : name ∉ d.ownerTable.kept := fun h => hname ((hprotects.mem_kept name).1 h)
      rw [nameTable, NameTable.get?_foldl_insert, if_neg hkept, hothers name hname, Option.or_none]

end Document

namespace Index

theorem tables_foldl (documents : List Document) (i : Index) (id : String) :
    (documents.foldl addDocument i).tables.get? id =
      ((documents.reverse.find? fun d => d.id = id).map Document.nameTable).or
        (i.tables.get? id) := by
  induction documents generalizing i with
  | nil => rfl
  | cons d documents ih =>
    rw [List.foldl_cons, ih, List.reverse_cons, List.find?_append, Option.map_or, Option.or_assoc]
    congr 1
    rw [addDocument, Std.TreeMap.get?_eq_getElem?, Std.TreeMap.getElem?_insert]
    by_cases hd : d.id = id <;> simp [hd]

theorem shared_foldl (documents : List Document) (i : Index) (name : String) :
    (documents.foldl addDocument i).shared.get? name =
      (lastWrite? (documents.flatMap Document.sharedWrites) name).or (i.shared.get? name) := by
  induction documents generalizing i with
  | nil => rfl
  | cons d documents ih =>
    rw [List.foldl_cons, ih, List.flatMap_cons, lastWrite?_append, Option.or_assoc]
    congr 1
    exact get?_foldl_insert d.sharedWrites i.shared name

theorem tables_ofDocuments (documents : List Document) (id : String) :
    (ofDocuments documents).tables.get? id =
      (documents.reverse.find? fun d => d.id = id).map Document.nameTable := by
  rw [ofDocuments, tables_foldl]
  simp

theorem shared_ofDocuments (documents : List Document) (name : String) :
    (ofDocuments documents).shared.get? name =
      lastWrite? (documents.flatMap Document.sharedWrites) name := by
  rw [ofDocuments, shared_foldl]
  simp

end Index

namespace Document

/-- The entities without the owner: without the first flagged one, or else without the first. -/
def besideOwner (d : Document) : List Entity :=
  if d.entities.any Entity.isOwner then d.entities.eraseP Entity.isOwner else d.entities.tail

/-- What a document writes for itself beside the names of its owner: the aliases of its other
    entities, then every reference under its identifier and, where it has no display form, the
    parts it is known by. -/
def localWrites (d : Document) : List Write :=
  (d.besideOwner.flatMap fun e => e.aliases.map fun name => (name, e.uid)) ++
    d.references.flatMap fun r =>
      (r.uid, r.uid) ::
        if r.nameWithType = none then
          let parts := if r.parts = [] ∧ isCompoundType r.uid then typeParts r.uid else r.parts
          parts.flatMap fun p => p.uid.toList.flatMap fun uid =>
            ([Text.trim p.name, Text.trim p.fullName].filter (· ≠ "")).map fun name => (name, uid)
        else []

/-- What a document writes for all: the aliases of its owner, of its other entities, and the
    identifiers of its references. -/
def globalWrites (d : Document) : List Write :=
  ((d.owner?.toList ++ d.besideOwner).flatMap fun e => e.aliases.map fun name => (name, e.uid)) ++
    d.references.map fun r => (r.uid, r.uid)

theorem otherEntities_eq (d : Document) : d.otherEntities = d.besideOwner := by
  unfold otherEntities besideOwner ownerPosition?
  have hany : d.entities.any Entity.isOwner = (d.entities.findIdx? Entity.isOwner).isSome :=
    List.findIdx?_isSome.symm
  rw [hany, List.eraseP_eq_eraseIdx]
  cases d.entities.findIdx? Entity.isOwner with
  | some position => rfl
  | none => cases d.entities <;> rfl

theorem writes_part (p : Part) :
    p.writes = p.uid.toList.flatMap fun uid =>
      ([Text.trim p.name, Text.trim p.fullName].filter (· ≠ "")).map fun name => (name, uid) := by
  unfold Part.writes
  cases p.uid with
  | none => rfl
  | some uid =>
    by_cases hname : Text.trim p.name = "" <;> by_cases hfull : Text.trim p.fullName = "" <;>
      simp [hname, hfull]

theorem ownWrites_eq (d : Document) : d.ownWrites = d.localWrites := by
  unfold ownWrites localWrites
  rw [otherEntities_eq]
  congr 2
  funext r
  have hparts : Part.writes = _ := funext writes_part
  simp only [Reference.writes, Reference.isCompound, Reference.knownParts, hparts]
  cases r.nameWithType <;> simp

theorem sharedWrites_eq (d : Document) : d.sharedWrites = d.globalWrites := by
  have hwrites : Entity.writes = fun e => e.aliases.map fun name => (name, e.uid) := rfl
  unfold sharedWrites globalWrites ownerWrites
  rw [otherEntities_eq, hwrites]
  cases d.owner? <;> simp

end Document

/-- The symbol a name stands for in a document: the owner's for the names of the owner, else that of
    the last local write, else that of the last write of all documents. -/
def answer? (documents : List Document) (id name : String) : Option String :=
  let shared := lastWrite? (documents.flatMap Document.globalWrites) name
  match documents.reverse.find? fun d => d.id = id with
  | none => shared
  | some d =>
    match d.owner?.filter fun owner => name ∈ owner.aliases with
    | some owner => some owner.uid
    | none => (lastWrite? d.localWrites name).or shared

/-- Looking a name up in the index from a document gives the answer told from the documents. -/
theorem get?_scope_eq_answer? (documents : List Document) (id name : String) :
    ((Index.ofDocuments documents).scope id).get? name = answer? documents id name := by
  have hshared : documents.flatMap Document.sharedWrites =
      documents.flatMap Document.globalWrites :=
    congrArg documents.flatMap (funext Document.sharedWrites_eq)
  unfold Scope.get? Index.scope answer?
  rw [Index.tables_ofDocuments, Index.shared_ofDocuments, hshared]
  cases documents.reverse.find? fun d => d.id = id with
  | none => rfl
  | some d =>
    simp only [Option.map_some, Option.bind_some, Document.get?_nameTable, Document.ownWrites_eq]
    cases d.owner? with
    | none => rfl
    | some owner => by_cases hown : name ∈ owner.aliases <;> simp [Option.filter, hown]

end Crosslink
