import Crosslink.Proofs.Blanks
import Crosslink.Proofs.DocumentScope

set_option autoImplicit false

namespace Crosslink

theorem AliasForm.alias?_eq (form : AliasForm) (e : Entity) :
    form.alias? e =
      if Text.trimBoth (form.spelling e) = [] then none
      else some (String.ofList (Text.trimBoth (form.spelling e))) := by
  unfold alias?
  split
  · rename_i h
    simp [h]
  · rename_i h
    simp [h]

theorem AliasForm.alias?_uid {e : Entity} (h : Text.isBlankText e.uid = false) :
    AliasForm.uid.alias? e = some (Text.trim e.uid) := by
  rw [alias?_eq, spelling, if_neg (Text.trimBoth_ne_nil h)]
  rfl

namespace Entity

/-- The first alias: the display form without generics, or the identifier where that is blank. -/
def firstName (e : Entity) : String :=
  let display := Text.trim (String.ofList (Signature.withoutGenerics e.nameWithType.toList))
  if display = "" then Text.trim e.uid else display

theorem head?_aliases {e : Entity} (h : Text.isBlankText e.uid = false) :
    e.aliases.head? = some e.firstName := by
  rw [aliases, AliasForm.all, List.filterMap_cons]
  by_cases hdisplay : Text.trimBoth (Signature.withoutGenerics e.nameWithType.toList) = []
  · have hnone : AliasForm.nameWithType.alias? e = none := by
      rw [AliasForm.alias?_eq, AliasForm.spelling, if_pos hdisplay]
    rw [hnone, List.filterMap_cons, AliasForm.alias?_uid h]
    simp [firstName, Text.trim, hdisplay]
  · have hsome : AliasForm.nameWithType.alias? e =
        some (String.ofList (Text.trimBoth (Signature.withoutGenerics e.nameWithType.toList))) := by
      rw [AliasForm.alias?_eq, AliasForm.spelling, if_neg hdisplay]
    rw [hsome]
    simp [firstName, Text.trim, hdisplay]

end Entity

theorem NameTable.Protects.insert_eq_false_iff {t : NameTable} {names : List String} {uid : String}
    (h : t.Protects names uid) (name other : String) :
    (t.insert name other).2 = false ↔ name ∈ names := by
  rw [← h.mem_kept]
  by_cases hname : name ∈ t.kept
  · simp [insert_of_mem hname, hname]
  · simp [insert_of_not_mem hname, hname]

theorem Document.exists_owner {d : Document} (h : d.entities ≠ []) :
    ∃ owner ∈ d.entities, d.owner? = some owner := by
  unfold owner?
  cases hflagged : d.entities.find? Entity.isOwner with
  | some owner => exact ⟨owner, List.mem_of_find?_eq_some hflagged, rfl⟩
  | none =>
    obtain ⟨first, others, hentities⟩ := List.exists_cons_of_ne_nil h
    exact ⟨first, by simp [hentities], by simp [hentities]⟩

namespace Index

/-- A name registered in an index: for every document, or for one of them. -/
inductive Edit where
  | shared (name uid : String)
  | own (document name uid : String)

def edit (i : Index) : Edit → Index
  | .shared name uid => i.insertShared name uid
  | .own document name uid => (i.insertOwn document name uid).1

/-- The document has a table, which protects the names of the owner. -/
def Owns (i : Index) (owner : Entity) (document : String) : Prop :=
  ∃ t, i.tables.get? document = some t ∧ t.Protects owner.aliases owner.uid

theorem tables_insertOwn (i : Index) (document name uid : String) :
    (i.insertOwn document name uid).1.tables =
      i.tables.insert document ((i.tableOf document).insert name uid).1 := rfl

theorem Owns.edit {i : Index} {owner : Entity} {document : String} (h : i.Owns owner document)
    (e : Edit) : (i.edit e).Owns owner document := by
  obtain ⟨t, ht, hprotects⟩ := h
  cases e with
  | shared name uid => exact ⟨t, ht, hprotects⟩
  | own other name uid =>
    rw [Index.edit, Owns, tables_insertOwn]
    by_cases hother : other = document
    · have htable : i.tableOf other = t := by rw [tableOf, hother, ht, Option.getD_some]
      refine ⟨(t.insert name uid).1, ?_, hprotects.insert name uid⟩
      rw [htable, hother]
      simp
    · refine ⟨t, ?_, hprotects⟩
      rw [← ht]
      simp [Std.TreeMap.getElem?_insert, hother]

theorem Owns.foldl_edit {i : Index} {owner : Entity} {document : String}
    (h : i.Owns owner document) (edits : List Edit) :
    (edits.foldl Index.edit i).Owns owner document := by
  induction edits generalizing i with
  | nil => exact h
  | cons e edits ih => exact ih (h.edit e)

theorem owns_ofDocuments {documents : List Document} (hids : (documents.map Document.id).Nodup)
    {d : Document} (hd : d ∈ documents) {owner : Entity} (howner : d.owner? = some owner) :
    (ofDocuments documents).Owns owner d.id :=
  ⟨d.nameTable, tables_get?_id hids hd, Document.protects_nameTable howner⟩

theorem Owns.scope_owner? {i : Index} {owner : Entity} {document : String}
    (h : i.Owns owner document) : (i.scope document).owner? = owner.aliases.head? := by
  obtain ⟨t, ht, hprotects⟩ := h
  rw [scope, Scope.owner?, ht, Option.bind_some, hprotects.owner?]

theorem Owns.scope_get? {i : Index} {owner : Entity} {document name : String}
    (h : i.Owns owner document) (hname : name ∈ owner.aliases) :
    (i.scope document).get? name = some owner.uid := by
  obtain ⟨t, ht, hprotects⟩ := h
  rw [scope, Scope.get?, ht, Option.bind_some, hprotects.get? name hname, Option.some_or]

theorem Owns.insertOwn_eq_false_iff {i : Index} {owner : Entity} {document : String}
    (h : i.Owns owner document) (name uid : String) :
    (i.insertOwn document name uid).2 = false ↔ name ∈ owner.aliases := by
  obtain ⟨t, ht, hprotects⟩ := h
  have htable : i.tableOf document = t := by rw [tableOf, ht, Option.getD_some]
  rw [insertOwn, htable]
  exact hprotects.insert_eq_false_iff name uid

/-- Whatever is registered after an index is made, a document goes by the first alias of its owner,
    every alias of the owner stands for the owner there, and exactly these are refused. -/
theorem owner_names_kept {documents : List Document} (hids : (documents.map Document.id).Nodup)
    {d : Document} (hd : d ∈ documents)
    (huids : ∀ e ∈ d.entities, Text.isBlankText e.uid = false) (hentities : d.entities ≠ [])
    (edits : List Edit) :
    let i := edits.foldl edit (ofDocuments documents)
    ∃ owner, d.owner? = some owner ∧
      (i.scope d.id).owner? = owner.aliases.head? ∧
      owner.aliases.head? = some owner.firstName ∧
      (∀ name ∈ owner.aliases, (i.scope d.id).get? name = some owner.uid) ∧
      ∀ name uid, (i.insertOwn d.id name uid).2 = false ↔ name ∈ owner.aliases := by
  intro i
  obtain ⟨owner, hmem, howner⟩ := Document.exists_owner hentities
  have howns : i.Owns owner d.id := (owns_ofDocuments hids hd howner).foldl_edit edits
  refine ⟨owner, howner, howns.scope_owner?, Entity.head?_aliases (huids owner hmem), ?_, ?_⟩
  · intro name hname
    exact howns.scope_get? hname
  · exact howns.insertOwn_eq_false_iff

theorem owner_names_kept_from_siblings :
    let sibling : Entity := { uid := "a.Bar", nameWithType := "Foo" }
    let owner : Entity := { uid := "a.Foo", nameWithType := "Foo<T>", isOwner := true }
    let d : Document := { id := "d", entities := [sibling, owner] }
    let edits : List Edit := [.own "d" "Foo" "x", .shared "Foo" "y", .own "e" "Foo" "z"]
    let i := edits.foldl edit (ofDocuments [d, { id := "e", entities := [sibling] }])
    (i.scope "d").owner? = some "Foo" ∧ (i.scope "d").get? "Foo" = some "a.Foo" ∧
      (i.insertOwn "d" "Foo" "w").2 = false ∧ (i.insertOwn "d" "a.Bar" "w").2 = true := by
  intro sibling owner d edits i
  have hids : ([d, { id := "e", entities := [sibling] }].map Document.id).Nodup := by decide
  obtain ⟨found, hfound, hname, hfirst, hget, hrefuses⟩ :=
    owner_names_kept hids (d := d) (by simp) (by decide +kernel) (by simp [d]) edits
  have howner : d.owner? = some owner := rfl
  rw [howner, Option.some.injEq] at hfound
  subst hfound
  have hmem : "Foo" ∈ owner.aliases := by decide +kernel
  have hother : "a.Bar" ∉ owner.aliases := by decide +kernel
  have hspelt : owner.firstName = "Foo" := by decide +kernel
  refine ⟨?_, hget "Foo" hmem, (hrefuses "Foo" "w").2 hmem, ?_⟩
  · rw [← hspelt, ← hfirst]
    exact hname
  · rw [← Bool.not_eq_false, hrefuses]
    exact hother

end Index

end Crosslink
