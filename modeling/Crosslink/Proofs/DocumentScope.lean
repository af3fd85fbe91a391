import Crosslink.Proofs.IndexLookup
import Mathlib.Data.List.Nodup

set_option autoImplicit false

namespace Crosslink

theorem lastWrite?_eq_none_iff (writes : List Write) (name : String) :
    lastWrite? writes name = none ↔ ∀ w ∈ writes, w.1 ≠ name := by
  induction writes with
  | nil => simp [lastWrite?]
  | cons w writes ih =>
    rw [lastWrite?_cons, Option.or_eq_none_iff, ih, List.forall_mem_cons]
    by_cases hw : w.1 = name
    · simp [hw]
    · simp [hw]

theorem mem_of_lastWrite? {writes : List Write} {name uid : String}
    (h : lastWrite? writes name = some uid) : (name, uid) ∈ writes := by
  induction writes with
  | nil => simp [lastWrite?] at h
  | cons w writes ih =>
    obtain ⟨key, value⟩ := w
    rw [lastWrite?_cons, Option.or_eq_some_iff] at h
    rcases h with h | ⟨_, h⟩
    · exact List.mem_cons_of_mem _ (ih h)
    · split at h
      · rename_i hkey
        cases h
        exact hkey ▸ List.mem_cons_self
      · cases h

theorem lastWrite?_isSome_of_mem {writes : List Write} {name uid : String}
    (h : (name, uid) ∈ writes) : (lastWrite? writes name).isSome = true := by
  rw [Option.isSome_iff_ne_none, ne_eq, lastWrite?_eq_none_iff]
  intro hnone
  exact hnone (name, uid) h rfl

namespace Document

theorem mem_entities_iff (d : Document) (e : Entity) :
    e ∈ d.entities ↔ d.owner? = some e ∨ e ∈ d.otherEntities := by
  rw [otherEntities_eq, besideOwner, owner?]
  by_cases hflagged : d.entities.any Entity.isOwner = true
  · obtain ⟨flagged, hmem, hflag⟩ := List.any_eq_true.1 hflagged
    obtain ⟨owner, before, after, hbefore, howner, hentities, herase⟩ :=
      List.exists_of_eraseP hmem hflag
    have hfind : d.entities.find? Entity.isOwner = some owner := by
      rw [hentities, List.find?_append, List.find?_eq_none.2 hbefore]
      simp [howner]
    rw [if_pos hflagged, herase, hfind, hentities]
    simp only [List.mem_append, List.mem_cons, Option.some_or, Option.some.injEq]
    grind
  · have hfind : d.entities.find? Entity.isOwner = none := by
      simpa [List.find?_eq_none] using hflagged
    rw [if_neg hflagged, hfind]
    cases d.entities with
    | nil => simp
    | cons first others =>
      simp only [List.mem_cons, Option.none_or, List.head?_cons, Option.some.injEq, List.tail_cons]
      grind

theorem mem_sharedWrites_iff (d : Document) (w : Write) :
    w ∈ d.sharedWrites ↔
      (∃ e ∈ d.entities, w ∈ e.writes) ∨ ∃ r ∈ d.references, w = (r.uid, r.uid) := by
  have howner : w ∈ d.ownerWrites ↔ ∃ e, d.owner? = some e ∧ w ∈ e.writes := by
    unfold ownerWrites
    cases d.owner? <;> simp
  simp only [sharedWrites, List.mem_append, howner, List.mem_flatMap, List.mem_map,
    mem_entities_iff, or_and_right, exists_or, eq_comm (a := w)]

end Document

theorem find?_reverse_id {documents : List Document} (hids : (documents.map Document.id).Nodup)
    {d : Document} (hd : d ∈ documents) :
    (documents.reverse.find? fun q => q.id = d.id) = some d := by
  have hfound : (documents.reverse.find? fun q => q.id = d.id).isSome = true := by
    rw [List.find?_isSome]
    exact ⟨d, List.mem_reverse.2 hd, by simp⟩
  obtain ⟨q, hq⟩ := Option.isSome_iff_exists.1 hfound
  have hmem : q ∈ documents := List.mem_reverse.1 (List.mem_of_find?_eq_some hq)
  have hid : q.id = d.id := by simpa using List.find?_some hq
  rw [hq, List.inj_on_of_nodup_map hids hmem hd hid]

namespace Index

theorem tables_get?_id {documents : List Document} (hids : (documents.map Document.id).Nodup)
    {d : Document} (hd : d ∈ documents) :
    (ofDocuments documents).tables.get? d.id = some d.nameTable := by
  rw [tables_ofDocuments, find?_reverse_id hids hd]
  rfl

theorem scope_ofDocuments {documents : List Document} (hids : (documents.map Document.id).Nodup)
    {d : Document} (hd : d ∈ documents) :
    (ofDocuments documents).scope d.id =
      ⟨d.id, some d.nameTable, (ofDocuments documents).shared⟩ := by
  rw [scope, tables_get?_id hids hd]

theorem shared_foldl_eq (documents : List Document) (i : Index) :
    (documents.foldl addDocument i).shared =
      (documents.flatMap Document.sharedWrites).foldl (fun m (name, uid) => m.insert name uid)
        i.shared := by
  induction documents generalizing i with
  | nil => rfl
  | cons d documents ih =>
    rw [List.foldl_cons, ih, List.flatMap_cons, List.foldl_append]
    rfl

theorem shared_congr {first second : List Document}
    (h : first.map Document.sharedWrites = second.map Document.sharedWrites) :
    (ofDocuments first).shared = (ofDocuments second).shared := by
  rw [ofDocuments, ofDocuments, shared_foldl_eq, shared_foldl_eq, List.flatMap_def, h,
    ← List.flatMap_def]

end Index

end Crosslink
