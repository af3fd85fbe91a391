import Crosslink.Proofs.References

set_option autoImplicit false

namespace Crosslink

namespace Document

structure IsSound (d : Document) : Prop where
  id : Text.isBlankText d.id = false
  entities : ∀ e ∈ d.entities, Text.isBlankText e.uid = false
  references : ∀ r ∈ d.references, Text.isBlankText r.uid = false
  owners : d.entities.countP Entity.isOwner ≤ 1

theorem defect?_eq_none_iff (d : Document) : d.defect? = none ↔ d.IsSound := by
  unfold defect?
  constructor
  · intro h
    split at h
    · cases h
    · rename_i hid
      simp only [Option.or_eq_none_iff, Option.map_eq_none_iff, List.findIdx?_eq_none_iff] at h
      obtain ⟨hentities, hreferences, howners⟩ := h
      have hcount : ¬1 < d.entities.countP Entity.isOwner := by
        intro hcount
        rw [if_pos hcount] at howners
        cases howners
      exact ⟨by simpa using hid, hentities, hreferences, by omega⟩
  · rintro ⟨hid, hentities, hreferences, howners⟩
    have hcount : ¬1 < d.entities.countP Entity.isOwner := by omega
    rw [if_neg (by simp [hid]), if_neg hcount]
    simp only [Option.or_eq_none_iff, Option.map_eq_none_iff, List.findIdx?_eq_none_iff]
    exact ⟨hentities, hreferences, trivial⟩

theorem firstDefect?_eq_none_iff (seen : List String) (documents : List Document) :
    firstDefect? seen documents = none ↔
      (∀ d ∈ documents, d.IsSound ∧ d.id ∉ seen) ∧ (documents.map Document.id).Nodup := by
  induction documents generalizing seen with
  | nil => simp [firstDefect?]
  | cons d documents ih =>
    rw [firstDefect?, Option.or_eq_none_iff, defect?_eq_none_iff, List.map_cons, List.nodup_cons,
      List.forall_mem_cons]
    by_cases hseen : d.id ∈ seen
    · simp [hseen]
    · rw [if_neg hseen, ih]
      simp only [List.mem_cons, List.mem_map, not_or, not_exists, not_and, hseen]
      constructor
      · rintro ⟨hd, hall, hnodup⟩
        refine ⟨⟨⟨hd, not_false⟩, ?_⟩, ?_, hnodup⟩
        · intro q hq
          exact ⟨(hall q hq).1, (hall q hq).2.2⟩
        · intro q hq
          exact (hall q hq).2.1
      · rintro ⟨⟨⟨hd, _⟩, hall⟩, hnew, hnodup⟩
        refine ⟨hd, ?_, hnodup⟩
        intro q hq
        exact ⟨(hall q hq).1, hnew q hq, (hall q hq).2⟩

theorem IsSound.mapEntities {d : Document} (h : d.IsSound) {f : Entity → Entity}
    (huid : ∀ e, (f e).uid = e.uid) (howner : ∀ e, (f e).isOwner = e.isOwner) :
    ({ d with entities := d.entities.map f } : Document).IsSound where
  id := h.id
  entities := by
    intro q hq
    obtain ⟨e, he, rfl⟩ := List.mem_map.1 hq
    rw [huid]
    exact h.entities e he
  references := h.references
  owners := by
    rw [List.countP_map]
    simp only [Function.comp_def, howner]
    exact h.owners

theorem IsSound.mapTexts {d : Document} (h : d.IsSound) (f : String → String) :
    (d.mapTexts f).IsSound :=
  h.mapEntities (fun _ => rfl) fun _ => rfl

theorem IsSound.mentionTypes {d : Document} (h : d.IsSound) : d.mentionTypes.IsSound where
  id := h.id
  entities := h.entities
  references := by
    intro q hq
    rcases List.mem_append.1 hq with hq | hq
    · exact h.references q hq
    · obtain ⟨uid, huid, rfl⟩ := List.mem_map.1 hq
      rw [Reference.toType_uid]
      exact isBlankText_of_mem_declaredTypes (mem_of_mem_missingFrom huid)
  owners := h.owners

theorem IsSound.expandTypes {d : Document} (h : d.IsSound) : d.expandTypes.IsSound where
  id := h.id
  entities := h.entities
  references := by
    intro q hq
    rcases List.mem_append.1 hq with hq | hq
    · obtain ⟨r, hr, rfl⟩ := List.mem_map.1 hq
      rw [Reference.withParts_uid]
      exact h.references r hr
    · obtain ⟨uid, huid, rfl⟩ := List.mem_map.1 hq
      obtain ⟨r, _, hnamed⟩ := exists_of_mem_missingTypes huid
      exact isBlankText_of_mem_namedTypes hnamed
  owners := h.owners

end Document

/-- A list of documents has no defect exactly when each is sound and no two share an identifier. -/
theorem defect?_eq_none_iff (documents : List Document) :
    defect? documents = none ↔
      (∀ d ∈ documents, d.IsSound) ∧ (documents.map Document.id).Nodup := by
  rw [defect?, Document.firstDefect?_eq_none_iff]
  simp

end Crosslink
