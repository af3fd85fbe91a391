import Crosslink.Proofs.CompileAgain
import Mathlib.Data.List.Nodup

set_option autoImplicit false

namespace Crosslink

/-- The documents have the defect, in the document and at the position it names. -/
def Defect.IsIn (documents : List Document) : Defect → Prop
  | missingId => ∃ d ∈ documents, Text.isBlankText d.id = true
  | entityWithoutUid position id =>
    ∃ d ∈ documents, d.id = id ∧ ∃ e, d.entities[position]? = some e ∧ Text.isBlankText e.uid = true
  | referenceWithoutUid position id =>
    ∃ d ∈ documents, d.id = id ∧
      ∃ r, d.references[position]? = some r ∧ Text.isBlankText r.uid = true
  | severalOwners id => ∃ d ∈ documents, d.id = id ∧ 1 < d.entities.countP Entity.isOwner
  | repeatedId id => 1 < (documents.map Document.id).count id

theorem getElem?_of_findIdx? {α : Type} {p : α → Bool} {l : List α} {i : Nat}
    (h : l.findIdx? p = some i) : ∃ a, l[i]? = some a ∧ p a = true := by
  obtain ⟨hi, hp, _⟩ := List.findIdx?_eq_some_iff_getElem.1 h
  exact ⟨l[i], List.getElem?_eq_getElem hi, hp⟩

theorem Document.isIn_of_defect? {documents : List Document} {d : Document} (hd : d ∈ documents)
    {defect : Defect} (h : d.defect? = some defect) : defect.IsIn documents := by
  unfold defect? at h
  split at h
  · rename_i hid
    cases h
    exact ⟨d, hd, hid⟩
  · rcases Option.or_eq_some_iff.1 h with hentity | ⟨_, h⟩
    · obtain ⟨position, hfound, rfl⟩ := Option.map_eq_some_iff.1 hentity
      exact ⟨d, hd, rfl, getElem?_of_findIdx? hfound⟩
    · rcases Option.or_eq_some_iff.1 h with hreference | ⟨_, howners⟩
      · obtain ⟨position, hfound, rfl⟩ := Option.map_eq_some_iff.1 hreference
        exact ⟨d, hd, rfl, getElem?_of_findIdx? hfound⟩
      · split at howners
        · rename_i hcount
          cases howners
          exact ⟨d, hd, rfl, hcount⟩
        · cases howners

theorem isIn_of_firstDefect? {seen : List String} (before : List Document)
    {documents : List Document} (hseen : ∀ id ∈ seen, id ∈ before.map Document.id) {defect : Defect}
    (h : Document.firstDefect? seen documents = some defect) :
    defect.IsIn (before ++ documents) := by
  induction documents generalizing seen before with
  | nil => cases h
  | cons d documents ih =>
    rw [Document.firstDefect?] at h
    rcases Option.or_eq_some_iff.1 h with hown | ⟨_, h⟩
    · exact Document.isIn_of_defect? (by simp) hown
    · split at h
      · rename_i hrepeated
        cases h
        have hbefore : 0 < (before.map Document.id).count d.id :=
          List.count_pos_iff.2 (hseen d.id hrepeated)
        change 1 < ((before ++ d :: documents).map Document.id).count d.id
        rw [List.map_append, List.map_cons, List.count_append, List.count_cons_self]
        omega
      · -- The document is looked at no more: it is one of those before the rest.
        have hmore : ∀ id ∈ d.id :: seen, id ∈ (before ++ [d]).map Document.id := by
          intro id hid
          rw [List.map_append, List.mem_append]
          rcases List.mem_cons.1 hid with rfl | hid
          · exact .inr List.mem_cons_self
          · exact .inl (hseen id hid)
        simpa using ih (before ++ [d]) hmore h

theorem isIn_of_compile {s : Settings} {classifier : Classifier} {documents : List Document}
    {defect : Defect} (h : compile s classifier documents = .error defect) :
    defect.IsIn documents := by
  unfold compile at h
  split at h
  · rename_i found hfound
    cases h
    exact isIn_of_firstDefect? [] (by simp) hfound
  · cases h

/-- The structure of the documents is broken: an identifier is blank or repeated, or a document has
    several owners. -/
def IsBroken (documents : List Document) : Prop :=
  (∃ d ∈ documents, Text.isBlankText d.id = true) ∨
  (∃ id, 1 < (documents.map Document.id).count id) ∨
  (∃ d ∈ documents, (∃ e ∈ d.entities, Text.isBlankText e.uid = true) ∨
    ∃ r ∈ d.references, Text.isBlankText r.uid = true) ∨
  ∃ d ∈ documents, 1 < d.entities.countP Entity.isOwner

theorem Defect.IsIn.isBroken {documents : List Document} {defect : Defect}
    (h : defect.IsIn documents) : IsBroken documents := by
  cases defect with
  | missingId => exact .inl h
  | entityWithoutUid position id =>
    obtain ⟨d, hd, _, e, he, hblank⟩ := h
    exact .inr (.inr (.inl ⟨d, hd, .inl ⟨e, List.mem_of_getElem? he, hblank⟩⟩))
  | referenceWithoutUid position id =>
    obtain ⟨d, hd, _, r, hr, hblank⟩ := h
    exact .inr (.inr (.inl ⟨d, hd, .inr ⟨r, List.mem_of_getElem? hr, hblank⟩⟩))
  | severalOwners id =>
    obtain ⟨d, hd, _, hcount⟩ := h
    exact .inr (.inr (.inr ⟨d, hd, hcount⟩))
  | repeatedId id => exact .inr (.inl ⟨id, h⟩)

theorem not_isBroken {documents : List Document} (h : defect? documents = none) :
    ¬IsBroken documents := by
  obtain ⟨hsound, hids⟩ := (defect?_eq_none_iff documents).1 h
  rintro (⟨d, hd, hblank⟩ | ⟨id, hcount⟩ | ⟨d, hd, ⟨e, he, hblank⟩ | ⟨r, hr, hblank⟩⟩ |
    ⟨d, hd, hcount⟩)
  · simp [(hsound d hd).id] at hblank
  · have honce := List.nodup_iff_count_le_one.1 hids id
    omega
  · simp [(hsound d hd).entities e he] at hblank
  · simp [(hsound d hd).references r hr] at hblank
  · have howners := (hsound d hd).owners
    omega

/-- A run fails exactly on documents of broken structure, with a defect that they have, and its
    documents can be given to any run again. -/
theorem compile_refuses_broken (s : Settings) (classifier : Classifier)
    (documents : List Document) :
    ((∃ defect, compile s classifier documents = .error defect) ↔ IsBroken documents) ∧
    (∀ defect, compile s classifier documents = .error defect →
      defect.IsIn documents ∧ defect.toError.kind = .invalidDocument) ∧
    ∀ outcome, compile s classifier documents = .ok outcome →
      defect? outcome.documents = none ∧
        ∀ (s' : Settings) (classifier' : Classifier),
          ∃ again, compile s' classifier' outcome.documents = .ok again := by
  refine ⟨⟨?_, ?_⟩, ?_, ?_⟩
  · rintro ⟨defect, h⟩
    exact (isIn_of_compile h).isBroken
  · intro hbroken
    cases h : compile s classifier documents with
    | error defect => exact ⟨defect, rfl⟩
    | ok outcome =>
      obtain ⟨hdefect, _⟩ := (compile_eq_ok_iff s classifier documents outcome).1 h
      exact absurd hbroken (not_isBroken hdefect)
  · intro defect h
    exact ⟨isIn_of_compile h, rfl⟩
  · intro outcome h
    obtain ⟨hdefect, rfl⟩ := (compile_eq_ok_iff s classifier documents outcome).1 h
    have hsound : defect? (compileValid s classifier documents).documents = none :=
      defect?_compileValid s hdefect
    exact ⟨hsound, fun s' classifier' =>
      ⟨_, (compile_eq_ok_iff s' classifier' _ _).2 ⟨hsound, rfl⟩⟩⟩

/-- Two documents of one identifier are refused by any run, and what a run writes of one of them is
    taken by any run. -/
theorem compile_refuses_broken_repeated :
    let d : Document := { id := "d", entities := [{ uid := "a.Foo", isOwner := true }] }
    (∃ defect, compile {} Classifier.silent [d, d] = .error defect ∧ defect.IsIn [d, d]) ∧
    ∃ outcome, compile {} Classifier.silent [d] = .ok outcome ∧
      ∃ again, compile {} Classifier.silent outcome.documents = .ok again := by
  intro d
  constructor
  · obtain ⟨hbroken, hdefect, _⟩ := compile_refuses_broken {} Classifier.silent [d, d]
    obtain ⟨defect, h⟩ := hbroken.2 (.inr (.inl ⟨"d", by decide⟩))
    exact ⟨defect, h, (hdefect defect h).1⟩
  · obtain ⟨_, _, hagain⟩ := compile_refuses_broken {} Classifier.silent [d]
    have h : compile {} Classifier.silent [d] = .ok (compileValid {} Classifier.silent [d]) :=
      (compile_eq_ok_iff _ _ _ _).2 ⟨by decide +kernel, rfl⟩
    exact ⟨_, h, (hagain _ h).2 {} Classifier.silent⟩

end Crosslink
