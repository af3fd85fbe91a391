import Crosslink.Proofs.Defects
import Crosslink.Proofs.RunLinks

set_option autoImplicit false

namespace Crosslink

theorem lastWrite?_flatMap_eq_none_iff (documents : List Document) (name : String) :
    lastWrite? (documents.flatMap Document.sharedWrites) name = none ↔
      ∀ d ∈ documents, lastWrite? d.sharedWrites name = none := by
  induction documents with
  | nil => simp [lastWrite?]
  | cons d documents ih =>
    rw [List.flatMap_cons, lastWrite?_append, Option.or_eq_none_iff, ih, List.forall_mem_cons,
      and_comm]

theorem exists_of_lastWrite?_flatMap {documents : List Document} {name uid : String}
    (h : lastWrite? (documents.flatMap Document.sharedWrites) name = some uid) :
    ∃ d ∈ documents, lastWrite? d.sharedWrites name = some uid := by
  induction documents with
  | nil => simp [lastWrite?] at h
  | cons d documents ih =>
    rw [List.flatMap_cons, lastWrite?_append, Option.or_eq_some_iff] at h
    rcases h with h | ⟨_, h⟩
    · obtain ⟨q, hq, hlast⟩ := ih h
      exact ⟨q, List.mem_cons_of_mem d hq, hlast⟩
    · exact ⟨d, List.mem_cons_self, h⟩

/-- Two of the documents leave the shared name with different symbols. -/
def Contested (documents : List Document) (name : String) : Prop :=
  ∃ d ∈ documents, ∃ q ∈ documents,
    (lastWrite? d.sharedWrites name).isSome = true ∧
    (lastWrite? q.sharedWrites name).isSome = true ∧
    lastWrite? d.sharedWrites name ≠ lastWrite? q.sharedWrites name

instance (documents : List Document) (name : String) : Decidable (Contested documents name) :=
  inferInstanceAs (Decidable (∃ d ∈ documents, ∃ q ∈ documents, _ ∧ _ ∧ _))

theorem forall_not_contested_iff (documents : List Document) :
    (∀ name, ¬Contested documents name) ↔
      ∀ w ∈ documents.flatMap Document.sharedWrites, ¬Contested documents w.1 := by
  refine ⟨fun h w _ => h w.1, ?_⟩
  rintro h name ⟨d, hd, q, hq, hsome, hcontest⟩
  obtain ⟨uid, hlast⟩ := Option.isSome_iff_exists.1 hsome
  have hwrite : (name, uid) ∈ documents.flatMap Document.sharedWrites :=
    List.mem_flatMap.2 ⟨d, hd, mem_of_lastWrite? hlast⟩
  exact h (name, uid) hwrite ⟨d, hd, q, hq, hsome, hcontest⟩

theorem lastWrite?_flatMap_of_not_contested {documents : List Document} {name : String}
    (h : ¬Contested documents name) {d : Document} (hd : d ∈ documents) {uid : String}
    (hlast : lastWrite? d.sharedWrites name = some uid) :
    lastWrite? (documents.flatMap Document.sharedWrites) name = some uid := by
  cases hall : lastWrite? (documents.flatMap Document.sharedWrites) name with
  | none =>
    have hnone := (lastWrite?_flatMap_eq_none_iff documents name).1 hall d hd
    rw [hlast] at hnone
    cases hnone
  | some other =>
    -- The document that left `other` and `d` would contest the name.
    obtain ⟨q, hq, hother⟩ := exists_of_lastWrite?_flatMap hall
    by_contra hne
    refine h ⟨d, hd, q, hq, by simp [hlast], by simp [hother], ?_⟩
    rw [hlast, hother]
    exact Ne.symm hne

theorem lastWrite?_flatMap_perm {first second : List Document} (hperm : first.Perm second)
    {name : String} (h : ¬Contested first name) :
    lastWrite? (first.flatMap Document.sharedWrites) name =
      lastWrite? (second.flatMap Document.sharedWrites) name := by
  cases hsecond : lastWrite? (second.flatMap Document.sharedWrites) name with
  | none =>
    rw [lastWrite?_flatMap_eq_none_iff] at hsecond ⊢
    intro d hd
    exact hsecond d (hperm.mem_iff.1 hd)
  | some uid =>
    obtain ⟨d, hd, hlast⟩ := exists_of_lastWrite?_flatMap hsecond
    exact lastWrite?_flatMap_of_not_contested h (hperm.mem_iff.2 hd) hlast

namespace Index

theorem tables_perm {first second : List Document} (hids : (first.map Document.id).Nodup)
    (hperm : first.Perm second) (id : String) :
    (ofDocuments first).tables.get? id = (ofDocuments second).tables.get? id := by
  by_cases hfound : ∃ d ∈ first, d.id = id
  · obtain ⟨d, hd, rfl⟩ := hfound
    have hids' : (second.map Document.id).Nodup := (hperm.map Document.id).nodup_iff.1 hids
    rw [tables_get?_id hids hd, tables_get?_id hids' (hperm.mem_iff.1 hd)]
  · have hnone (documents : List Document) (hsub : documents ⊆ first) :
        (documents.reverse.find? fun d => d.id = id) = none := by
      rw [List.find?_eq_none]
      intro d hd hid
      exact hfound ⟨d, hsub (List.mem_reverse.1 hd), by simpa using hid⟩
    rw [tables_ofDocuments, tables_ofDocuments, hnone first (List.Subset.refl first),
      hnone second hperm.symm.subset]

theorem shared_perm {first second : List Document} (hperm : first.Perm second) {name : String}
    (h : ¬Contested first name) :
    (ofDocuments first).shared.get? name = (ofDocuments second).shared.get? name := by
  rw [shared_ofDocuments, shared_ofDocuments]
  exact lastWrite?_flatMap_perm hperm h

end Index

namespace Scope

structure Agrees (one two : Scope) : Prop where
  document : one.document = two.document
  owner : one.owner? = two.owner?
  answer : ∀ name, one.get? name = two.get? name

namespace Agrees

variable {one two : Scope} (h : one.Agrees two)

include h

theorem classUid? (cs : List Char) : one.classUid? cs = two.classUid? cs := by
  unfold Scope.classUid?
  simp only [h.answer]

theorem fuzzy? (cs : List Char) : one.fuzzy? cs = two.fuzzy? cs := by
  unfold Scope.fuzzy?
  simp only [h.classUid?]

theorem asWritten? (package cs : List Char) :
    one.asWritten? package cs = two.asWritten? package cs := by
  unfold Scope.asWritten?
  rw [h.answer, h.answer]

theorem withOwner (cs : List Char) : one.withOwner cs = two.withOwner cs := by
  unfold Scope.withOwner
  rw [h.owner]

theorem resolve (package cs : List Char) : one.resolve package cs = two.resolve package cs := by
  unfold Scope.resolve
  simp only [h.withOwner, h.asWritten?, h.fuzzy?]

theorem judge (package target : List Char) :
    one.judge package target = two.judge package target := by
  unfold Scope.judge
  simp only [h.resolve]

theorem rewrite (s : Settings) (package text : String) :
    one.rewrite s package text = two.rewrite s package text := by
  unfold Scope.rewrite
  simp only [h.judge, h.document]

end Agrees

end Scope

namespace Document

theorem rewrite_prepare_of_agrees (s : Settings) (classifier : Classifier) {i j : Index}
    {d : Document} (h : (i.scope d.id).Agrees (j.scope d.id)) :
    (d.prepare s classifier).rewrite s i = (d.prepare s classifier).rewrite s j := by
  unfold rewrite
  rw [prepare_id]
  simp only [h.rewrite]

theorem reports_of_agrees (s : Settings) {i j : Index} {d : Document}
    (h : (i.scope d.id).Agrees (j.scope d.id)) : d.reports s i = d.reports s j := by
  unfold reports verdict
  simp only [h.judge]

end Document

theorem scope_mentionTypes_agrees {first second : List Document}
    (hids : (first.map Document.id).Nodup) (hperm : first.Perm second)
    (h : ∀ name, ¬Contested (first.map Document.mentionTypes) name) {d : Document}
    (hd : d ∈ first) :
    ((Index.ofDocuments (first.map Document.mentionTypes)).scope d.id).Agrees
      ((Index.ofDocuments (second.map Document.mentionTypes)).scope d.id) := by
  have hids' : (second.map Document.id).Nodup := (hperm.map Document.id).nodup_iff.1 hids
  rw [scope_mentionTypes hids hd, scope_mentionTypes hids' (hperm.mem_iff.1 hd)]
  refine ⟨rfl, rfl, ?_⟩
  intro name
  have hshared := Index.shared_perm (hperm.map Document.mentionTypes) (h name)
  simp only [Scope.get?, hshared]

/-- In another order of the documents a name changes its meaning in a document only if the document
    has no such name of its own and other documents contest it. Where none is contested once the
    declared types are mentioned, each document is compiled to the same one, with the same
    findings. -/
theorem compile_in_any_order (s : Settings) (classifier : Classifier)
    {first second : List Document} (hids : (first.map Document.id).Nodup)
    (hperm : first.Perm second) :
    (∀ id name,
      ((Index.ofDocuments first).scope id).get? name ≠
          ((Index.ofDocuments second).scope id).get? name →
        ((Index.ofDocuments first).scope id).own.bind (·.get? name) = none ∧
          Contested first name) ∧
    (defect? first = none → (∀ name, ¬Contested (first.map Document.mentionTypes) name) →
      ∃ before after, ∃ output : Document → Document,
        compile s classifier first = .ok before ∧ compile s classifier second = .ok after ∧
        before.documents = first.map output ∧ after.documents = second.map output ∧
        ∀ d ∈ first, before.findingsOf d.id = after.findingsOf d.id) := by
  have hids' : (second.map Document.id).Nodup := (hperm.map Document.id).nodup_iff.1 hids
  constructor
  · intro id name hne
    have howns : ((Index.ofDocuments first).scope id).own =
        ((Index.ofDocuments second).scope id).own := Index.tables_perm hids hperm id
    rw [Scope.get?, Scope.get?, ← howns] at hne
    constructor
    · -- A name of the document's own answers before the shared ones are asked.
      by_contra hown
      obtain ⟨uid, huid⟩ := Option.ne_none_iff_exists'.1 hown
      rw [huid] at hne
      exact hne rfl
    · by_contra hcontest
      apply hne
      have hshared := Index.shared_perm hperm hcontest
      simp only [Index.scope, hshared]
  · intro hdefect hcontest
    have hdefect' : defect? second = none := by
      rw [defect?_eq_none_iff] at hdefect ⊢
      exact ⟨fun d hd => hdefect.1 d (hperm.mem_iff.2 hd), hids'⟩
    have hagrees {d : Document} (hd : d ∈ first) :=
      scope_mentionTypes_agrees hids hperm hcontest hd
    refine ⟨compileValid s classifier first, compileValid s classifier second, _,
      (compile_eq_ok_iff _ _ _ _).2 ⟨hdefect, rfl⟩, (compile_eq_ok_iff _ _ _ _).2 ⟨hdefect', rfl⟩,
      documents_compileValid s classifier first, ?_, ?_⟩
    · rw [documents_compileValid]
      apply List.map_congr_left
      intro d hd
      have hd' : d ∈ first := hperm.mem_iff.2 hd
      rw [Document.rewrite_prepare_of_agrees s classifier (hagrees hd')]
    · intro d hd
      rw [findingsOf_compileValid s classifier hids hd,
        findingsOf_compileValid s classifier hids' (hperm.mem_iff.1 hd),
        Document.reports_of_agrees s (hagrees hd)]

theorem compile_in_any_order_swapped :
    let d : Document :=
      { id := "d", package := "a", entities := [{ uid := "a.D", summary := some "[x](E) [y](F)" }] }
    let e (id uid type : String) : Document :=
      let declaration : Declaration := { returns := some { type := some type } }
      { id := id, entities := [{ uid := uid, nameWithType := "E", declaration := declaration }] }
    let one := e "e" "b.E" "java.util.List<a.D>"
    let two := e "f" "c.E" "b.E"
    (((Index.ofDocuments [one, two, d]).scope "d").get? "E" = some "c.E" ∧
      ((Index.ofDocuments [d, two, one]).scope "d").get? "E" = some "b.E" ∧
      Contested [one, two, d] "E") ∧
    ∃ before after, ∃ output : Document → Document,
      compile {} .silent [one, d] = .ok before ∧ compile {} .silent [d, one] = .ok after ∧
      before.documents = [output one, output d] ∧ after.documents = [output d, output one] ∧
      before.findingsOf "d" = [.unresolved "d" "F"] ∧
      before.findingsOf "d" = after.findingsOf "d" := by
  intro d e one two
  constructor
  · have hfirst : ((Index.ofDocuments [one, two, d]).scope "d").get? "E" = some "c.E" := by
      decide +kernel
    have hsecond : ((Index.ofDocuments [d, two, one]).scope "d").get? "E" = some "b.E" := by
      decide +kernel
    have hperm : [one, two, d].Perm [d, two, one] := List.reverse_perm [d, two, one]
    have hchanged := (compile_in_any_order {} .silent (by decide +kernel) hperm).1 "d" "E"
    rw [hfirst, hsecond] at hchanged
    exact ⟨hfirst, hsecond, (hchanged (by decide)).2⟩
  · have hperm : [one, d].Perm [d, one] := .swap d one []
    have hcontest : ∀ name, ¬Contested ([one, d].map Document.mentionTypes) name :=
      (forall_not_contested_iff _).2 (by decide +kernel)
    obtain ⟨before, after, output, hbefore, hafter, hfirst, hsecond, hfindings⟩ :=
      (compile_in_any_order {} .silent (by decide +kernel) hperm).2 (by decide +kernel) hcontest
    refine ⟨before, after, output, hbefore, hafter, hfirst, hsecond, ?_, hfindings d (by simp)⟩
    obtain ⟨_, rfl⟩ := (compile_eq_ok_iff _ _ _ _).1 hbefore
    decide +kernel

end Crosslink
