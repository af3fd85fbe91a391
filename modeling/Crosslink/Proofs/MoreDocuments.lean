import Crosslink.Proofs.Defects
import Crosslink.Proofs.RewriteAgain
import Crosslink.Proofs.RunLinks

set_option autoImplicit false

namespace Crosslink

/-- The second answer is the first one or names a symbol. An empty identifier names none. -/
def Improves (x y : Option String) : Prop := y = x ∨ ∃ uid, y = some uid ∧ uid ≠ ""

namespace Improves

theorem refl (x : Option String) : Improves x x := .inl rfl

theorem or {x y x' y' : Option String} (h : Improves x y) (h' : Improves x' y') :
    Improves (x.or x') (y.or y') := by
  rcases h with rfl | ⟨uid, rfl, huid⟩
  · cases y with
    | none => simpa using h'
    | some uid => exact .inl rfl
  · exact .inr ⟨uid, rfl, huid⟩

theorem map {x y : Option String} (h : Improves x y) {f : String → String}
    (hf : ∀ uid, f uid ≠ "") : Improves (x.map f) (y.map f) := by
  rcases h with rfl | ⟨uid, rfl, _⟩
  · exact .inl rfl
  · exact .inr ⟨f uid, rfl, hf uid⟩

theorem getD_ne {x y : Option String} (h : Improves x y) (hx : x.getD "" ≠ "") :
    y.getD "" ≠ "" := by
  rcases h with rfl | ⟨uid, rfl, huid⟩
  · exact hx
  · exact huid

end Improves

namespace Scope

/-- The second scope has the same names of its own, and no shared name of the first is lost. -/
structure Grows (small large : Scope) : Prop where
  own : large.own = small.own
  shared : ∀ name, Improves (small.shared.get? name) (large.shared.get? name)

theorem memberUid_ne_empty (member : List Char) (wildcard : Bool) (owner : String) :
    memberUid owner member wildcard ≠ "" := by
  intro h
  have hlist := congrArg String.toList h
  simp [memberUid] at hlist

namespace Grows

variable {small large : Scope} (h : small.Grows large)

include h

theorem get? (name : String) : Improves (small.get? name) (large.get? name) := by
  rw [Scope.get?, Scope.get?, h.own]
  exact (Improves.refl _).or (h.shared name)

theorem classUid? (cs : List Char) : Improves (small.classUid? cs) (large.classUid? cs) := by
  unfold Scope.classUid?
  apply (h.get? _).or
  split
  · exact h.get? _
  · exact Improves.refl none

theorem fuzzy? (cs : List Char) : Improves (small.fuzzy? cs) (large.fuzzy? cs) := by
  unfold Scope.fuzzy?
  split
  · exact (h.classUid? _).map (memberUid_ne_empty _ _)
  · rename_i name wildcard _
    cases Text.cutAtLast? '.' name with
    | none => exact Improves.refl none
    | some cut => exact (h.classUid? cut.1).map (memberUid_ne_empty cut.2 wildcard)
  · exact Improves.refl none

theorem asWritten? (package cs : List Char) :
    Improves (small.asWritten? package cs) (large.asWritten? package cs) :=
  (h.get? _).or (h.get? _)

theorem withOwner (cs : List Char) : large.withOwner cs = small.withOwner cs := by
  have howner : large.owner? = small.owner? := by rw [Scope.owner?, h.own, Scope.owner?]
  unfold Scope.withOwner
  rw [howner]

theorem resolve_ne_empty {package cs : List Char} (hsmall : small.resolve package cs ≠ "") :
    large.resolve package cs ≠ "" := by
  unfold Scope.resolve at hsmall ⊢
  cases htext : Text.trimBoth cs with
  | nil => simp [htext] at hsmall
  | cons c text =>
    simp only [htext, h.withOwner] at hsmall ⊢
    exact ((h.asWritten? _ _).or (h.fuzzy? _)).getD_ne hsmall

end Grows

theorem isResolved_judge_iff (scope : Scope) (package target : List Char) :
    (scope.judge package target).isResolved = true ↔
      scope.judge package target ≠ .malformed ∧
        scope.resolve package (Text.trimBoth target) ≠ "" := by
  simp only [judge]
  split
  · simp [Verdict.isResolved]
  · split
    · rename_i hempty
      simp [Verdict.isResolved, String.isEmpty_iff.1 hempty]
    · rename_i hempty
      simpa [Verdict.isResolved] using hempty

theorem judge_malformed_iff (small large : Scope) (package target : List Char) :
    small.judge package target = .malformed ↔ large.judge package target = .malformed := by
  rw [judge_eq_malformed_iff, judge_eq_malformed_iff]

theorem Grows.isResolved_judge {small large : Scope} (h : small.Grows large)
    {package target : List Char} (hsmall : (small.judge package target).isResolved = true) :
    (large.judge package target).isResolved = true := by
  rw [isResolved_judge_iff] at hsmall ⊢
  rw [ne_eq, ← judge_malformed_iff small large]
  exact ⟨hsmall.1, h.resolve_ne_empty hsmall.2⟩

end Scope

theorem Document.IsSound.ne_empty_of_mem_sharedWrites {d : Document} (h : d.IsSound)
    {name uid : String} (hw : (name, uid) ∈ d.sharedWrites) : uid ≠ "" := by
  have hblank : Text.isBlankText uid = false := by
    rcases (d.mem_sharedWrites_iff (name, uid)).1 hw with ⟨e, he, hwrite⟩ | ⟨r, hr, hwrite⟩
    · obtain ⟨_, _, heq⟩ := List.mem_map.1 hwrite
      cases heq
      exact h.entities e he
    · cases hwrite
      exact h.references r hr
  rintro rfl
  cases hblank

theorem improves_lastWrite? {fewer more : List Write} (hsub : fewer ⊆ more)
    (hmore : ∀ w ∈ more, w.2 ≠ "") (name : String) :
    Improves (lastWrite? fewer name) (lastWrite? more name) := by
  cases hlast : lastWrite? more name with
  | some uid => exact .inr ⟨uid, rfl, hmore _ (mem_of_lastWrite? hlast)⟩
  | none =>
    have hnone : lastWrite? fewer name = none := by
      rw [lastWrite?_eq_none_iff] at hlast ⊢
      intro w hw
      exact hlast w (hsub hw)
    exact .inl hnone.symm

/-- A document looks at its links in a scope that grows with the documents around it. -/
theorem scope_grows {fewer more : List Document} (hfewer : (fewer.map Document.id).Nodup)
    (hmore : (more.map Document.id).Nodup) (hsound : ∀ q ∈ more, q.IsSound) (hsub : fewer ⊆ more)
    {d : Document} (hd : d ∈ fewer) :
    ((Index.ofDocuments (fewer.map Document.mentionTypes)).scope d.id).Grows
      ((Index.ofDocuments (more.map Document.mentionTypes)).scope d.id) := by
  rw [scope_mentionTypes hfewer hd, scope_mentionTypes hmore (hsub hd)]
  refine ⟨rfl, ?_⟩
  intro name
  simp only [Index.shared_ofDocuments]
  apply improves_lastWrite?
  · intro w hw
    obtain ⟨q, hq, hwrite⟩ := List.mem_flatMap.1 hw
    exact List.mem_flatMap.2 ⟨q, List.map_subset _ hsub hq, hwrite⟩
  · intro w hw
    obtain ⟨_, hmentioned, hwrite⟩ := List.mem_flatMap.1 hw
    obtain ⟨q, hq, rfl⟩ := List.mem_map.1 hmentioned
    exact (hsound q hq).mentionTypes.ne_empty_of_mem_sharedWrites hwrite

namespace Document

theorem countP_unresolved_reports (s : Settings) (i : Index) (d : Document) :
    (d.reports s i).countP Finding.isUnresolved =
      (d.links s).countP fun t => d.verdict i t = .unresolved := by
  rw [reports, List.countP_filterMap]
  congr 1
  funext t
  cases d.verdict i t <;> rfl

theorem filter_malformed_reports (s : Settings) {i j : Index} {d : Document}
    (h : ∀ t ∈ d.links s, d.verdict i t = .malformed ↔ d.verdict j t = .malformed) :
    (d.reports s i).filter (fun f => !f.isUnresolved) =
      (d.reports s j).filter fun f => !f.isUnresolved := by
  have hfinding (k : Index) (t : Tag) :
      (t.finding? d.id (d.verdict k t)).filter (fun f => !f.isUnresolved) =
        if d.verdict k t = .malformed then t.finding? d.id .malformed else none := by
    cases d.verdict k t <;> rfl
  rw [reports, reports, List.filter_filterMap, List.filter_filterMap]
  apply List.filterMap_congr
  intro t ht
  rw [hfinding, hfinding]
  simp only [h t ht]

end Document

/-- Among more documents every resolved tag stays resolved, the same tags are no payloads, and no
    document has more unresolved tags. -/
theorem compile_more_documents (s : Settings) (classifier : Classifier)
    {fewer more : List Document} (hfewer : defect? fewer = none) (hmore : defect? more = none)
    (hsub : fewer ⊆ more) :
    let before := Index.ofDocuments (fewer.map Document.mentionTypes)
    let after := Index.ofDocuments (more.map Document.mentionTypes)
    ∃ small large,
      compile s classifier fewer = .ok small ∧ compile s classifier more = .ok large ∧
      small.Judges s fewer before ∧ large.Judges s more after ∧
      ∀ d ∈ fewer,
        (∀ t ∈ d.links s, (d.verdict before t).isResolved = true →
          (d.verdict after t).isResolved = true) ∧
        (∀ t ∈ d.links s, d.verdict before t = .malformed ↔ d.verdict after t = .malformed) ∧
        (small.findingsOf d.id).filter (fun f => !f.isUnresolved) =
          (large.findingsOf d.id).filter (fun f => !f.isUnresolved) ∧
        (large.findingsOf d.id).countP Finding.isUnresolved ≤
          (small.findingsOf d.id).countP Finding.isUnresolved := by
  intro before after
  obtain ⟨_, hids⟩ := (defect?_eq_none_iff fewer).1 hfewer
  obtain ⟨hsound, hids'⟩ := (defect?_eq_none_iff more).1 hmore
  have hsmall := judges_compileValid s classifier hids
  have hlarge := judges_compileValid s classifier hids'
  refine ⟨_, _, (compile_eq_ok_iff _ _ _ _).2 ⟨hfewer, rfl⟩,
    (compile_eq_ok_iff _ _ _ _).2 ⟨hmore, rfl⟩, hsmall, hlarge, ?_⟩
  intro d hd
  have hgrows := scope_grows hids hids' hsound hsub hd
  have hresolved : ∀ t ∈ d.links s, (d.verdict before t).isResolved = true →
      (d.verdict after t).isResolved = true :=
    fun _ _ ht => hgrows.isResolved_judge ht
  have hmalformed : ∀ t ∈ d.links s, d.verdict before t = .malformed ↔
      d.verdict after t = .malformed :=
    fun t _ => Scope.judge_malformed_iff _ _ _ t.uid
  refine ⟨hresolved, hmalformed, ?_, ?_⟩
  · rw [hsmall.findings d hd, hlarge.findings d (hsub hd)]
    exact Document.filter_malformed_reports s hmalformed
  · rw [hsmall.findings d hd, hlarge.findings d (hsub hd), Document.countP_unresolved_reports,
      Document.countP_unresolved_reports]
    apply List.countP_mono_left
    intro t ht hafter
    -- A tag that is unresolved among more documents was neither resolved nor malformed before.
    have hresolved := hresolved t ht
    have hmalformed := hmalformed t ht
    rw [decide_eq_true_eq] at hafter ⊢
    rw [hafter] at hresolved hmalformed
    cases hbefore : d.verdict before t with
    | resolved uid => simp [hbefore, Verdict.isResolved] at hresolved
    | unresolved => rfl
    | malformed => simp [hbefore] at hmalformed

theorem compile_more_documents_elsewhere :
    let d : Document :=
      { id := "d", package := "a",
        entities := [{ uid := "a.D", summary := some "[x](D) [y](E) <link uid=\"?\">z</link>" }] }
    let e : Document :=
      { id := "e", package := "a", entities := [{ uid := "a.D.E" }, { uid := "E" }] }
    ∃ small large,
      compile {} .silent [d] = .ok small ∧ compile {} .silent [e, d] = .ok large ∧
      small.findingsOf "d" = [.unresolved "d" "E", .malformed "d" "?"] ∧
      (large.findingsOf "d").filter (fun f => !f.isUnresolved) = [.malformed "d" "?"] ∧
      (large.findingsOf "d").countP Finding.isUnresolved ≤ 1 := by
  intro d e
  have hfewer : defect? [d] = none := by decide +kernel
  have hmore : defect? [e, d] = none := by decide +kernel
  obtain ⟨small, large, hsmall, hlarge, _, _, hlinks⟩ :=
    compile_more_documents {} .silent hfewer hmore (by simp)
  obtain ⟨_, _, hmalformed, hunresolved⟩ := hlinks d List.mem_cons_self
  have hfindings : small.findingsOf "d" = [.unresolved "d" "E", .malformed "d" "?"] := by
    obtain ⟨_, rfl⟩ := (compile_eq_ok_iff _ _ _ _).1 hsmall
    decide +kernel
  change (small.findingsOf "d").filter _ = (large.findingsOf "d").filter _ at hmalformed
  change (large.findingsOf "d").countP _ ≤ (small.findingsOf "d").countP _ at hunresolved
  rw [hfindings] at hmalformed hunresolved
  exact ⟨small, large, hsmall, hlarge, hfindings, hmalformed.symm, hunresolved⟩

end Crosslink
