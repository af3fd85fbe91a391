import Crosslink.Compound
import Crosslink.Proofs.Blanks
import Mathlib.Data.List.Basic

set_option autoImplicit false

namespace Crosslink

namespace Text

theorem mem_splitOn_of_mem {c : Char} {cs : List Char} (h : c ∈ cs) (sep : Char) (hc : c ≠ sep) :
    ∃ piece ∈ splitOn sep cs, c ∈ piece := by
  induction cs with
  | nil => cases h
  | cons d cs ih =>
    rw [splitOn]
    rcases List.mem_cons.1 h with rfl | h
    · split
      · exact ⟨[c], List.mem_cons_self, List.mem_cons_self⟩
      · rw [if_neg hc]
        exact ⟨_, List.mem_cons_self, List.mem_cons_self⟩
    · obtain ⟨piece, hpiece, hmem⟩ := ih h
      split
      · rename_i hnil
        rw [hnil] at hpiece
        cases hpiece
      · rename_i first more hsplit
        rw [hsplit] at hpiece
        split
        · exact ⟨piece, List.mem_cons_of_mem _ hpiece, hmem⟩
        · rcases List.mem_cons.1 hpiece with rfl | hpiece
          · exact ⟨_, List.mem_cons_self, List.mem_cons_of_mem _ hmem⟩
          · exact ⟨piece, List.mem_cons_of_mem _ hpiece, hmem⟩

end Text

namespace Name

theorem not_mem_of_isDotted {cs : List Char} (h : isDotted cs = true) {c : Char} (hdot : c ≠ '.')
    (hc : isPart c = false) : c ∉ cs := by
  intro hmem
  obtain ⟨piece, hpiece, hmem⟩ := Text.mem_splitOn_of_mem hmem '.' hdot
  rw [isPart_of_isIdentifier (List.all_eq_true.1 h piece hpiece) hmem] at hc
  cases hc

theorem isStart_of_isDotted {c : Char} {cs : List Char} (h : isDotted (c :: cs) = true) :
    isStart c = true := by
  rw [isDotted, Text.splitOn] at h
  split at h
  · simpa [isIdentifier] using h
  · split at h
    · simp [isIdentifier] at h
    · simp only [List.all_cons, isIdentifier, Bool.and_eq_true] at h
      exact h.1.1

end Name

namespace TypeToken

theorem isDotted_of_mem_ofWord {cs name : List Char} (h : .name name ∈ ofWord cs) :
    Name.isDotted name = true ∧ name ≠ [] := by
  cases cs with
  | nil => cases h
  | cons c cs =>
    rw [ofWord] at h
    split at h
    · rename_i hdotted
      simp only [List.mem_singleton, TypeToken.name.injEq] at h
      subst h
      exact ⟨hdotted, List.cons_ne_nil c cs⟩
    · simp at h

theorem not_mem_takeBound (bound segment name : List Char) :
    .name name ∉ (takeBound bound segment).1 := by
  unfold takeBound
  split <;> simp

theorem isDotted_of_mem_ofSegment {cs name : List Char} (h : .name name ∈ ofSegment cs) :
    Name.isDotted name = true ∧ name ≠ [] := by
  simp only [ofSegment, List.mem_append, not_mem_takeBound, false_or] at h
  split at h
  · rcases List.mem_append.1 h with h | h
    · exact isDotted_of_mem_ofWord h
    · simp at h
  · exact isDotted_of_mem_ofWord h

theorem isDotted_of_mem_ofText {cs name : List Char} (h : .name name ∈ ofText cs) :
    Name.isDotted name = true ∧ name ≠ [] := by
  rcases List.mem_append.1 h with h | h
  · exact isDotted_of_mem_ofSegment h
  · obtain ⟨⟨separator, segment⟩, _, h⟩ := List.mem_flatMap.1 h
    rcases List.mem_cons.1 h with h | h
    · cases h
    · exact isDotted_of_mem_ofSegment h

end TypeToken

theorem isDotted_of_mem_namedTypes {uid name : String} (h : name ∈ namedTypes uid) :
    Name.isDotted name.toList = true ∧ name.toList ≠ [] := by
  obtain ⟨token, htoken, hname⟩ := List.mem_filterMap.1 h
  cases token with
  | mark text => cases hname
  | name text =>
    simp only [TypeToken.name?, Option.map_some, Option.some.injEq] at hname
    subst hname
    rw [String.toList_ofList]
    exact TypeToken.isDotted_of_mem_ofText htoken

theorem isCompoundType_of_mem_namedTypes {uid name : String} (h : name ∈ namedTypes uid) :
    isCompoundType name = false := by
  have hangle := Name.not_mem_of_isDotted (isDotted_of_mem_namedTypes h).1 (c := '<') (by decide)
    (by decide +kernel)
  simp [isCompoundType, hangle]

theorem isBlankText_of_mem_namedTypes {uid name : String} (h : name ∈ namedTypes uid) :
    Text.isBlankText name = false := by
  obtain ⟨hdotted, hne⟩ := isDotted_of_mem_namedTypes h
  obtain ⟨c, cs, hcs⟩ := List.exists_cons_of_ne_nil hne
  rw [hcs] at hdotted
  have hblank := Name.isBlank_of_isPart (Name.isPart_of_isStart (Name.isStart_of_isDotted hdotted))
  simp [Text.isBlankText, hcs, hblank]

theorem missingFrom_eq_nil {known uids : List String} (h : ∀ uid ∈ uids, uid ∈ known) :
    missingFrom known uids = [] := by
  induction uids with
  | nil => rfl
  | cons uid uids ih =>
    rw [missingFrom, if_pos (h uid List.mem_cons_self)]
    exact ih fun other hother => h other (List.mem_cons_of_mem uid hother)

theorem mem_of_mem_missingFrom {known uids : List String} {uid : String}
    (h : uid ∈ missingFrom known uids) : uid ∈ uids := by
  induction uids generalizing known with
  | nil => cases h
  | cons first uids ih =>
    rw [missingFrom] at h
    split at h
    · exact List.mem_cons_of_mem first (ih h)
    · rcases List.mem_cons.1 h with rfl | h
      · exact List.mem_cons_self
      · exact List.mem_cons_of_mem first (ih h)

theorem not_mem_of_mem_missingFrom {known uids : List String} {uid : String}
    (h : uid ∈ missingFrom known uids) : uid ∉ known := by
  induction uids generalizing known with
  | nil => cases h
  | cons first uids ih =>
    rw [missingFrom] at h
    split at h
    · exact ih h
    · rename_i hfirst
      rcases List.mem_cons.1 h with rfl | h
      · exact hfirst
      · exact fun hknown => ih h (List.mem_cons_of_mem first hknown)

theorem nodup_missingFrom (known uids : List String) : (missingFrom known uids).Nodup := by
  induction uids generalizing known with
  | nil => exact List.nodup_nil
  | cons first uids ih =>
    rw [missingFrom]
    split
    · exact ih known
    · have hnew : first ∉ missingFrom (first :: known) uids :=
        fun h => not_mem_of_mem_missingFrom h List.mem_cons_self
      exact List.nodup_cons.2 ⟨hnew, ih (first :: known)⟩

theorem mem_or_mem_missingFrom {known uids : List String} {uid : String} (h : uid ∈ uids) :
    uid ∈ known ∨ uid ∈ missingFrom known uids := by
  induction uids generalizing known with
  | nil => cases h
  | cons first uids ih =>
    rw [missingFrom]
    split
    · rename_i hfirst
      rcases List.mem_cons.1 h with rfl | h
      · exact .inl hfirst
      · exact ih h
    · rcases List.mem_cons.1 h with rfl | h
      · exact .inr List.mem_cons_self
      · have hmore : uid ∈ first :: known ∨ uid ∈ missingFrom (first :: known) uids := ih h
        rcases hmore with hknown | hmissing
        · rcases List.mem_cons.1 hknown with rfl | hknown
          · exact .inr List.mem_cons_self
          · exact .inl hknown
        · exact .inr (List.mem_cons_of_mem first hmissing)

theorem mem_missingFrom_iff {known uids : List String} {uid : String} :
    uid ∈ missingFrom known uids ↔ uid ∈ uids ∧ uid ∉ known := by
  constructor
  · intro h
    exact ⟨mem_of_mem_missingFrom h, not_mem_of_mem_missingFrom h⟩
  · rintro ⟨huid, hknown⟩
    exact (mem_or_mem_missingFrom huid).resolve_left hknown

theorem pairwise_idxOf_missingFrom (known uids : List String) :
    (missingFrom known uids).Pairwise fun uid other => uids.idxOf uid < uids.idxOf other := by
  induction uids generalizing known with
  | nil => exact .nil
  | cons first uids ih =>
    -- What is missing behind a known identifier is another one, one place further back.
    have hbehind (known' : List String) (hfirst : first ∈ known') :
        (missingFrom known' uids).Pairwise fun uid other =>
          (first :: uids).idxOf uid < (first :: uids).idxOf other := by
      have hne {uid : String} (h : uid ∈ missingFrom known' uids) : first ≠ uid := by
        rintro rfl
        exact not_mem_of_mem_missingFrom h hfirst
      refine (ih known').imp_of_mem ?_
      intro uid other huid hother hlt
      rw [List.idxOf_cons_ne _ (hne huid), List.idxOf_cons_ne _ (hne hother)]
      omega
    rw [missingFrom]
    split
    · rename_i hfirst
      exact hbehind known hfirst
    · refine List.pairwise_cons.2 ⟨?_, hbehind _ List.mem_cons_self⟩
      intro uid huid
      have hne : first ≠ uid := by
        rintro rfl
        exact not_mem_of_mem_missingFrom huid List.mem_cons_self
      rw [List.idxOf_cons_self, List.idxOf_cons_ne _ hne]
      omega

namespace Reference

theorem toType_uid (uid : String) : (toType uid).uid = uid := by
  unfold toType
  split <;> rfl

theorem withParts_uid (r : Reference) : r.withParts.uid = r.uid := by
  unfold withParts
  split <;> rfl

theorem withParts_withParts (r : Reference) : r.withParts.withParts = r.withParts := by
  unfold withParts
  split
  · simp [*]
  · simp [*]

theorem withParts_toPlain {uid : String} (h : isCompoundType uid = false) :
    (toPlain uid).withParts = toPlain uid := by
  unfold withParts
  rw [if_neg (by simp [toPlain, h])]

theorem namedTypes_congr {r q : Reference} (h : r.uid = q.uid) : r.namedTypes = q.namedTypes := by
  rw [namedTypes, h, namedTypes]

theorem namedTypes_toPlain {uid : String} (h : isCompoundType uid = false) :
    (toPlain uid).namedTypes = [] := by
  unfold namedTypes
  rw [if_neg (by simp [toPlain, h])]

theorem mem_namedTypes {r : Reference} {name : String} (h : name ∈ r.namedTypes) :
    name ∈ Crosslink.namedTypes r.uid := by
  unfold namedTypes at h
  split at h
  · exact h
  · cases h

end Reference

namespace Document

theorem isBlankText_of_mem_declaredTypes {d : Document} {uid : String}
    (h : uid ∈ d.declaredTypes) : Text.isBlankText uid = false := by
  have hdot : '.' ∈ uid.toList := by
    simpa using (List.mem_filter.1 h).2
  unfold Text.isBlankText
  rw [List.all_eq_false]
  exact ⟨'.', hdot, by decide⟩

theorem exists_of_mem_missingTypes {d : Document} {uid : String} (h : uid ∈ d.missingTypes) :
    ∃ r ∈ d.references, uid ∈ Crosslink.namedTypes r.uid := by
  obtain ⟨r, hr, hname⟩ := List.mem_flatMap.1 (mem_of_mem_missingFrom h)
  exact ⟨r, hr, Reference.mem_namedTypes hname⟩

theorem knownUids_mentionTypes (d : Document) :
    d.mentionTypes.knownUids = d.knownUids ++ missingFrom d.knownUids d.declaredTypes := by
  simp [knownUids, mentionTypes, Function.comp_def, Reference.toType_uid]

theorem knownUids_expandTypes (d : Document) :
    d.expandTypes.knownUids = d.knownUids ++ d.missingTypes := by
  simp [knownUids, expandTypes, Function.comp_def, Reference.withParts_uid, Reference.toPlain]

theorem mentionTypes_eq_self {d : Document} (h : ∀ uid ∈ d.declaredTypes, uid ∈ d.knownUids) :
    d.mentionTypes = d := by
  rw [mentionTypes, missingFrom_eq_nil h]
  simp

theorem mem_knownUids_mentionTypes {d : Document} {uid : String} (h : uid ∈ d.declaredTypes) :
    uid ∈ d.mentionTypes.knownUids := by
  rw [knownUids_mentionTypes]
  exact List.mem_append.2 (mem_or_mem_missingFrom h)

theorem mentionTypes_mentionTypes (d : Document) :
    d.mentionTypes.mentionTypes = d.mentionTypes := by
  apply mentionTypes_eq_self
  intro uid h
  exact mem_knownUids_mentionTypes (d := d) h

theorem mentionTypes_expandTypes (d : Document) :
    d.mentionTypes.expandTypes.mentionTypes = d.mentionTypes.expandTypes := by
  apply mentionTypes_eq_self
  intro uid h
  rw [knownUids_expandTypes]
  exact List.mem_append_left _ (mem_knownUids_mentionTypes (d := d) h)

theorem missingTypes_expandTypes (d : Document) : d.expandTypes.missingTypes = [] := by
  apply missingFrom_eq_nil
  intro uid h
  obtain ⟨q, hq, hname⟩ := List.mem_flatMap.1 h
  rw [knownUids_expandTypes]
  apply List.mem_append.2
  rcases List.mem_append.1 hq with hq | hq
  · obtain ⟨r, hr, rfl⟩ := List.mem_map.1 hq
    rw [Reference.namedTypes_congr r.withParts_uid] at hname
    exact mem_or_mem_missingFrom (List.mem_flatMap.2 ⟨r, hr, hname⟩)
  · obtain ⟨missing, hmissing, rfl⟩ := List.mem_map.1 hq
    obtain ⟨r, _, hnamed⟩ := exists_of_mem_missingTypes hmissing
    rw [Reference.namedTypes_toPlain (isCompoundType_of_mem_namedTypes hnamed)] at hname
    cases hname

/-- The types named by an expanded document are known to it, so expanding it again adds nothing. -/
theorem expandTypes_expandTypes (d : Document) : d.expandTypes.expandTypes = d.expandTypes := by
  have hplain : (d.missingTypes.map Reference.toPlain).map Reference.withParts =
      d.missingTypes.map Reference.toPlain := by
    rw [List.map_map]
    apply List.map_congr_left
    intro uid h
    obtain ⟨r, _, hnamed⟩ := exists_of_mem_missingTypes h
    exact Reference.withParts_toPlain (isCompoundType_of_mem_namedTypes hnamed)
  have hparts : (d.references.map Reference.withParts).map Reference.withParts =
      d.references.map Reference.withParts := by
    rw [List.map_map]
    apply List.map_congr_left
    intro r _
    exact r.withParts_withParts
  rw [expandTypes, missingTypes_expandTypes]
  simp only [expandTypes, List.map_append, hplain, hparts, List.map_nil, List.append_nil]

end Document

end Crosslink
