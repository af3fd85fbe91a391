import Crosslink.Proofs.CompileAgain
import Crosslink.Proofs.OtherDocuments

set_option autoImplicit false

namespace Crosslink

structure Reference.Expanded (r q : Reference) : Prop where
  uid : q.uid = r.uid
  name : q.name = r.name
  nameWithType : q.nameWithType = r.nameWithType
  fullName : q.fullName = r.fullName
  parts : q.parts = if isCompoundType r.uid then typeParts r.uid else r.parts

theorem Reference.expanded_withParts (r : Reference) : r.Expanded r.withParts := by
  unfold withParts
  split
  · rename_i hcompound
    exact ⟨rfl, rfl, rfl, rfl, by rw [if_pos hcompound]⟩
  · rename_i hplain
    exact ⟨rfl, rfl, rfl, rfl, by rw [if_neg hplain]⟩

namespace Document

/-- The identifiers that a document names: the declared types with a dot, and the types inside its
    compound references. -/
inductive Names (d : Document) : String → Prop where
  | declared {e : Entity} {type : String} (he : e ∈ d.entities) (htype : type ∈ e.types)
      (hdot : '.' ∈ (Text.trim type).toList) : Names d (Text.trim type)
  | inside {r : Reference} {uid : String} (hr : r ∈ d.references)
      (hcompound : isCompoundType r.uid = true) (huid : uid ∈ namedTypes r.uid) : Names d uid

theorem mem_declaredTypes_iff (d : Document) (uid : String) :
    uid ∈ d.declaredTypes ↔
      ∃ e ∈ d.entities, ∃ type ∈ e.types, '.' ∈ uid.toList ∧ Text.trim type = uid := by
  rw [declaredTypes_eq, List.mem_filter, List.mem_map]
  simp only [List.mem_flatMap, List.contains_iff_mem]
  constructor
  · rintro ⟨⟨type, ⟨e, he, htype⟩, htrim⟩, hdot⟩
    exact ⟨e, he, type, htype, hdot, htrim⟩
  · rintro ⟨e, he, type, htype, hdot, htrim⟩
    exact ⟨⟨type, ⟨e, he, htype⟩, htrim⟩, hdot⟩

theorem names_iff (d : Document) (uid : String) :
    d.Names uid ↔ uid ∈ d.declaredTypes ∨ ∃ r ∈ d.references, uid ∈ r.namedTypes := by
  constructor
  · rintro (⟨he, htype, hdot⟩ | ⟨hr, hcompound, huid⟩)
    · exact .inl ((mem_declaredTypes_iff d _).2 ⟨_, he, _, htype, hdot, rfl⟩)
    · refine .inr ⟨_, hr, ?_⟩
      rwa [Reference.namedTypes, if_pos hcompound]
  · rintro (hdeclared | ⟨r, hr, huid⟩)
    · obtain ⟨e, he, type, htype, hdot, rfl⟩ := (mem_declaredTypes_iff d uid).1 hdeclared
      exact .declared he htype hdot
    · unfold Reference.namedTypes at huid
      split at huid
      · rename_i hcompound
        exact .inside hr hcompound huid
      · cases huid

/-- The second document has the references of the first, expanded, and behind them those it gained:
    one for each identifier that it names and that the first did not know. -/
structure Gained (d q : Document) (given added : List Reference) : Prop where
  references : q.references = given ++ added
  given : List.Forall₂ Reference.Expanded d.references given
  distinct : (added.map Reference.uid).Nodup
  fresh : ∀ r ∈ added, r.uid ∉ d.knownUids
  named : ∀ r ∈ added, q.Names r.uid
  known : ∀ uid, q.Names uid → uid ∈ q.knownUids

/-- The references of the two steps of a run: for declared types, then for types inside others. -/
def gains (d : Document) : List Reference :=
  ((missingFrom d.knownUids d.declaredTypes).map Reference.toType).map Reference.withParts ++
    d.mentionTypes.missingTypes.map Reference.toPlain

theorem map_uid_gains (d : Document) :
    d.gains.map Reference.uid =
      missingFrom d.knownUids d.declaredTypes ++ d.mentionTypes.missingTypes := by
  simp [gains, Function.comp_def, Reference.withParts_uid, Reference.toType_uid, Reference.toPlain]

theorem references_expandTypes_mentionTypes (d : Document) :
    d.mentionTypes.expandTypes.references = d.references.map Reference.withParts ++ d.gains := by
  simp only [gains, expandTypes, mentionTypes, List.map_append, List.append_assoc]

theorem nodup_uid_gains (d : Document) : (d.gains.map Reference.uid).Nodup := by
  rw [map_uid_gains, List.nodup_append]
  refine ⟨nodup_missingFrom _ _, nodup_missingFrom _ _, ?_⟩
  -- The second step knows what the first one added.
  rintro uid hfirst _ hsecond rfl
  apply not_mem_of_mem_missingFrom hsecond
  rw [knownUids_mentionTypes]
  exact List.mem_append_right _ hfirst

theorem not_mem_knownUids_of_mem_gains {d : Document} {r : Reference} (h : r ∈ d.gains) :
    r.uid ∉ d.knownUids := by
  have huid : r.uid ∈ d.gains.map Reference.uid := List.mem_map_of_mem h
  rw [map_uid_gains] at huid
  rcases List.mem_append.1 huid with hfirst | hsecond
  · exact not_mem_of_mem_missingFrom hfirst
  · intro hknown
    apply not_mem_of_mem_missingFrom hsecond
    rw [knownUids_mentionTypes]
    exact List.mem_append_left _ hknown

theorem names_of_mem_gains {d : Document} {r : Reference} (h : r ∈ d.gains) :
    d.mentionTypes.expandTypes.Names r.uid := by
  have huid : r.uid ∈ d.gains.map Reference.uid := List.mem_map_of_mem h
  rw [map_uid_gains] at huid
  rw [names_iff]
  rcases List.mem_append.1 huid with hfirst | hsecond
  · exact .inl (mem_of_mem_missingFrom hfirst)
  · obtain ⟨q, hq, hname⟩ := List.mem_flatMap.1 (mem_of_mem_missingFrom hsecond)
    refine .inr ⟨q.withParts, List.mem_append_left _ (List.mem_map_of_mem hq), ?_⟩
    rwa [Reference.namedTypes_congr q.withParts_uid]

theorem mem_knownUids_of_names {d : Document} {uid : String}
    (h : d.mentionTypes.expandTypes.Names uid) : uid ∈ d.mentionTypes.expandTypes.knownUids := by
  rcases (names_iff _ uid).1 h with hdeclared | ⟨r, hr, hname⟩
  · rw [knownUids_expandTypes]
    exact List.mem_append_left _ (mem_knownUids_mentionTypes (d := d) hdeclared)
  · have hcases : uid ∈ d.mentionTypes.expandTypes.knownUids ∨
        uid ∈ d.mentionTypes.expandTypes.missingTypes :=
      mem_or_mem_missingFrom (List.mem_flatMap.2 ⟨r, hr, hname⟩)
    rcases hcases with hknown | hmissing
    · exact hknown
    · rw [missingTypes_expandTypes] at hmissing
      cases hmissing

theorem gained_expandTypes (d : Document) :
    d.Gained d.mentionTypes.expandTypes (d.references.map Reference.withParts) d.gains where
  references := references_expandTypes_mentionTypes d
  given := forall₂_map_self Reference.expanded_withParts d.references
  distinct := nodup_uid_gains d
  fresh _ := not_mem_knownUids_of_mem_gains
  named _ := names_of_mem_gains
  known _ := mem_knownUids_of_names

/-- The second document is the first with its references expanded, and behind them a plain one for
    each identifier of `added`: those inside its compound references that it did not know, in the
    order in which they first occur there. -/
structure Expands (d q : Document) (added : List String) : Prop where
  id : q.id = d.id
  package : q.package = d.package
  entities : q.entities = d.entities
  references : ∃ given, List.Forall₂ Reference.Expanded d.references given ∧
    q.references = given ++ added.map Reference.toPlain
  mem_iff : ∀ uid, uid ∈ added ↔ uid ∉ d.knownUids ∧
    ∃ r ∈ d.references, isCompoundType r.uid = true ∧ uid ∈ namedTypes r.uid
  ordered : added.Pairwise fun uid other =>
    (d.references.flatMap Reference.namedTypes).idxOf uid <
      (d.references.flatMap Reference.namedTypes).idxOf other

theorem mem_missingTypes_iff (d : Document) (uid : String) :
    uid ∈ d.missingTypes ↔ uid ∉ d.knownUids ∧
      ∃ r ∈ d.references, isCompoundType r.uid = true ∧ uid ∈ namedTypes r.uid := by
  have hnamed (r : Reference) :
      uid ∈ r.namedTypes ↔ isCompoundType r.uid = true ∧ uid ∈ namedTypes r.uid := by
    unfold Reference.namedTypes
    split <;> simp [*]
  rw [missingTypes, mem_missingFrom_iff, List.mem_flatMap, and_comm]
  simp only [hnamed]

theorem expands_expandTypes (d : Document) : d.Expands d.expandTypes d.missingTypes where
  id := rfl
  package := rfl
  entities := rfl
  references := ⟨_, forall₂_map_self Reference.expanded_withParts d.references, rfl⟩
  mem_iff := mem_missingTypes_iff d
  ordered := pairwise_idxOf_missingFrom _ _

/-- Expanding the references of a document, valid or not, adds the missing identifiers once each
    and counts them; the number of references tells so, and doing it again adds and changes
    nothing. -/
theorem expandTypes_adds_missing_once (d : Document) :
    d.Expands d.expandTypes d.missingTypes ∧ d.missingTypes.Nodup ∧
      d.expandTypes.references.length = d.references.length + d.missingTypes.length ∧
      d.expandTypes.missingTypes.length = 0 ∧ d.expandTypes.expandTypes = d.expandTypes := by
  refine ⟨d.expands_expandTypes, nodup_missingFrom _ _, ?_, ?_, d.expandTypes_expandTypes⟩
  · simp [expandTypes]
  · rw [missingTypes_expandTypes, List.length_nil]

theorem Gained.congr {d q p : Document} {given added : List Reference}
    (h : d.Gained q given added) (hreferences : p.references = q.references)
    (htypes : p.declaredTypes = q.declaredTypes) (hknown : p.knownUids = q.knownUids) :
    d.Gained p given added := by
  have hnames (uid : String) : p.Names uid ↔ q.Names uid := by
    rw [names_iff, names_iff, htypes, hreferences]
  exact ⟨hreferences.trans h.references, h.given, h.distinct, h.fresh,
    fun r hr => (hnames r.uid).2 (h.named r hr),
    fun uid huid => hknown ▸ h.known uid ((hnames uid).1 huid)⟩

end Document

/-- A run that expands compound types keeps the given references in place and adds one for each
    identifier that a document names and did not know, so that it knows all of them after the
    run. -/
theorem compile_closes_references (s : Settings) (hexpand : s.expandGenerics = true)
    (classifier : Classifier) {documents : List Document} (hdefect : defect? documents = none) :
    ∃ outcome, compile s classifier documents = .ok outcome ∧
      List.Forall₂ (fun d q => ∃ given added, d.Gained q given added)
        documents outcome.documents := by
  refine ⟨_, (compile_eq_ok_iff _ _ _ _).2 ⟨hdefect, rfl⟩, ?_⟩
  rw [documents_compileValid]
  apply forall₂_map_self
  intro d
  have hcomplete : d.complete s = d.mentionTypes.expandTypes := by
    rw [Document.complete, Document.expand, if_pos hexpand]
  rw [Document.run_eq, hcomplete]
  -- Statuses and texts are all that the rest of the run changes.
  refine ⟨_, _, d.gained_expandTypes.congr rfl ?_ ?_⟩
  · rw [Document.declaredTypes_mapTexts, Document.declaredTypes_classify]
  · rw [Document.knownUids_mapTexts, Document.knownUids_classify]

theorem compile_closes_references_of_method :
    let parameter : Parameter := { id := "p", type := some " java.util.List<a.D, ? extends b.E> " }
    let declaration : Declaration :=
      { parameters := [parameter], returns := some { type := some "int" }
        exceptions := [{ type := "b.E" }] }
    let stale : Reference := { uid := "b.Map<b.K>", parts := [{ name := "?", fullName := "?" }] }
    let d : Document :=
      { id := "d", entities := [{ uid := "a.D", declaration := some declaration }]
        references := [stale, { uid := "b.Set<b.K>.of*" }] }
    ∃ outcome, compile {} .silent [d] = .ok outcome ∧
      outcome.documents.map (fun q => q.references.map Reference.uid) =
        [["b.Map<b.K>", "b.Set<b.K>.of*", "java.util.List<a.D, ? extends b.E>", "b.E", "b.Map",
          "b.K", "java.util.List"]] ∧
      List.Forall₂ (fun d q => ∃ given added, d.Gained q given added) [d] outcome.documents := by
  intro parameter declaration stale d
  obtain ⟨outcome, hok, hclosed⟩ :=
    compile_closes_references {} rfl .silent (show defect? [d] = none by decide +kernel)
  refine ⟨outcome, hok, ?_, hclosed⟩
  obtain ⟨_, rfl⟩ := (compile_eq_ok_iff _ _ _ _).1 hok
  decide +kernel

end Crosslink
