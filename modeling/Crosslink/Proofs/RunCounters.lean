import Crosslink.Proofs.MarkdownTags
import Crosslink.Proofs.ReferenceClosure
import Crosslink.Proofs.RunLinks

set_option autoImplicit false

namespace Crosslink

theorem Verdict.countP_add_count_add_count (vs : List Verdict) :
    vs.countP isResolved + vs.count unresolved + vs.count malformed = vs.length := by
  induction vs with
  | nil => rfl
  | cons v vs ih =>
    rw [List.countP_cons, List.count_cons, List.count_cons, List.length_cons, ← ih]
    cases v with
    | resolved uid => simp [isResolved]; omega
    | unresolved => simp [isResolved]; omega
    | malformed => simp [isResolved]; omega

def Index.verdicts (i : Index) (s : Settings) (documents : List Document) : List Verdict :=
  documents.flatMap fun d => (d.links s).map (d.verdict i)

theorem Index.length_verdicts (i : Index) (s : Settings) (documents : List Document) :
    (i.verdicts s documents).length = (documents.flatMap (Document.links s)).length := by
  simp only [verdicts, List.length_flatMap, List.length_map]

namespace Document

def report (i : Index) (d : Document) (t : Tag) : Finding :=
  if d.verdict i t = .malformed then .malformed d.id t.payload else .unresolved d.id t.payload

theorem reports_eq (s : Settings) (i : Index) (d : Document) :
    d.reports s i = d.entities.flatMap fun e => e.texts.flatMap fun text =>
      ((Tag.all s.tagName.toList (s.normalizeText text).toList).filter
        fun t => !(d.verdict i t).isResolved).map (d.report i) := by
  rw [reports, Tag.filterMap_finding?, links, texts, List.flatMap_assoc, List.filter_flatMap,
    List.map_flatMap]
  simp only [List.filter_flatMap, List.map_flatMap]
  rfl

theorem countP_reports {p : Finding → Bool} {v : Verdict}
    (hp : ∀ (t : Tag) (document : String) (w : Verdict),
      ((t.finding? document w).map p).getD false = (w == v))
    (s : Settings) (i : Index) (d : Document) :
    (d.reports s i).countP p = ((d.links s).map (d.verdict i)).count v := by
  rw [reports, List.countP_filterMap, List.count, List.countP_map]
  simp only [hp]
  rfl

def changes (s : Settings) (d q : Document) : Nat :=
  ((d.texts.map s.normalizeText).zip q.texts).countP fun x => x.2 ≠ x.1

/-- The number of references that a run adds to the document: for the types it declares, and for
    the types inside compound references where these are expanded. -/
def added (s : Settings) (d : Document) : Nat :=
  (missingFrom d.knownUids d.declaredTypes).length +
    if s.expandGenerics then d.mentionTypes.missingTypes.length else 0

theorem length_references_complete (s : Settings) (d : Document) :
    (d.complete s).references.length = d.references.length + d.added s := by
  unfold complete expand added
  split
  · simp [expandTypes, mentionTypes]
  · simp [mentionTypes]

theorem texts_run (s : Settings) (classifier : Classifier) (i : Index) (d : Document) :
    (((d.prepare s classifier).rewrite s i).expand s).texts = d.texts.map (d.written s i) := by
  rw [texts, expand_entities, ← texts, rewrite, texts_mapTexts, texts_prepare, prepare_id,
    prepare_package, List.map_map]
  rfl

end Document

theorem Markdown.length_converted (text : String) :
    (converted text).length = symbolLinks text := by
  rw [converted, symbolLinks, List.length_filterMap_eq_countP]
  apply List.countP_congr
  intro p _
  cases p with
  | char c => simp [Piece.isSymbol]
  | link l => cases hsymbol : l.isSymbol <;> simp [Piece.isSymbol, hsymbol]

/-- The counts and the findings of an outcome account for the links, texts and references of the
    documents, the links being judged with the given index. -/
structure Outcome.Accounts (o : Outcome) (s : Settings) (documents : List Document) (i : Index) :
    Prop where
  links : o.statistics.resolved + o.statistics.unresolved + o.statistics.malformed =
    (documents.flatMap (Document.links s)).length
  resolved : o.statistics.resolved = (i.verdicts s documents).countP Verdict.isResolved
  unresolved : o.statistics.unresolved = (i.verdicts s documents).count .unresolved ∧
    o.statistics.unresolved = o.findings.countP Finding.isUnresolved
  malformed : o.statistics.malformed = (i.verdicts s documents).count .malformed ∧
    o.statistics.malformed = o.findings.countP fun f => !f.isUnresolved
  findings : o.findings = documents.flatMap fun d => d.entities.flatMap fun e =>
    e.texts.flatMap fun text => ((Tag.all s.tagName.toList (s.normalizeText text).toList).filter
      fun t => !(d.verdict i t).isResolved).map (d.report i)
  texts : List.Forall₂ (fun d q => q.texts.length = d.texts.length) documents o.documents
  textsChanged : o.statistics.textsChanged =
    total (List.zipWith (Document.changes s) documents o.documents)
  markdownLinks : o.statistics.markdownLinks = if s.normalizeMarkdownLinks then
    ((documents.flatMap Document.texts).flatMap Markdown.converted).length else 0
  references : List.Forall₂ (fun d q => q.references.length = d.references.length + d.added s)
    documents o.documents
  referencesAdded : o.statistics.referencesAdded = total (documents.map (Document.added s))
  growth : referenceCount o.documents = referenceCount documents + o.statistics.referencesAdded

section

variable (s : Settings) (classifier : Classifier) (documents : List Document)

theorem resolved_compileValid_eq_countP :
    (compileValid s classifier documents).statistics.resolved =
      ((Index.ofDocuments (documents.map Document.mentionTypes)).verdicts s documents).countP
        Verdict.isResolved := by
  rw [resolved_compileValid, Index.verdicts, ← total_map_countP]
  simp only [List.countP_map]
  rfl

theorem countP_findings_compileValid {p : Finding → Bool} {v : Verdict}
    (hp : ∀ (t : Tag) (document : String) (w : Verdict),
      ((t.finding? document w).map p).getD false = (w == v)) :
    (compileValid s classifier documents).findings.countP p =
      ((Index.ofDocuments (documents.map Document.mentionTypes)).verdicts s documents).count v := by
  rw [findings_compileValid, Index.verdicts, List.count, ← total_map_countP, ← total_map_countP]
  simp only [Document.countP_reports hp]
  rfl

theorem textsChanged_compileValid :
    (compileValid s classifier documents).statistics.textsChanged =
      total (List.zipWith (Document.changes s) documents
        (compileValid s classifier documents).documents) := by
  rw [documents_compileValid, List.zipWith_map_right, List.zipWith_self]
  simp only [compileValid, Index.ofDocuments_prepare, List.map_map]
  congr 1
  apply List.map_congr_left
  intro d _
  simp only [Function.comp_apply, Document.changes, Document.texts_run, Document.textsChanged,
    Document.texts_prepare, Document.prepare_id, Document.prepare_package, List.zip_map',
    List.countP_map]
  rfl

theorem markdownLinks_compileValid :
    (compileValid s classifier documents).statistics.markdownLinks =
      if s.normalizeMarkdownLinks then
        ((documents.flatMap Document.texts).flatMap Markdown.converted).length else 0 := by
  change total (documents.map (Document.markdownLinks s)) = _
  split
  · rename_i hnormalize
    rw [List.length_flatMap, List.map_flatMap]
    change _ = total _
    rw [total_flatMap]
    congr 1
    apply List.map_congr_left
    intro d _
    simp only [Document.markdownLinks, if_pos hnormalize, Markdown.length_converted]
  · rename_i hnormalize
    rw [total_map_eq_zero_iff]
    intro d _
    rw [Document.markdownLinks, if_neg hnormalize]

theorem references_compileValid :
    List.Forall₂ (fun d q => q.references.length = d.references.length + d.added s) documents
      (compileValid s classifier documents).documents := by
  rw [documents_compileValid]
  apply forall₂_map_self
  intro d
  rw [Document.run_eq]
  exact d.length_references_complete s

theorem referenceCount_eq_of_forall₂ {f : Document → Nat} {documents compiled : List Document}
    (h : List.Forall₂ (fun d q => q.references.length = d.references.length + f d) documents
      compiled) :
    referenceCount compiled = referenceCount documents + total (documents.map f) := by
  induction h with
  | nil => rfl
  | @cons d q documents compiled hd _ ih =>
    change q.references.length + referenceCount compiled = d.references.length +
      referenceCount documents + (f d + total (documents.map f))
    omega

theorem referencesAdded_compileValid :
    (compileValid s classifier documents).statistics.referencesAdded =
      total (documents.map (Document.added s)) := by
  have hcount := referenceCount_eq_of_forall₂ (references_compileValid s classifier documents)
  change referenceCount (compileValid s classifier documents).documents -
    referenceCount documents = _
  omega

end

/-- A successful run counts every link once and reports the ones it did not resolve, counts the
    links it wrote as tags and the texts it changed, and the references it added. -/
theorem compile_accounts_for_links {s : Settings} {classifier : Classifier}
    {documents : List Document} {outcome : Outcome}
    (h : compile s classifier documents = .ok outcome) :
    outcome.Accounts s documents (Index.ofDocuments (documents.map Document.mentionTypes)) := by
  obtain ⟨_, rfl⟩ := (compile_eq_ok_iff _ _ _ _).1 h
  have hresolved := resolved_compileValid_eq_countP s classifier documents
  have hunresolved := countP_findings_compileValid s classifier documents
    (p := Finding.isUnresolved) (v := .unresolved) fun _ _ w => by cases w <;> rfl
  have hmalformed := countP_findings_compileValid s classifier documents
    (p := fun f => !f.isUnresolved) (v := .malformed) fun _ _ w => by cases w <;> rfl
  have hreferences := references_compileValid s classifier documents
  have hadded := referencesAdded_compileValid s classifier documents
  refine
    { links := ?_
      resolved := hresolved
      unresolved := ⟨hunresolved, rfl⟩
      malformed := ⟨hmalformed, rfl⟩
      findings := ?_
      texts := ?_
      textsChanged := textsChanged_compileValid s classifier documents
      markdownLinks := markdownLinks_compileValid s classifier documents
      references := hreferences
      referencesAdded := hadded
      growth := ?_ }
  · rw [← Index.length_verdicts, ← Verdict.countP_add_count_add_count, ← hresolved, ← hunresolved,
      ← hmalformed]
    rfl
  · rw [findings_compileValid]
    congr 1
    funext d
    exact d.reports_eq s _
  · rw [documents_compileValid]
    apply forall₂_map_self
    intro d
    rw [Document.texts_run, List.length_map]
  · rw [hadded]
    exact referenceCount_eq_of_forall₂ hreferences

theorem compile_accounts_for_links_of_two_documents :
    let parameter : Parameter :=
      { id := "p", type := some "b.List<b.Item>"
        description := some "<link uid=\"#\">y</link> <link uid=\" Nope \">z</link>" }
    let declaration : Declaration :=
      { parameters := [parameter], returns := some { description := some "plain" } }
    let foo : Entity :=
      { uid := "a.Foo", nameWithType := "Foo", declaration := some declaration
        summary := some "[x](Foo) <link uid=\"Gone\">w</link>" }
    let bar : Entity :=
      { uid := "b.Bar", summary := some "<link uid=\"a.Foo\">v</link> <link uid=\"\">u</link>" }
    let documents : List Document :=
      [{ id := "d", entities := [foo] }, { id := "q", entities := [bar] }]
    ∃ outcome, compile {} .silent documents = .ok outcome ∧
      (outcome.findings = [.unresolved "d" "Gone", .malformed "d" "#", .unresolved "d" "Nope",
          .unresolved "q" ""] ∧
        outcome.statistics =
          { documents := 2, markdownLinks := 1, resolved := 2, unresolved := 3, malformed := 1
            referencesAdded := 3, textsChanged := 3 }) ∧
      outcome.Accounts {} documents (Index.ofDocuments (documents.map Document.mentionTypes)) := by
  intro parameter declaration foo bar documents
  have hok : compile {} .silent documents = .ok (compileValid {} .silent documents) :=
    (compile_eq_ok_iff _ _ _ _).2 ⟨by decide +kernel, rfl⟩
  exact ⟨_, hok, by decide +kernel, compile_accounts_for_links hok⟩

end Crosslink
