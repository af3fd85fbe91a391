import Crosslink.Proofs.CompileFrame
import Crosslink.Proofs.DocumentScope

set_option autoImplicit false

namespace Crosslink

namespace Document

def links (s : Settings) (d : Document) : List Tag :=
  d.texts.flatMap fun text => Tag.all s.tagName.toList (s.normalizeText text).toList

def verdict (i : Index) (d : Document) (t : Tag) : Verdict :=
  (i.scope d.id).judge d.package.toList t.uid

def reports (s : Settings) (i : Index) (d : Document) : List Finding :=
  (d.links s).filterMap fun t => t.finding? d.id (d.verdict i t)

theorem texts_prepare (s : Settings) (classifier : Classifier) (d : Document) :
    (d.prepare s classifier).texts = d.texts.map s.normalizeText := by
  have hclassify : (d.mentionTypes.classify classifier).texts = d.texts := by
    simp only [texts, classify, mentionTypes, List.flatMap_map]
    rfl
  rw [prepare_eq, texts_mapTexts, hclassify]

theorem prepare_id (s : Settings) (classifier : Classifier) (d : Document) :
    (d.prepare s classifier).id = d.id := by
  rw [prepare_eq]
  rfl

theorem prepare_package (s : Settings) (classifier : Classifier) (d : Document) :
    (d.prepare s classifier).package = d.package := by
  rw [prepare_eq]
  rfl

theorem rewrites_prepare (s : Settings) (classifier : Classifier) (i : Index) (d : Document) :
    (d.prepare s classifier).rewrites s i =
      d.texts.map fun text => (i.scope d.id).rewrite s d.package (s.normalizeText text) := by
  rw [rewrites, texts_prepare, prepare_id, prepare_package, List.map_map]
  rfl

theorem flatMap_findings_rewrites (s : Settings) (classifier : Classifier) (i : Index)
    (d : Document) :
    ((d.prepare s classifier).rewrites s i).flatMap Rewrite.findings = d.reports s i := by
  rw [rewrites_prepare, List.flatMap_map, reports, links, List.filterMap_flatMap]
  rfl

theorem document_of_mem_reports {s : Settings} {i : Index} {d : Document} {f : Finding}
    (h : f ∈ d.reports s i) : f.document = d.id := by
  obtain ⟨t, _, ht⟩ := List.mem_filterMap.1 h
  cases hverdict : d.verdict i t with
  | resolved uid => simp [hverdict, Tag.finding?] at ht
  | unresolved =>
    simp only [hverdict, Tag.finding?, Option.some.injEq] at ht
    rw [← ht]
    rfl
  | malformed =>
    simp only [hverdict, Tag.finding?, Option.some.injEq] at ht
    rw [← ht]
    rfl

end Document

theorem total_append (first second : List Nat) :
    total (first ++ second) = total first + total second := by
  induction first with
  | nil => simp [total]
  | cons n first ih =>
    have hcons (counts : List Nat) : total (n :: counts) = n + total counts := rfl
    rw [List.cons_append, hcons, hcons, ih]
    omega

theorem total_flatMap {α : Type} (f : α → List Nat) (l : List α) :
    total (l.flatMap f) = total (l.map fun a => total (f a)) := by
  induction l with
  | nil => rfl
  | cons a l ih =>
    rw [List.flatMap_cons, total_append, ih]
    rfl

theorem total_map_countP {α β : Type} (f : α → List β) (p : β → Bool) (l : List α) :
    total (l.map fun a => (f a).countP p) = (l.flatMap f).countP p := by
  induction l with
  | nil => rfl
  | cons a l ih =>
    rw [List.flatMap_cons, List.countP_append, ← ih]
    rfl

theorem Document.total_resolved_rewrites (s : Settings) (classifier : Classifier) (i : Index)
    (d : Document) :
    total (((d.prepare s classifier).rewrites s i).map Rewrite.resolved) =
      (d.links s).countP fun t => (d.verdict i t).isResolved := by
  rw [rewrites_prepare, List.map_map, links, ← total_map_countP]
  rfl

def Outcome.findingsOf (o : Outcome) (document : String) : List Finding :=
  o.findings.filter fun f => f.document = document

theorem documents_compileValid (s : Settings) (classifier : Classifier)
    (documents : List Document) :
    (compileValid s classifier documents).documents = documents.map fun d =>
      ((d.prepare s classifier).rewrite s
        (Index.ofDocuments (documents.map Document.mentionTypes))).expand s := by
  simp only [compileValid, Index.ofDocuments_prepare, List.map_map, Function.comp_def]

theorem findings_compileValid (s : Settings) (classifier : Classifier)
    (documents : List Document) :
    (compileValid s classifier documents).findings = documents.flatMap
      (Document.reports s (Index.ofDocuments (documents.map Document.mentionTypes))) := by
  simp only [compileValid, Index.ofDocuments_prepare, List.flatMap_map, List.flatMap_assoc,
    Document.flatMap_findings_rewrites]

theorem filter_flatMap_document {documents : List Document}
    (hids : (documents.map Document.id).Nodup) {reports : Document → List Finding}
    (hreports : ∀ q, ∀ f ∈ reports q, f.document = q.id) {d : Document} (hd : d ∈ documents) :
    (documents.flatMap reports).filter (fun f => f.document = d.id) = reports d := by
  -- Only the reports of `d` itself pass: those of another document bear another identifier.
  have hsplit (q : Document) : (reports q).filter (fun f => f.document = d.id) =
      if q.id = d.id then reports q else [] := by
    split
    · rename_i hq
      rw [List.filter_eq_self]
      intro f hf
      simp [hreports q f hf, hq]
    · rename_i hq
      rw [List.filter_eq_nil_iff]
      intro f hf
      simp [hreports q f hf, hq]
  induction documents with
  | nil => cases hd
  | cons q documents ih =>
    rw [List.map_cons, List.nodup_cons] at hids
    rw [List.flatMap_cons, List.filter_append, hsplit]
    rcases List.mem_cons.1 hd with rfl | hd
    · have hothers : (documents.flatMap reports).filter (fun f => f.document = d.id) = [] := by
        rw [List.filter_eq_nil_iff]
        intro f hf
        obtain ⟨other, hother, hf⟩ := List.mem_flatMap.1 hf
        have hne : other.id ≠ d.id := fun h => hids.1 (h ▸ List.mem_map_of_mem hother)
        simp [hreports other f hf, hne]
      simp [hothers]
    · have hne : q.id ≠ d.id := fun h => hids.1 (h ▸ List.mem_map_of_mem hd)
      rw [if_neg hne, List.nil_append]
      exact ih hids.2 hd

theorem findingsOf_compileValid (s : Settings) (classifier : Classifier)
    {documents : List Document} (hids : (documents.map Document.id).Nodup) {d : Document}
    (hd : d ∈ documents) :
    (compileValid s classifier documents).findingsOf d.id =
      d.reports s (Index.ofDocuments (documents.map Document.mentionTypes)) := by
  rw [Outcome.findingsOf, findings_compileValid]
  exact filter_flatMap_document hids (fun _ _ => Document.document_of_mem_reports) hd

theorem resolved_compileValid (s : Settings) (classifier : Classifier)
    (documents : List Document) :
    (compileValid s classifier documents).statistics.resolved = total (documents.map fun d =>
      (d.links s).countP fun t => (d.verdict
        (Index.ofDocuments (documents.map Document.mentionTypes)) t).isResolved) := by
  simp only [compileValid, Index.ofDocuments_prepare, List.map_flatMap, total_flatMap,
    List.map_map, Function.comp_def, Document.total_resolved_rewrites]

/-- The outcome counts and reports the links of the documents as the index has them judged. -/
structure Outcome.Judges (o : Outcome) (s : Settings) (documents : List Document) (i : Index) :
    Prop where
  resolved : o.statistics.resolved = total (documents.map fun d =>
    (d.links s).countP fun t => (d.verdict i t).isResolved)
  findings : ∀ d ∈ documents, o.findingsOf d.id = d.reports s i

theorem judges_compileValid (s : Settings) (classifier : Classifier) {documents : List Document}
    (hids : (documents.map Document.id).Nodup) :
    (compileValid s classifier documents).Judges s documents
      (Index.ofDocuments (documents.map Document.mentionTypes)) where
  resolved := resolved_compileValid s classifier documents
  findings _ hd := findingsOf_compileValid s classifier hids hd

theorem scope_mentionTypes {documents : List Document} (hids : (documents.map Document.id).Nodup)
    {d : Document} (hd : d ∈ documents) :
    (Index.ofDocuments (documents.map Document.mentionTypes)).scope d.id =
      ⟨d.id, some d.mentionTypes.nameTable,
        (Index.ofDocuments (documents.map Document.mentionTypes)).shared⟩ := by
  have hsame : (documents.map Document.mentionTypes).map Document.id =
      documents.map Document.id := by
    rw [List.map_map]
    rfl
  exact Index.scope_ofDocuments (hsame ▸ hids) (List.mem_map_of_mem hd)

end Crosslink
