import Crosslink.Proofs.CompileFrame
import Crosslink.Proofs.Defects
import Crosslink.Proofs.RewriteAgain

set_option autoImplicit false

/-!
A run over the documents that a run wrote. It succeeds and adds no reference, since the documents
already have all that a run adds. It changes nothing exactly when each text stays as it is, and for
identifiers without quotes this is said of the links of the given documents. It does not hold of
all documents: writing a link inside the label of another makes the outer one a link to a symbol.
-/

namespace Crosslink

namespace Document

theorem classify_silent (d : Document) : d.classify .silent = d := by
  have hentity : Entity.classify .silent = fun e => e := rfl
  rw [classify, hentity, List.map_id']

theorem declaredTypes_mapTexts (f : String → String) (d : Document) :
    (d.mapTexts f).declaredTypes = d.declaredTypes := by
  have hdeclarations : (d.mapTexts f).entities.filterMap Entity.declaration =
      (d.entities.filterMap Entity.declaration).map (Declaration.mapTexts f) := by
    rw [mapTexts, List.filterMap_map, List.map_filterMap]
    rfl
  simp only [declaredTypes, hdeclarations, List.flatMap_map, Declaration.types_mapTexts]

theorem knownUids_mapTexts (f : String → String) (d : Document) :
    (d.mapTexts f).knownUids = d.knownUids := by
  simp [knownUids, mapTexts, Entity.mapTexts, Function.comp_def]

theorem mentionTypes_mapTexts (f : String → String) (d : Document) :
    (d.mapTexts f).mentionTypes = d.mentionTypes.mapTexts f := by
  rw [mentionTypes, declaredTypes_mapTexts, knownUids_mapTexts]
  rfl

theorem expand_mapTexts (s : Settings) (f : String → String) (d : Document) :
    (d.mapTexts f).expand s = (d.expand s).mapTexts f := by
  have hmissing : (d.mapTexts f).missingTypes = d.missingTypes := by
    rw [missingTypes, knownUids_mapTexts]
    rfl
  unfold expand
  split
  · rw [expandTypes, hmissing]
    rfl
  · rfl

structure IsComplete (s : Settings) (d : Document) : Prop where
  mentioned : d.mentionTypes = d
  expanded : d.expand s = d

def complete (s : Settings) (d : Document) : Document := d.mentionTypes.expand s

theorem isComplete_complete (s : Settings) (d : Document) : (d.complete s).IsComplete s where
  mentioned := by
    unfold complete expand
    split
    · exact mentionTypes_expandTypes d
    · exact mentionTypes_mentionTypes d
  expanded := by
    unfold complete expand
    split
    · exact expandTypes_expandTypes d.mentionTypes
    · rfl

theorem IsComplete.complete_eq {s : Settings} {d : Document} (h : d.IsComplete s) :
    d.complete s = d := by
  rw [complete, h.mentioned, h.expanded]

theorem IsComplete.mapTexts {s : Settings} {d : Document} (h : d.IsComplete s)
    (f : String → String) : (d.mapTexts f).IsComplete s where
  mentioned := by rw [mentionTypes_mapTexts, h.mentioned]
  expanded := by rw [expand_mapTexts, h.expanded]

theorem IsSound.complete {d : Document} (h : d.IsSound) (s : Settings) :
    (d.complete s).IsSound := by
  unfold Document.complete expand
  split
  · exact h.mentionTypes.expandTypes
  · exact h.mentionTypes

theorem IsSound.classify {d : Document} (h : d.IsSound) (classifier : Classifier) :
    (d.classify classifier).IsSound :=
  h.mapEntities (fun _ => rfl) fun _ => rfl

/-- The text that a run with the given index writes for a text of the document. -/
def written (s : Settings) (i : Index) (d : Document) (text : String) : String :=
  ((i.scope d.id).rewrite s d.package (s.normalizeText text)).text

theorem expand_classify (s : Settings) (classifier : Classifier) (d : Document) :
    (d.classify classifier).expand s = (d.expand s).classify classifier := by
  have hmissing : (d.classify classifier).missingTypes = d.missingTypes := by
    rw [missingTypes, knownUids_classify]
    rfl
  unfold expand
  split
  · rw [expandTypes, hmissing]
    rfl
  · rfl

theorem run_eq (s : Settings) (classifier : Classifier) (i : Index) (d : Document) :
    ((d.prepare s classifier).rewrite s i).expand s =
      ((d.complete s).classify classifier).mapTexts (d.written s i) := by
  rw [prepare_eq, rewrite, mapTexts_mapTexts, expand_mapTexts, expand_classify]
  rfl

theorem complete_id (s : Settings) (d : Document) : (d.complete s).id = d.id :=
  expand_id s d.mentionTypes

theorem complete_package (s : Settings) (d : Document) : (d.complete s).package = d.package :=
  expand_package s d.mentionTypes

theorem complete_texts (s : Settings) (d : Document) : (d.complete s).texts = d.texts := by
  rw [texts, complete, expand_entities]
  rfl

end Document

theorem compileValid_documents_classify (s : Settings) (classifier : Classifier)
    (documents : List Document) :
    (compileValid s classifier documents).documents = documents.map fun d =>
      ((d.complete s).classify classifier).mapTexts
        (d.written s (Index.ofDocuments (documents.map Document.mentionTypes))) := by
  simp only [compileValid, Index.ofDocuments_prepare, List.map_map, Function.comp_def,
    Document.run_eq]

theorem compileValid_documents (s : Settings) (documents : List Document) :
    (compileValid s .silent documents).documents = documents.map fun d =>
      (d.complete s).mapTexts
        (d.written s (Index.ofDocuments (documents.map Document.mentionTypes))) := by
  simp only [compileValid_documents_classify, Document.classify_silent]

theorem map_eq_self {α : Type} {f : α → α} {l : List α} (h : ∀ a ∈ l, f a = a) : l.map f = l := by
  rw [List.map_congr_left h, List.map_id']

theorem referencesAdded_eq_zero {s : Settings} {documents : List Document}
    (h : ∀ d ∈ documents, d.IsComplete s) :
    (compileValid s .silent documents).statistics.referencesAdded = 0 := by
  have hcount : referenceCount (compileValid s .silent documents).documents =
      referenceCount documents := by
    rw [compileValid_documents, referenceCount, List.map_map, referenceCount]
    congr 1
    apply List.map_congr_left
    intro d hd
    change (d.complete s).references.length = d.references.length
    rw [(h d hd).complete_eq]
  change referenceCount (compileValid s .silent documents).documents - referenceCount documents = 0
  omega

/-- A run in this scope leaves the text alone: it has no link to write as a tag, and its tags are
    written as they stand. -/
def Scope.Keeps (scope : Scope) (s : Settings) (package text : String) : Prop :=
  (s.normalizeMarkdownLinks = true → Markdown.symbolLinks text = 0) ∧
    (scope.rewrite s package text).text = text

instance (scope : Scope) (s : Settings) (package text : String) :
    Decidable (scope.Keeps s package text) :=
  inferInstanceAs (Decidable (_ ∧ _))

theorem Settings.normalizeText_eq_self {s : Settings} {text : String}
    (h : s.normalizeMarkdownLinks = true → Markdown.symbolLinks text = 0) :
    s.normalizeText text = text := by
  unfold normalizeText
  split
  · rename_i hnormalize
    exact Markdown.normalize_eq_self s (h hnormalize)
  · rfl

theorem total_map_eq_zero_iff {α : Type} (f : α → Nat) (l : List α) :
    total (l.map f) = 0 ↔ ∀ a ∈ l, f a = 0 := by
  induction l with
  | nil => simp [total]
  | cons a l ih =>
    have hcons : total ((a :: l).map f) = f a + total (l.map f) := rfl
    rw [hcons, List.forall_mem_cons, ← ih]
    omega

namespace Document

def IsPlain (s : Settings) (d : Document) : Prop :=
  ∀ text ∈ d.texts, s.normalizeMarkdownLinks = true → Markdown.symbolLinks text = 0

theorem markdownLinks_eq_zero_iff (s : Settings) (d : Document) :
    d.markdownLinks s = 0 ↔ d.IsPlain s := by
  unfold markdownLinks IsPlain
  split
  · rename_i hnormalize
    rw [total_map_eq_zero_iff]
    simp [hnormalize]
  · rename_i hnormalize
    simp [hnormalize]

theorem textsChanged_eq_zero_iff (s : Settings) (i : Index) (d : Document) :
    d.textsChanged s i = 0 ↔
      ∀ text ∈ d.texts, ((i.scope d.id).rewrite s d.package text).text = text := by
  simp [textsChanged, List.countP_eq_zero]

theorem prepare_eq_self {s : Settings} {d : Document} (hcomplete : d.IsComplete s)
    (hplain : d.IsPlain s) : d.prepare s .silent = d := by
  rw [prepare_eq, classify_silent, hcomplete.mentioned]
  exact mapTexts_eq_self fun text ht => Settings.normalizeText_eq_self (hplain text ht)

end Document

/-- The second outcome has the documents of the first, and counts nothing as changed. -/
structure Outcome.Repeats (second first : Outcome) : Prop where
  documents : second.documents = first.documents
  textsChanged : second.statistics.textsChanged = 0
  markdownLinks : second.statistics.markdownLinks = 0
  referencesAdded : second.statistics.referencesAdded = 0

theorem textsChanged_eq_zero_iff {s : Settings} {documents : List Document}
    (hcomplete : ∀ d ∈ documents, d.IsComplete s) (hplain : ∀ d ∈ documents, d.IsPlain s) :
    (compileValid s .silent documents).statistics.textsChanged = 0 ↔
      ∀ d ∈ documents, ∀ text ∈ d.texts,
        (((Index.ofDocuments documents).scope d.id).rewrite s d.package text).text = text := by
  have hprepared : documents.map (Document.prepare s .silent) = documents :=
    map_eq_self fun d hd => Document.prepare_eq_self (hcomplete d hd) (hplain d hd)
  simp only [compileValid, hprepared, total_map_eq_zero_iff, Document.textsChanged_eq_zero_iff]

theorem repeats_iff {s : Settings} {first : Outcome}
    (hcomplete : ∀ d ∈ first.documents, d.IsComplete s) :
    (compileValid s .silent first.documents).Repeats first ↔
      ∀ d ∈ first.documents, ∀ text ∈ d.texts,
        ((Index.ofDocuments first.documents).scope d.id).Keeps s d.package text := by
  constructor
  · intro h
    have hplain : ∀ d ∈ first.documents, d.IsPlain s := by
      intro d hd
      rw [← Document.markdownLinks_eq_zero_iff]
      exact (total_map_eq_zero_iff _ _).1 h.markdownLinks d hd
    have htexts := (textsChanged_eq_zero_iff hcomplete hplain).1 h.textsChanged
    intro d hd text ht
    exact ⟨hplain d hd text ht, htexts d hd text ht⟩
  · intro h
    have hplain : ∀ d ∈ first.documents, d.IsPlain s := fun d hd text ht => (h d hd text ht).1
    refine ⟨?_, ?_, ?_, referencesAdded_eq_zero hcomplete⟩
    · rw [compileValid_documents, map_eq_self fun d hd => (hcomplete d hd).mentioned]
      apply map_eq_self
      intro d hd
      rw [(hcomplete d hd).complete_eq]
      apply Document.mapTexts_eq_self
      intro text ht
      rw [Document.written, Settings.normalizeText_eq_self (hplain d hd text ht)]
      exact (h d hd text ht).2
    · exact (textsChanged_eq_zero_iff hcomplete hplain).2 fun d hd text ht => (h d hd text ht).2
    · apply (total_map_eq_zero_iff _ _).2
      intro d hd
      exact (Document.markdownLinks_eq_zero_iff s d).2 (hplain d hd)

theorem isComplete_compileValid {s : Settings} {documents : List Document} :
    ∀ d ∈ (compileValid s .silent documents).documents, d.IsComplete s := by
  intro q hq
  rw [compileValid_documents] at hq
  obtain ⟨d, _, rfl⟩ := List.mem_map.1 hq
  exact (d.isComplete_complete s).mapTexts _

theorem defect?_compileValid (s : Settings) {classifier : Classifier} {documents : List Document}
    (h : defect? documents = none) :
    defect? (compileValid s classifier documents).documents = none := by
  rw [defect?_eq_none_iff] at h ⊢
  obtain ⟨hsound, hids⟩ := h
  rw [compileValid_documents_classify]
  refine ⟨?_, ?_⟩
  · intro q hq
    obtain ⟨d, hd, rfl⟩ := List.mem_map.1 hq
    exact (((hsound d hd).complete s).classify classifier).mapTexts _
  · rw [List.map_map]
    have hsame : documents.map (Document.id ∘ fun d => ((d.complete s).classify classifier).mapTexts
        (d.written s (Index.ofDocuments (documents.map Document.mentionTypes)))) =
        documents.map Document.id :=
      List.map_congr_left fun d _ => d.complete_id s
    rwa [hsame]

theorem forall_texts_compileValid (s : Settings) (documents : List Document)
    (P : String → String → String → Prop) :
    (∀ d ∈ (compileValid s .silent documents).documents, ∀ text ∈ d.texts, P d.id d.package text) ↔
      ∀ d ∈ documents, ∀ text ∈ d.texts, P d.id d.package
        (d.written s (Index.ofDocuments (documents.map Document.mentionTypes)) text) := by
  rw [compileValid_documents, List.forall_mem_map]
  simp only [Document.texts_mapTexts, Document.complete_texts, List.forall_mem_map]
  simp only [Document.mapTexts, Document.complete_id, Document.complete_package]

namespace Document

/-- No link of the document resolves to an identifier with a quote in it, neither in the run with
    the first index nor in the run with the second over what the first one wrote. -/
def QuoteFree (s : Settings) (before after : Index) (d : Document) : Prop :=
  ∀ text ∈ d.texts,
    (before.scope d.id).QuoteFree s d.package (s.normalizeText text) ∧
    (after.scope d.id).QuoteFree s d.package (d.written s before text)

instance (s : Settings) (before after : Index) (d : Document) :
    Decidable (d.QuoteFree s before after) :=
  inferInstanceAs (Decidable (∀ text ∈ d.texts, _ ∧ _))

/-- What the run with the first index wrote has no link left that is written as a tag, and each of
    the tags it found is written the same way with the second index. -/
def Stays (s : Settings) (before after : Index) (d : Document) : Prop :=
  ∀ text ∈ d.texts,
    (s.normalizeMarkdownLinks = true → Markdown.symbolLinks (d.written s before text) = 0) ∧
    ∀ t ∈ Tag.all s.tagName.toList (s.normalizeText text).toList,
      t.Stays s (before.scope d.id) (after.scope d.id) d.package

theorem keeps_iff_stays {s : Settings} (htag : Settings.isName s.tagName = true)
    (hattribute : Settings.isName s.unresolvedAttribute = true) {before after : Index}
    {d : Document} (hquote : d.QuoteFree s before after) :
    (∀ text ∈ d.texts, (after.scope d.id).Keeps s d.package (d.written s before text)) ↔
      d.Stays s before after := by
  apply forall₂_congr
  intro text ht
  obtain ⟨hfirst, hsecond⟩ := hquote text ht
  apply and_congr Iff.rfl
  exact Scope.rewrite_rewrite_iff htag hattribute _ _ d.package _ hfirst hsecond

end Document

/-- A run over what a run wrote succeeds and adds no reference. It changes nothing exactly when
    the texts written for the given documents stay as they are. -/
theorem compile_again {toml : String} {s : Settings} (hs : Settings.ofToml toml = .ok s)
    {documents : List Document} {first : Outcome}
    (h : compile s .silent documents = .ok first) :
    let before := Index.ofDocuments (documents.map Document.mentionTypes)
    let after := Index.ofDocuments first.documents
    ∃ second, compile s .silent first.documents = .ok second ∧
      second.statistics.referencesAdded = 0 ∧
      (second.Repeats first ↔ ∀ d ∈ documents, ∀ text ∈ d.texts,
        (after.scope d.id).Keeps s d.package (d.written s before text)) ∧
      ((∀ d ∈ documents, d.QuoteFree s before after) →
        (second.Repeats first ↔ ∀ d ∈ documents, d.Stays s before after)) := by
  intro before after
  obtain ⟨_, htag, hattribute⟩ := Settings.ofToml_eq_ok_iff.1 hs
  obtain ⟨hdefect, rfl⟩ := (compile_eq_ok_iff s .silent documents first).1 h
  have hkeeps : (compileValid s .silent (compileValid s .silent documents).documents).Repeats
      (compileValid s .silent documents) ↔ ∀ d ∈ documents, ∀ text ∈ d.texts,
        (after.scope d.id).Keeps s d.package (d.written s before text) := by
    rw [repeats_iff isComplete_compileValid]
    exact forall_texts_compileValid s documents fun id package text =>
      (after.scope id).Keeps s package text
  refine ⟨_, (compile_eq_ok_iff _ _ _ _).2 ⟨defect?_compileValid s hdefect, rfl⟩,
    referencesAdded_eq_zero isComplete_compileValid, hkeeps, ?_⟩
  intro hquote
  rw [hkeeps]
  apply forall₂_congr
  intro d hd
  exact Document.keeps_iff_stays htag hattribute (hquote d hd)

theorem compile_again_repeats :
    let entity : Entity :=
      { uid := "a.Foo", nameWithType := "Foo", summary := some "[x](Foo) <link uid=\"b\">y</link>" }
    let documents : List Document := [{ id := "d", entities := [entity] }]
    let first := compileValid {} .silent documents
    let before := Index.ofDocuments (documents.map Document.mentionTypes)
    let after := Index.ofDocuments first.documents
    ∃ second, compile {} .silent first.documents = .ok second ∧ second.Repeats first ∧
      ∀ d ∈ documents, d.Stays {} before after := by
  intro entity documents first before after
  have hs : Settings.ofToml "" = .ok {} := Settings.ofToml_eq_ok_iff.2 (by decide +kernel)
  have hfirst : compile {} .silent documents = .ok first :=
    (compile_eq_ok_iff _ _ _ _).2 ⟨by decide +kernel, rfl⟩
  obtain ⟨second, hsecond, _, hkeeps, hstays⟩ := compile_again hs hfirst
  have hrepeats : second.Repeats first := hkeeps.2 (by decide +kernel)
  have hquote : ∀ d ∈ documents, d.QuoteFree {} before after := by decide +kernel
  exact ⟨second, hsecond, hrepeats, (hstays hquote).1 hrepeats⟩

theorem compile_again_nested_links :
    ¬∀ (toml : String) (s : Settings) (documents : List Document) (first : Outcome),
      Settings.ofToml toml = .ok s → compile s .silent documents = .ok first →
        ∃ second, compile s .silent first.documents = .ok second ∧ second.Repeats first := by
  intro h
  let entity : Entity :=
    { uid := "a.Foo", nameWithType := "Foo", summary := some "[x [y](Foo) z](Foo)" }
  let documents : List Document := [{ id := "d", entities := [entity] }]
  have hs : Settings.ofToml "" = .ok {} := Settings.ofToml_eq_ok_iff.2 (by decide +kernel)
  have hfirst : compile {} .silent documents = .ok (compileValid {} .silent documents) :=
    (compile_eq_ok_iff _ _ _ _).2 ⟨by decide +kernel, rfl⟩
  obtain ⟨second, hsecond, hrepeats⟩ := h "" {} documents _ hs hfirst
  obtain ⟨_, rfl⟩ := (compile_eq_ok_iff _ _ _ _).1 hsecond
  have hchanged :
      (compileValid {} .silent (compileValid {} .silent documents).documents).documents ≠
        (compileValid {} .silent documents).documents := by
    decide +kernel
  exact hchanged hrepeats.documents

end Crosslink
