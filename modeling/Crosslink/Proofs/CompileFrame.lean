import Crosslink.Compile
import Crosslink.Proofs.DocumentTexts
import Mathlib.Data.List.Forall2
import Mathlib.Data.List.InsertIdx

set_option autoImplicit false

namespace Crosslink

def Entity.face (e : Entity) : Entity :=
  { uid := e.uid, nameWithType := e.nameWithType, href := e.href, isOwner := e.isOwner }

theorem Entity.aliases_face (e : Entity) : e.face.aliases = e.aliases := by
  have hforms : (fun form => AliasForm.alias? form e.face) = (fun form => form.alias? e) := by
    funext form
    cases form <;> rfl
  rw [aliases, hforms, aliases]

theorem Entity.writes_face (e : Entity) : e.face.writes = e.writes := by
  unfold writes
  rw [aliases_face]
  rfl

namespace Document

/-- A document with nothing but what the index looks at. -/
def face (d : Document) : Document :=
  { id := d.id, entities := d.entities.map Entity.face, references := d.references }

theorem owner?_face (d : Document) : d.face.owner? = d.owner?.map Entity.face := by
  have hfind : (d.entities.map Entity.face).find? Entity.isOwner =
      (d.entities.find? Entity.isOwner).map Entity.face := List.find?_map
  rw [owner?, face, hfind, List.head?_map, owner?, Option.map_or]

theorem ownerPosition?_face (d : Document) : d.face.ownerPosition? = d.ownerPosition? := by
  have hfind : (d.entities.map Entity.face).findIdx? Entity.isOwner =
      d.entities.findIdx? Entity.isOwner := List.findIdx?_map
  rw [ownerPosition?, face, hfind, ownerPosition?]
  simp

theorem otherEntities_face (d : Document) :
    d.face.otherEntities = d.otherEntities.map Entity.face := by
  rw [otherEntities, ownerPosition?_face, otherEntities]
  cases d.ownerPosition? with
  | none => rfl
  | some position => exact List.eraseIdx_map _ _ _

theorem ownWrites_face (d : Document) : d.face.ownWrites = d.ownWrites := by
  rw [ownWrites, otherEntities_face, List.flatMap_map, ownWrites]
  simp only [Entity.writes_face]
  rfl

theorem ownerWrites_face (d : Document) : d.face.ownerWrites = d.ownerWrites := by
  rw [ownerWrites, owner?_face, ownerWrites]
  cases d.owner? with
  | none => rfl
  | some owner => exact Entity.writes_face owner

theorem sharedWrites_face (d : Document) : d.face.sharedWrites = d.sharedWrites := by
  rw [sharedWrites, otherEntities_face, List.flatMap_map, sharedWrites, ownerWrites_face]
  simp only [Entity.writes_face]
  rfl

theorem nameTable_face (d : Document) : d.face.nameTable = d.nameTable := by
  rw [nameTable, ownWrites_face, ownerTable, ownerWrites_face, nameTable, ownerTable]

end Document

theorem Index.addDocument_face (i : Index) (d : Document) :
    i.addDocument d.face = i.addDocument d := by
  rw [addDocument, Document.sharedWrites_face, Document.nameTable_face]
  rfl

theorem Index.ofDocuments_face (documents : List Document) :
    ofDocuments (documents.map Document.face) = ofDocuments documents := by
  rw [ofDocuments, List.foldl_map]
  simp only [addDocument_face]
  rfl

namespace Document

theorem face_mapTexts (f : String → String) (d : Document) : (d.mapTexts f).face = d.face := by
  simp only [face, mapTexts, List.map_map]
  rfl

theorem face_normalize (s : Settings) (d : Document) : (d.normalize s).face = d.face := by
  unfold normalize
  split
  · exact face_mapTexts _ d
  · rfl

theorem declaredTypes_classify (classifier : Classifier) (d : Document) :
    (d.classify classifier).declaredTypes = d.declaredTypes := by
  simp only [declaredTypes, classify, List.filterMap_map]
  rfl

theorem knownUids_classify (classifier : Classifier) (d : Document) :
    (d.classify classifier).knownUids = d.knownUids := by
  simp only [knownUids, classify, List.map_map]
  rfl

theorem mentionTypes_classify (classifier : Classifier) (d : Document) :
    (d.classify classifier).mentionTypes = d.mentionTypes.classify classifier := by
  rw [mentionTypes, declaredTypes_classify, knownUids_classify]
  rfl

theorem face_prepare (s : Settings) (classifier : Classifier) (d : Document) :
    (d.prepare s classifier).face = d.mentionTypes.face := by
  rw [prepare, face_normalize, mentionTypes_classify]
  simp only [face, classify, List.map_map]
  rfl

end Document

/-- The index of a run is that of the documents with their declared types mentioned. -/
theorem Index.ofDocuments_prepare (s : Settings) (classifier : Classifier)
    (documents : List Document) :
    ofDocuments (documents.map (Document.prepare s classifier)) =
      ofDocuments (documents.map Document.mentionTypes) := by
  rw [← ofDocuments_face, List.map_map, ← ofDocuments_face (documents.map Document.mentionTypes),
    List.map_map]
  congr 1
  apply List.map_congr_left
  intro d _
  exact Document.face_prepare s classifier d

def Parameter.Mapped (f : String → String) (p q : Parameter) : Prop :=
  q.id = p.id ∧ q.type = p.type ∧ q.description = p.description.map f

def ReturnValue.Mapped (f : String → String) (r q : ReturnValue) : Prop :=
  q.type = r.type ∧ q.description = r.description.map f

def Exception.Mapped (f : String → String) (e q : Exception) : Prop :=
  q.type = e.type ∧ q.description = e.description.map f

structure Declaration.Mapped (f : String → String) (d q : Declaration) : Prop where
  parameters : List.Forall₂ (Parameter.Mapped f) d.parameters q.parameters
  returns : Option.Rel (ReturnValue.Mapped f) d.returns q.returns
  exceptions : List.Forall₂ (Exception.Mapped f) d.exceptions q.exceptions

/-- The second entity is the first with `f` applied to each of its texts and the status that the
    classifier gives it, if it gives one. -/
structure Entity.Compiled (classifier : Classifier) (f : String → String) (e q : Entity) :
    Prop where
  uid : q.uid = e.uid
  name : q.name = e.name
  nameWithType : q.nameWithType = e.nameWithType
  fullName : q.fullName = e.fullName
  href : q.href = e.href
  summary : q.summary = e.summary.map f
  declaration : Option.Rel (Declaration.Mapped f) e.declaration q.declaration
  isOwner : q.isOwner = e.isOwner
  status : ∀ status, classifier e = some status → q.status = some status
  status_silent : classifier e = none → q.status = e.status

def Settings.normalizeText (s : Settings) (text : String) : String :=
  if s.normalizeMarkdownLinks then Markdown.normalize s text else text

/-- The second document is the first with its entities compiled against one index, in its own scope
    and package. -/
structure Document.Compiled (s : Settings) (classifier : Classifier) (i : Index)
    (d q : Document) : Prop where
  id : q.id = d.id
  package : q.package = d.package
  entities : List.Forall₂
    (Entity.Compiled classifier fun text =>
      ((i.scope d.id).rewrite s d.package (s.normalizeText text)).text)
    d.entities q.entities

theorem rel_map_self {α : Type} {R : α → α → Prop} {f : α → α} (h : ∀ a, R a (f a))
    (o : Option α) : Option.Rel R o (o.map f) := by
  cases o with
  | none => exact .none
  | some a => exact .some (h a)

theorem forall₂_map_self {α : Type} {R : α → α → Prop} {f : α → α} (h : ∀ a, R a (f a))
    (l : List α) : List.Forall₂ R l (l.map f) := by
  rw [List.forall₂_map_right_iff, List.forall₂_same]
  intro a _
  exact h a

theorem Declaration.mapped_mapTexts (f : String → String) (d : Declaration) :
    d.Mapped f (d.mapTexts f) where
  parameters := forall₂_map_self (fun _ => ⟨rfl, rfl, rfl⟩) d.parameters
  returns := rel_map_self (fun _ => ⟨rfl, rfl⟩) d.returns
  exceptions := forall₂_map_self (fun _ => ⟨rfl, rfl⟩) d.exceptions

theorem Entity.compiled_mapTexts (classifier : Classifier) (f : String → String) (e : Entity) :
    e.Compiled classifier f ((e.classify classifier).mapTexts f) where
  uid := rfl
  name := rfl
  nameWithType := rfl
  fullName := rfl
  href := rfl
  summary := rfl
  declaration := rel_map_self (Declaration.mapped_mapTexts f) e.declaration
  isOwner := rfl
  status := by
    intro status h
    simp [mapTexts, classify, h]
  status_silent := by
    intro h
    simp [mapTexts, classify, h]

namespace Document

theorem normalize_eq (s : Settings) (d : Document) :
    d.normalize s = d.mapTexts s.normalizeText := by
  unfold normalize
  split
  · rename_i h
    exact mapTexts_congr fun text _ => by simp [Settings.normalizeText, h]
  · rename_i h
    exact (mapTexts_eq_self fun text _ => by simp [Settings.normalizeText, h]).symm

theorem expand_entities (s : Settings) (d : Document) : (d.expand s).entities = d.entities := by
  unfold expand
  split <;> rfl

theorem expand_id (s : Settings) (d : Document) : (d.expand s).id = d.id := by
  unfold expand
  split <;> rfl

theorem expand_package (s : Settings) (d : Document) : (d.expand s).package = d.package := by
  unfold expand
  split <;> rfl

theorem prepare_eq (s : Settings) (classifier : Classifier) (d : Document) :
    d.prepare s classifier = (d.mentionTypes.classify classifier).mapTexts s.normalizeText := by
  rw [prepare, normalize_eq, mentionTypes_classify]

/-- One document through the whole run, given the index of the run. -/
theorem compiled_run (s : Settings) (classifier : Classifier) (i : Index) (d : Document) :
    d.Compiled s classifier i (((d.prepare s classifier).rewrite s i).expand s) where
  id := by
    rw [expand_id, prepare_eq]
    rfl
  package := by
    rw [expand_package, prepare_eq]
    rfl
  entities := by
    rw [expand_entities, rewrite, prepare_eq, mapTexts_mapTexts]
    simp only [mapTexts, classify, List.map_map]
    exact forall₂_map_self (Entity.compiled_mapTexts classifier _) d.entities

end Document

theorem compile_eq_ok_iff (s : Settings) (classifier : Classifier) (documents : List Document)
    (outcome : Outcome) :
    compile s classifier documents = .ok outcome ↔
      defect? documents = none ∧ compileValid s classifier documents = outcome := by
  unfold compile
  cases defect? documents with
  | some defect => simp
  | none => simp

/-- A run compiles each document by itself against one index, which is made of all the documents
    with their declared types mentioned and of no text. -/
theorem compile_pointwise {s : Settings} {classifier : Classifier} {documents : List Document}
    {outcome : Outcome} (h : compile s classifier documents = .ok outcome) :
    List.Forall₂
      (Document.Compiled s classifier (Index.ofDocuments (documents.map Document.mentionTypes)))
      documents outcome.documents := by
  obtain ⟨_, rfl⟩ := (compile_eq_ok_iff s classifier documents outcome).1 h
  simp only [compileValid, List.map_map]
  rw [Index.ofDocuments_prepare]
  exact forall₂_map_self (Document.compiled_run s classifier _) documents

theorem compile_pointwise_preview :
    let classifier : Classifier := fun e => if e.uid = "a.Foo" then some .preview else none
    let parameter : Parameter :=
      { id := "p", type := some "b.Bar", description := some "<link uid=\"b.Bar\">y</link>" }
    let entities : List Entity :=
      [{ uid := "a.Foo", nameWithType := "Foo", summary := some "[x](Foo)" },
        { uid := "a.Foo.m", declaration := some { parameters := [parameter] } }]
    let documents : List Document := [{ id := "d", package := "a", entities := entities }]
    ∃ outcome, compile {} classifier documents = .ok outcome ∧
      outcome.documents.flatMap Document.texts =
        ["<link uid=\"a.Foo\">x</link>", "<link uid=\"b.Bar\">y</link>"] ∧
      List.Forall₂
        (Document.Compiled {} classifier (Index.ofDocuments (documents.map Document.mentionTypes)))
        documents outcome.documents := by
  intro classifier parameter entities documents
  have hok : compile {} classifier documents = .ok (compileValid {} classifier documents) :=
    (compile_eq_ok_iff _ _ _ _).2 ⟨by decide +kernel, rfl⟩
  exact ⟨_, hok, by decide +kernel, compile_pointwise hok⟩

end Crosslink
