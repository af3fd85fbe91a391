import Crosslink.Rewrite

set_option autoImplicit false

/-!
A run over a list of documents. Each document is prepared by itself: entities are classified,
declared types become references, markdown links become tags. One index is made of the prepared
documents, every text is rewritten in the scope of its document, and compound references are
expanded. Only documents of broken structure make a run fail.
-/

namespace Crosslink

/-- Decides the publication status of an entity; `none` leaves it as it is. -/
abbrev Classifier := Entity → Option Status

def Classifier.silent : Classifier := fun _ => none

structure Statistics where
  documents : Nat
  markdownLinks : Nat
  resolved : Nat
  unresolved : Nat
  malformed : Nat
  referencesAdded : Nat
  textsChanged : Nat
  deriving DecidableEq

structure Outcome where
  documents : List Document
  findings : List Finding
  statistics : Statistics
  deriving DecidableEq

def total (counts : List Nat) : Nat := counts.foldr (· + ·) 0

def Entity.classify (classifier : Classifier) (e : Entity) : Entity :=
  { e with status := (classifier e).or e.status }

namespace Document

def classify (classifier : Classifier) (d : Document) : Document :=
  { d with entities := d.entities.map (Entity.classify classifier) }

def normalize (s : Settings) (d : Document) : Document :=
  if s.normalizeMarkdownLinks then d.mapTexts (Markdown.normalize s) else d

def prepare (s : Settings) (classifier : Classifier) (d : Document) : Document :=
  (d.classify classifier).mentionTypes.normalize s

def markdownLinks (s : Settings) (d : Document) : Nat :=
  if s.normalizeMarkdownLinks then total (d.texts.map Markdown.symbolLinks) else 0

def rewrites (s : Settings) (i : Index) (d : Document) : List Rewrite :=
  d.texts.map ((i.scope d.id).rewrite s d.package)

def rewrite (s : Settings) (i : Index) (d : Document) : Document :=
  d.mapTexts fun text => ((i.scope d.id).rewrite s d.package text).text

def textsChanged (s : Settings) (i : Index) (d : Document) : Nat :=
  d.texts.countP fun text => ((i.scope d.id).rewrite s d.package text).text ≠ text

def expand (s : Settings) (d : Document) : Document :=
  if s.expandGenerics then d.expandTypes else d

end Document

def referenceCount (documents : List Document) : Nat :=
  total (documents.map fun d => d.references.length)

def compileValid (s : Settings) (classifier : Classifier) (documents : List Document) : Outcome :=
  let prepared := documents.map (Document.prepare s classifier)
  let index := Index.ofDocuments prepared
  let rewrites := prepared.flatMap (Document.rewrites s index)
  let findings := rewrites.flatMap Rewrite.findings
  let compiled := prepared.map fun d => (d.rewrite s index).expand s
  { documents := compiled
    findings := findings
    statistics :=
      { documents := documents.length
        markdownLinks := total (documents.map (Document.markdownLinks s))
        resolved := total (rewrites.map Rewrite.resolved)
        unresolved := findings.countP Finding.isUnresolved
        malformed := findings.countP fun f => !f.isUnresolved
        referencesAdded := referenceCount compiled - referenceCount documents
        textsChanged := total (prepared.map (Document.textsChanged s index)) } }

def compile (s : Settings) (classifier : Classifier) (documents : List Document) :
    Except Defect Outcome :=
  match defect? documents with
  | some defect => .error defect
  | none => .ok (compileValid s classifier documents)

end Crosslink
