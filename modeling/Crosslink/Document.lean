import Crosslink.Error
import Crosslink.Text.Blank

set_option autoImplicit false

namespace Crosslink

inductive Status where
  | deprecated
  | preview
  deriving DecidableEq

structure Parameter where
  id : String
  type : Option String := none
  description : Option String := none
  deriving DecidableEq

structure ReturnValue where
  type : Option String := none
  description : Option String := none
  deriving DecidableEq

structure Exception where
  type : String
  description : Option String := none
  deriving DecidableEq

structure Declaration where
  parameters : List Parameter := []
  returns : Option ReturnValue := none
  exceptions : List Exception := []
  deriving DecidableEq

/-- A documented symbol. `nameWithType` is its display form after the declaring type. -/
structure Entity where
  uid : String
  name : String := ""
  nameWithType : String := ""
  fullName : Option String := none
  href : Option String := none
  summary : Option String := none
  declaration : Option Declaration := none
  isOwner : Bool := false
  status : Option Status := none
  deriving DecidableEq

/-- One display token of a compound reference; a token without a `uid` is punctuation. -/
structure Part where
  uid : Option String := none
  name : String
  fullName : String
  deriving DecidableEq

structure Reference where
  uid : String
  name : String := ""
  nameWithType : Option String := none
  fullName : Option String := none
  parts : List Part := []
  deriving DecidableEq

structure Document where
  id : String
  package : String := ""
  entities : List Entity := []
  references : List Reference := []
  deriving DecidableEq

def Part.isSeparator (p : Part) : Bool := p.uid.isNone

/-- A compound reference has no display form of its own; its parts are displayed. -/
def Reference.isCompound (r : Reference) : Bool := r.nameWithType.isNone

def isOverloadWildcard (uid : String) : Bool := uid.toList.getLast? = some '*'

def Declaration.types (d : Declaration) : List String :=
  d.parameters.filterMap Parameter.type ++ (d.returns.bind ReturnValue.type).toList
    ++ d.exceptions.map Exception.type

def Declaration.texts (d : Declaration) : List String :=
  d.parameters.filterMap Parameter.description ++ (d.returns.bind ReturnValue.description).toList
    ++ d.exceptions.filterMap Exception.description

def Declaration.mapTexts (f : String → String) (d : Declaration) : Declaration where
  parameters := d.parameters.map fun p => { p with description := p.description.map f }
  returns := d.returns.map fun r => { r with description := r.description.map f }
  exceptions := d.exceptions.map fun e => { e with description := e.description.map f }

namespace Entity

/-- Every free text of the entity: the summary, then the descriptions of its declaration. -/
def texts (e : Entity) : List String :=
  e.summary.toList ++ (e.declaration.map Declaration.texts).getD []

def mapTexts (f : String → String) (e : Entity) : Entity :=
  { e with
    summary := e.summary.map f
    declaration := e.declaration.map (Declaration.mapTexts f) }

end Entity

inductive Defect where
  | missingId
  | entityWithoutUid (position : Nat) (document : String)
  | referenceWithoutUid (position : Nat) (document : String)
  | severalOwners (document : String)
  | repeatedId (document : String)
  deriving DecidableEq

def Defect.message : Defect → String
  | missingId => "document is missing its identifier"
  | entityWithoutUid position document =>
    s!"entity #{position} of document '{document}' has an empty uid"
  | referenceWithoutUid position document =>
    s!"reference #{position} of document '{document}' has an empty uid"
  | severalOwners document => s!"document '{document}' flags more than one owner entity"
  | repeatedId document => s!"document identifier '{document}' appears more than once"

def Defect.toError (d : Defect) : Error := ⟨.invalidDocument, d.message⟩

namespace Document

/-- The position of the entity the document describes: the first flagged one, else the first. -/
def ownerPosition? (d : Document) : Option Nat :=
  (d.entities.findIdx? Entity.isOwner).or (if d.entities.isEmpty then none else some 0)

def owner? (d : Document) : Option Entity :=
  (d.entities.find? Entity.isOwner).or d.entities.head?

def texts (d : Document) : List String := d.entities.flatMap Entity.texts

def mapTexts (f : String → String) (d : Document) : Document :=
  { d with entities := d.entities.map (Entity.mapTexts f) }

def knownUids (d : Document) : List String :=
  d.entities.map Entity.uid ++ d.references.map Reference.uid

def defect? (d : Document) : Option Defect :=
  if Text.isBlankText d.id then some .missingId
  else
    ((d.entities.findIdx? fun e => Text.isBlankText e.uid).map (.entityWithoutUid · d.id)).or <|
    ((d.references.findIdx? fun r => Text.isBlankText r.uid).map
      (.referenceWithoutUid · d.id)).or <|
    if 1 < d.entities.countP Entity.isOwner then some (.severalOwners d.id) else none

def firstDefect? (seen : List String) : List Document → Option Defect
  | [] => none
  | d :: ds =>
    d.defect?.or <|
      if d.id ∈ seen then some (.repeatedId d.id) else firstDefect? (d.id :: seen) ds

end Document

/-- The first defect of a list of documents: of a document by itself, or an identifier that an
    earlier document bears. -/
def defect? (documents : List Document) : Option Defect := Document.firstDefect? [] documents

end Crosslink
