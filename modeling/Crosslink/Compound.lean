import Crosslink.Document
import Crosslink.Name

set_option autoImplicit false

namespace Crosslink

inductive TypeToken where
  | name (text : List Char)
  | mark (text : List Char)
  deriving DecidableEq

namespace TypeToken

def text : TypeToken → List Char
  | name text => text
  | mark text => text

def name? : TypeToken → Option (List Char)
  | name text => some text
  | mark _ => none

inductive Separator where
  | openAngle
  | closeAngle
  | comma
  | array
  deriving DecidableEq

def Separator.text : Separator → List Char
  | openAngle => ['<']
  | closeAngle => ['>']
  | comma => [',']
  | array => ['[', ']']

def Separator.ofChar? (c : Char) : Option Separator :=
  if c = '<' then some openAngle
  else if c = '>' then some closeAngle
  else if c = ',' then some comma
  else none

/-- A text cut at its separators: the segment before the first one, then every separator with the
    segment behind it. -/
def segments : List Char → List Char × List (Separator × List Char)
  | [] => ([], [])
  | '[' :: ']' :: cs => ([], (.array, (segments cs).1) :: (segments cs).2)
  | c :: cs =>
    match Separator.ofChar? c with
    | some separator => ([], (separator, (segments cs).1) :: (segments cs).2)
    | none => (c :: (segments cs).1, (segments cs).2)

def takeBound (bound segment : List Char) : List TypeToken × List Char :=
  match Text.dropStart? bound segment with
  | some rest => ([mark bound], Text.trimBoth rest)
  | none => ([], segment)

def ofWord : List Char → List TypeToken
  | [] => []
  | c :: cs => if Name.isDotted (c :: cs) then [name (c :: cs)] else [mark (c :: cs)]

/-- The tokens of a segment: wildcard bounds, a word, and the dots of a variable argument. -/
def ofSegment (cs : List Char) : List TypeToken :=
  let (upper, afterUpper) := takeBound "? extends ".toList (Text.trimBoth cs)
  let (lower, word) := takeBound "? super ".toList afterUpper
  let ending :=
    match Text.dropEnding? "...".toList word with
    | some rest => ofWord (Text.trimEnd rest) ++ [mark "...".toList]
    | none => ofWord word
  upper ++ lower ++ ending

def ofText (cs : List Char) : List TypeToken :=
  ofSegment (segments cs).1
    ++ (segments cs).2.flatMap fun (separator, segment) => mark separator.text :: ofSegment segment

def toPart : TypeToken → Part
  | name text =>
    { uid := some (String.ofList text)
      name := String.ofList (Name.simple text)
      fullName := String.ofList text }
  | mark text => { name := String.ofList text, fullName := String.ofList text }

end TypeToken

def namedTypes (uid : String) : List String :=
  (TypeToken.ofText uid.toList).filterMap fun token => token.name?.map String.ofList

/-- Whether an identifier is a compound type. Overload wildcards never are. -/
def isCompoundType (uid : String) : Bool := uid.toList.contains '<' && !isOverloadWildcard uid

def typeParts (uid : String) : List Part := (TypeToken.ofText uid.toList).map TypeToken.toPart

def missingFrom (known : List String) : List String → List String
  | [] => []
  | uid :: uids =>
    if uid ∈ known then missingFrom known uids else uid :: missingFrom (uid :: known) uids

namespace Reference

def toPlain (uid : String) : Reference :=
  let name := String.ofList (Name.simple uid.toList)
  { uid := uid, name := name, nameWithType := some name, fullName := some uid }

def toCompound (uid : String) : Reference :=
  { uid := uid
    name := String.join ((typeParts uid).map Part.name)
    fullName := some uid
    parts := typeParts uid }

def toType (uid : String) : Reference :=
  if isCompoundType uid then toCompound uid else toPlain uid

def namedTypes (r : Reference) : List String :=
  if isCompoundType r.uid then Crosslink.namedTypes r.uid else []

def withParts (r : Reference) : Reference :=
  if isCompoundType r.uid then { r with parts := typeParts r.uid } else r

end Reference

namespace Document

/-- The types named in declarations that can be linked: those with a dot, so that primitive types
    and type variables are left out. -/
def declaredTypes (d : Document) : List String :=
  ((d.entities.filterMap Entity.declaration).flatMap Declaration.types).map Text.trim
    |>.filter fun uid => uid.toList.contains '.'

def mentionTypes (d : Document) : Document :=
  { d with
    references := d.references ++ (missingFrom d.knownUids d.declaredTypes).map Reference.toType }

def missingTypes (d : Document) : List String :=
  missingFrom d.knownUids (d.references.flatMap Reference.namedTypes)

/-- The document with the parts of its compound references, and a plain reference for every type
    they name that it does not know yet. -/
def expandTypes (d : Document) : Document :=
  { d with
    references := d.references.map Reference.withParts ++ d.missingTypes.map Reference.toPlain }

end Document

end Crosslink
