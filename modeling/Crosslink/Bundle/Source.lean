import Crosslink.Bundle.Tree

set_option autoImplicit false

/-!
Reading documents back from a data format. A format says how its values are read as texts, flags,
lists and records; which fields a record has, and what stands in for a missing one, is said here
once for all formats.
-/

namespace Crosslink

/-- How the values `α` of a format are read. Reading fails on a value of another kind. -/
structure Source (m : Type → Type) (α : Type) where
  text : α → m String
  flag : α → m Bool
  present : α → m (Option α)
  items : α → m (List α)
  /-- The fields of a record among the given ones, each at most once; all others are dropped. -/
  fields : List String → α → m (List (String × α))
  choice : List String → α → m String

namespace Source

variable {m : Type → Type} [Monad m] [MonadExceptOf Unit m] {α : Type}

def required {β : Type} (name : String) (read : α → m β) (fields : List (String × α)) : m β :=
  match fields.lookup name with
  | some value => read value
  | none => throw ()

def optional {β : Type} (src : Source m α) (name : String) (read : α → m β)
    (fields : List (String × α)) : m (Option β) :=
  match fields.lookup name with
  | some value => do
    match ← src.present value with
    | some value => return some (← read value)
    | none => return none
  | none => pure none

def withDefault {β : Type} (fallback : β) (name : String) (read : α → m β)
    (fields : List (String × α)) : m β :=
  match fields.lookup name with
  | some value => read value
  | none => pure fallback

def listOf {β : Type} (src : Source m α) (read : α → m β) (value : α) : m (List β) := do
  (← src.items value).mapM read

def status (src : Source m α) (value : α) : m Status := do
  match Status.ofName? (← src.choice ["deprecated", "preview"] value) with
  | some status => return status
  | none => throw ()

def parameter (src : Source m α) (value : α) : m Parameter := do
  let fields ← src.fields ["id", "type", "description"] value
  return {
    id := ← required "id" src.text fields
    type := ← src.optional "type" src.text fields
    description := ← src.optional "description" src.text fields }

def returnValue (src : Source m α) (value : α) : m ReturnValue := do
  let fields ← src.fields ["type", "description"] value
  return {
    type := ← src.optional "type" src.text fields
    description := ← src.optional "description" src.text fields }

def exception (src : Source m α) (value : α) : m Exception := do
  let fields ← src.fields ["type", "description"] value
  return {
    type := ← required "type" src.text fields
    description := ← src.optional "description" src.text fields }

def declaration (src : Source m α) (value : α) : m Declaration := do
  let fields ← src.fields ["parameters", "return", "exceptions"] value
  return {
    parameters := ← withDefault [] "parameters" (src.listOf src.parameter) fields
    returns := ← src.optional "return" src.returnValue fields
    exceptions := ← withDefault [] "exceptions" (src.listOf src.exception) fields }

def entity (src : Source m α) (value : α) : m Entity := do
  let fields ← src.fields
    ["uid", "name", "nameWithType", "fullName", "href", "summary", "syntax", "isOwner", "status"]
    value
  return {
    uid := ← required "uid" src.text fields
    name := ← withDefault "" "name" src.text fields
    nameWithType := ← withDefault "" "nameWithType" src.text fields
    fullName := ← src.optional "fullName" src.text fields
    href := ← src.optional "href" src.text fields
    summary := ← src.optional "summary" src.text fields
    declaration := ← src.optional "syntax" src.declaration fields
    isOwner := ← withDefault false "isOwner" src.flag fields
    status := ← src.optional "status" src.status fields }

def part (src : Source m α) (value : α) : m Part := do
  let fields ← src.fields ["uid", "name", "fullName"] value
  return {
    uid := ← src.optional "uid" src.text fields
    name := ← required "name" src.text fields
    fullName := ← required "fullName" src.text fields }

def reference (src : Source m α) (value : α) : m Reference := do
  let fields ← src.fields ["uid", "name", "nameWithType", "fullName", "parts"] value
  return {
    uid := ← required "uid" src.text fields
    name := ← withDefault "" "name" src.text fields
    nameWithType := ← src.optional "nameWithType" src.text fields
    fullName := ← src.optional "fullName" src.text fields
    parts := ← withDefault [] "parts" (src.listOf src.part) fields }

def document (src : Source m α) (value : α) : m Document := do
  let fields ← src.fields ["id", "package", "entities", "references"] value
  return {
    id := ← required "id" src.text fields
    package := ← withDefault "" "package" src.text fields
    entities := ← withDefault [] "entities" (src.listOf src.entity) fields
    references := ← withDefault [] "references" (src.listOf src.reference) fields }

def bundle (src : Source m α) (value : α) : m (List Document) := src.listOf src.document value

end Source

end Crosslink
