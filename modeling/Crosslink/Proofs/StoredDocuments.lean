import Crosslink.Bundle.Source
import Mathlib.Data.List.Basic

set_option autoImplicit false

/-!
Documents read back from the trees they are stored as. What a format has to promise is that it reads
texts, flags, lists and records as they were written; that every document then comes back whole,
with its absent, empty and present fields told apart, is shown here once for all formats.
-/

namespace Crosslink

namespace Tree

def InOrder (names : List String) (fields : List (String × Tree)) : Prop :=
  (fields.map Prod.fst).Sublist names

theorem inOrder_optional {α : Type} (name : String) (toTree : α → Tree) (o : Option α) :
    InOrder [name] (optional name toTree o) := by
  cases o with
  | none => exact List.nil_sublist _
  | some value => exact List.Sublist.refl _

theorem inOrder_unlessEmpty {α : Type} (name : String) (toTree : α → Tree) (l : List α) :
    InOrder [name] (unlessEmpty name toTree l) := by
  cases l with
  | nil => exact List.nil_sublist _
  | cons value l => exact List.Sublist.refl _

theorem inOrder_self (fields : List (String × Tree)) : InOrder (fields.map Prod.fst) fields :=
  List.Sublist.refl _

theorem inOrder_unlessFalse (name : String) (b : Bool) :
    InOrder [name] (if b then [(name, flag true)] else []) := by
  cases b with
  | false => exact List.nil_sublist _
  | true => exact List.Sublist.refl _

theorem InOrder.append {names others : List String} {fields more : List (String × Tree)}
    (h : InOrder names fields) (h' : InOrder others more) :
    InOrder (names ++ others) (fields ++ more) := by
  rw [InOrder, List.map_append]
  exact List.Sublist.append h h'

@[simp]
theorem lookup_optional {α : Type} (key name : String) (toTree : α → Tree) (o : Option α) :
    (optional name toTree o).lookup key = if key = name then o.map toTree else none := by
  cases o with
  | none => simp [optional]
  | some value =>
    by_cases h : key = name
    · simp [optional, h]
    · simp [optional, h, List.lookup_cons, beq_eq_false_iff_ne.2 h]

@[simp]
theorem lookup_unlessEmpty {α : Type} (key name : String) (toTree : α → Tree) (l : List α) :
    (unlessEmpty name toTree l).lookup key =
      if key = name ∧ l ≠ [] then some (list (l.map toTree)) else none := by
  cases l with
  | nil => simp [unlessEmpty]
  | cons value l =>
    by_cases h : key = name
    · simp [unlessEmpty, h]
    · simp [unlessEmpty, h, List.lookup_cons, beq_eq_false_iff_ne.2 h]

@[simp]
theorem lookup_unlessFalse (key name : String) (b : Bool) :
    (if b then [(name, flag true)] else []).lookup key =
      if key = name ∧ b then some (flag true) else none := by
  cases b with
  | false => simp
  | true =>
    by_cases h : key = name
    · simp [h]
    · simp [h, List.lookup_cons, beq_eq_false_iff_ne.2 h]

end Tree

theorem Status.ofName?_name (status : Status) : ofName? status.name = some status := by
  cases status <;> decide

open Crosslink.Tree (inOrder_self inOrder_optional inOrder_unlessEmpty inOrder_unlessFalse)

namespace Source

variable {α β : Type}

structure Reads (src : Source Option α) (ofTree : Tree → α) : Prop where
  text : ∀ s, src.text (ofTree (.text s)) = some s
  flag : ∀ b, src.flag (ofTree (.flag b)) = some b
  present : ∀ t, src.present (ofTree t) = some (some (ofTree t))
  items : ∀ items, src.items (ofTree (.list items)) = some (items.map ofTree)
  fields : ∀ (names : List String) {t : Tree} {fields : List (String × Tree)},
    t = .record fields → names.Nodup → Tree.InOrder names fields →
      ∃ known, src.fields names (ofTree t) = some known ∧
        ∀ name, known.lookup name = (fields.lookup name).map ofTree
  choice : ∀ {names : List String} {word : String}, word ∈ names →
    src.choice names (ofTree (.text word)) = some word

theorem required_eq_some {name : String} {read : α → Option β} {fields : List (String × α)}
    {value : α} {b : β} (hfield : fields.lookup name = some value) (hread : read value = some b) :
    required name read fields = some b := by
  simp [required, hfield, hread]

theorem withDefault_eq_some {fallback : β} {name : String} {read : α → Option β}
    {fields : List (String × α)} {value : α} {b : β} (hfield : fields.lookup name = some value)
    (hread : read value = some b) : withDefault fallback name read fields = some b := by
  simp [withDefault, hfield, hread]

namespace Reads

variable {src : Source Option α} {ofTree : Tree → α} (h : src.Reads ofTree)

include h

theorem optional {name : String} {read : α → Option β} {fields : List (String × α)}
    {toTree : β → Tree} {o : Option β} (hfield : fields.lookup name = (o.map toTree).map ofTree)
    (hread : ∀ b, read (ofTree (toTree b)) = some b) : src.optional name read fields = some o := by
  cases o with
  | none => simp [Source.optional, hfield]
  | some b => simp [Source.optional, hfield, h.present, hread]

theorem listOf {read : α → Option β} {toTree : β → Tree}
    (hread : ∀ b, read (ofTree (toTree b)) = some b) (l : List β) :
    src.listOf read (ofTree (.list (l.map toTree))) = some l := by
  rw [Source.listOf, h.items]
  change ((l.map toTree).map ofTree).mapM read = some l
  induction l with
  | nil => rfl
  | cons b l ih =>
    rw [List.map_cons, List.map_cons, List.mapM_cons, hread, ih]
    rfl

theorem unlessEmpty {name : String} {read : α → Option β} {fields : List (String × α)}
    {toTree : β → Tree} {l : List β}
    (hfield : fields.lookup name =
      (if l = [] then none else some (.list (l.map toTree))).map ofTree)
    (hread : ∀ b, read (ofTree (toTree b)) = some b) :
    withDefault [] name (src.listOf read) fields = some l := by
  by_cases hl : l = []
  · simp [withDefault, hfield, hl]
  · rw [if_neg hl] at hfield
    exact withDefault_eq_some hfield (h.listOf hread l)

theorem unlessFalse {name : String} {fields : List (String × α)} {b : Bool}
    (hfield : fields.lookup name = (if b then some (.flag true) else none).map ofTree) :
    withDefault false name src.flag fields = some b := by
  cases b with
  | false => simp [withDefault, hfield]
  | true => exact withDefault_eq_some hfield (h.flag true)

theorem status (s : Status) : src.status (ofTree (.text s.name)) = some s := by
  have hname : s.name ∈ ["deprecated", "preview"] := by
    cases s <;> decide
  simp [Source.status, h.choice hname, Status.ofName?_name]

theorem parameter (p : Parameter) : src.parameter (ofTree p.toTree) = some p := by
  obtain ⟨known, hknown, hlookup⟩ := h.fields ["id", "type", "description"]
    (show p.toTree = .record _ from rfl) (by decide)
    (((inOrder_self [("id", .text p.id)]).append (inOrder_optional "type" _ _)).append
      (inOrder_optional "description" _ _))
  have hid : known.lookup "id" = some (ofTree (.text p.id)) := by
    simp [hlookup]
  have htype : known.lookup "type" = (p.type.map .text).map ofTree := by
    simp [hlookup, List.lookup_append, List.lookup_cons]
  have hdescription : known.lookup "description" = (p.description.map .text).map ofTree := by
    simp [hlookup, List.lookup_append, List.lookup_cons]
  rw [Source.parameter, hknown]
  simp only [Option.bind_eq_bind, Option.bind_some, required_eq_some hid (h.text p.id),
    h.optional htype h.text, h.optional hdescription h.text]
  rfl

theorem returnValue (r : ReturnValue) : src.returnValue (ofTree r.toTree) = some r := by
  obtain ⟨known, hknown, hlookup⟩ := h.fields ["type", "description"]
    (show r.toTree = .record _ from rfl) (by decide)
    ((inOrder_optional "type" _ _).append (inOrder_optional "description" _ _))
  have htype : known.lookup "type" = (r.type.map .text).map ofTree := by
    simp [hlookup, List.lookup_append]
  have hdescription : known.lookup "description" = (r.description.map .text).map ofTree := by
    simp [hlookup, List.lookup_append]
  rw [Source.returnValue, hknown]
  simp only [Option.bind_eq_bind, Option.bind_some, h.optional htype h.text,
    h.optional hdescription h.text]
  rfl

theorem exception (e : Exception) : src.exception (ofTree e.toTree) = some e := by
  obtain ⟨known, hknown, hlookup⟩ := h.fields ["type", "description"]
    (show e.toTree = .record _ from rfl) (by decide)
    ((inOrder_self [("type", .text e.type)]).append (inOrder_optional "description" _ _))
  have htype : known.lookup "type" = some (ofTree (.text e.type)) := by
    simp [hlookup]
  have hdescription : known.lookup "description" = (e.description.map .text).map ofTree := by
    simp [hlookup, List.lookup_cons]
  rw [Source.exception, hknown]
  simp only [Option.bind_eq_bind, Option.bind_some, required_eq_some htype (h.text e.type),
    h.optional hdescription h.text]
  rfl

theorem declaration (d : Declaration) : src.declaration (ofTree d.toTree) = some d := by
  obtain ⟨known, hknown, hlookup⟩ := h.fields ["parameters", "return", "exceptions"]
    (show d.toTree = .record _ from rfl) (by decide)
    (((inOrder_unlessEmpty "parameters" _ _).append (inOrder_optional "return" _ _)).append
      (inOrder_unlessEmpty "exceptions" _ _))
  have hparameters : known.lookup "parameters" =
      (if d.parameters = [] then none else some (.list (d.parameters.map Parameter.toTree))).map
        ofTree := by
    simp [hlookup, List.lookup_append]
  have hreturns : known.lookup "return" = (d.returns.map ReturnValue.toTree).map ofTree := by
    simp [hlookup, List.lookup_append]
  have hexceptions : known.lookup "exceptions" =
      (if d.exceptions = [] then none else some (.list (d.exceptions.map Exception.toTree))).map
        ofTree := by
    simp [hlookup, List.lookup_append]
  rw [Source.declaration, hknown]
  simp only [Option.bind_eq_bind, Option.bind_some, h.unlessEmpty hparameters h.parameter,
    h.optional hreturns h.returnValue, h.unlessEmpty hexceptions h.exception]
  rfl

theorem entity (e : Entity) : src.entity (ofTree e.toTree) = some e := by
  obtain ⟨known, hknown, hlookup⟩ := h.fields
    ["uid", "name", "nameWithType", "fullName", "href", "summary", "syntax", "isOwner", "status"]
    (show e.toTree = .record _ from rfl) (by decide)
    (((((((inOrder_self [("uid", .text e.uid), ("name", .text e.name),
      ("nameWithType", .text e.nameWithType)]).append
      (inOrder_optional "fullName" _ _)).append (inOrder_optional "href" _ _)).append
      (inOrder_optional "summary" _ _)).append (inOrder_optional "syntax" _ _)).append
      (inOrder_unlessFalse "isOwner" e.isOwner)).append (inOrder_optional "status" _ _))
  have huid : known.lookup "uid" = some (ofTree (.text e.uid)) := by
    simp [hlookup]
  have hname : known.lookup "name" = some (ofTree (.text e.name)) := by
    simp [hlookup, List.lookup_cons]
  have hnameWithType : known.lookup "nameWithType" = some (ofTree (.text e.nameWithType)) := by
    simp [hlookup, List.lookup_cons]
  have hfullName : known.lookup "fullName" = (e.fullName.map .text).map ofTree := by
    simp [hlookup, List.lookup_append, List.lookup_cons]
  have hhref : known.lookup "href" = (e.href.map .text).map ofTree := by
    simp [hlookup, List.lookup_append, List.lookup_cons]
  have hsummary : known.lookup "summary" = (e.summary.map .text).map ofTree := by
    simp [hlookup, List.lookup_append, List.lookup_cons]
  have hdeclaration : known.lookup "syntax" =
      (e.declaration.map Declaration.toTree).map ofTree := by
    simp [hlookup, List.lookup_append, List.lookup_cons]
  have hisOwner : known.lookup "isOwner" =
      (if e.isOwner then some (.flag true) else none).map ofTree := by
    simp [hlookup, List.lookup_append, List.lookup_cons]
  have hstatus : known.lookup "status" =
      (e.status.map fun status => Tree.text status.name).map ofTree := by
    simp [hlookup, List.lookup_append, List.lookup_cons]
  rw [Source.entity, hknown]
  simp only [Option.bind_eq_bind, Option.bind_some, required_eq_some huid (h.text e.uid),
    withDefault_eq_some hname (h.text e.name),
    withDefault_eq_some hnameWithType (h.text e.nameWithType), h.optional hfullName h.text,
    h.optional hhref h.text, h.optional hsummary h.text, h.optional hdeclaration h.declaration,
    h.unlessFalse hisOwner, h.optional hstatus h.status]
  rfl

theorem part (p : Part) : src.part (ofTree p.toTree) = some p := by
  obtain ⟨known, hknown, hlookup⟩ := h.fields ["uid", "name", "fullName"]
    (show p.toTree = .record _ from rfl) (by decide)
    ((inOrder_optional "uid" _ _).append
      (inOrder_self [("name", .text p.name), ("fullName", .text p.fullName)]))
  have huid : known.lookup "uid" = (p.uid.map .text).map ofTree := by
    simp [hlookup, List.lookup_append, List.lookup_cons]
  have hname : known.lookup "name" = some (ofTree (.text p.name)) := by
    simp [hlookup, List.lookup_append]
  have hfullName : known.lookup "fullName" = some (ofTree (.text p.fullName)) := by
    simp [hlookup, List.lookup_append, List.lookup_cons]
  rw [Source.part, hknown]
  simp only [Option.bind_eq_bind, Option.bind_some, h.optional huid h.text,
    required_eq_some hname (h.text p.name), required_eq_some hfullName (h.text p.fullName)]
  rfl

theorem reference (r : Reference) : src.reference (ofTree r.toTree) = some r := by
  obtain ⟨known, hknown, hlookup⟩ := h.fields ["uid", "name", "nameWithType", "fullName", "parts"]
    (show r.toTree = .record _ from rfl) (by decide)
    ((((inOrder_self [("uid", .text r.uid), ("name", .text r.name)]).append
      (inOrder_optional "nameWithType" _ _)).append (inOrder_optional "fullName" _ _)).append
      (inOrder_unlessEmpty "parts" _ _))
  have huid : known.lookup "uid" = some (ofTree (.text r.uid)) := by
    simp [hlookup]
  have hname : known.lookup "name" = some (ofTree (.text r.name)) := by
    simp [hlookup, List.lookup_cons]
  have hnameWithType : known.lookup "nameWithType" = (r.nameWithType.map .text).map ofTree := by
    simp [hlookup, List.lookup_append, List.lookup_cons]
  have hfullName : known.lookup "fullName" = (r.fullName.map .text).map ofTree := by
    simp [hlookup, List.lookup_append, List.lookup_cons]
  have hparts : known.lookup "parts" =
      (if r.parts = [] then none else some (.list (r.parts.map Part.toTree))).map ofTree := by
    simp [hlookup, List.lookup_append, List.lookup_cons]
  rw [Source.reference, hknown]
  simp only [Option.bind_eq_bind, Option.bind_some, required_eq_some huid (h.text r.uid),
    withDefault_eq_some hname (h.text r.name), h.optional hnameWithType h.text,
    h.optional hfullName h.text, h.unlessEmpty hparts h.part]
  rfl

theorem document (d : Document) : src.document (ofTree d.toTree) = some d := by
  obtain ⟨known, hknown, hlookup⟩ := h.fields ["id", "package", "entities", "references"]
    (show d.toTree = .record _ from rfl) (by decide) (inOrder_self _)
  have hid : known.lookup "id" = some (ofTree (.text d.id)) := by
    simp [hlookup]
  have hpackage : known.lookup "package" = some (ofTree (.text d.package)) := by
    simp [hlookup, List.lookup_cons]
  have hentities : known.lookup "entities" =
      some (ofTree (.list (d.entities.map Entity.toTree))) := by
    simp [hlookup, List.lookup_cons]
  have hreferences : known.lookup "references" =
      some (ofTree (.list (d.references.map Reference.toTree))) := by
    simp [hlookup, List.lookup_cons]
  rw [Source.document, hknown]
  simp only [Option.bind_eq_bind, Option.bind_some, required_eq_some hid (h.text d.id),
    withDefault_eq_some hpackage (h.text d.package),
    withDefault_eq_some hentities (h.listOf h.entity d.entities),
    withDefault_eq_some hreferences (h.listOf h.reference d.references)]
  rfl

theorem bundle (documents : List Document) :
    src.bundle (ofTree (bundleTree documents)) = some documents :=
  h.listOf h.document documents

end Reads

end Source

end Crosslink
