import Crosslink.Settings
import Crosslink.Text.Blank
import Crosslink.Text.Cut

set_option autoImplicit false

/-!
Link tags `<name uid="target" attributes>label</name>` inside a text. `pieces` reads a text as tags
and the characters between them, and writing the pieces gives the text back.
-/

namespace Crosslink

/-- A link tag apart from its name. `gap` is the blank space before `uid`. -/
structure Tag where
  gap : List Char := [' ']
  uid : List Char
  attributes : List Char := []
  label : List Char
  deriving DecidableEq

namespace Tag

def uidStart : List Char := ['u', 'i', 'd', '=', '"']

def closing (name : List Char) : List Char := '<' :: '/' :: name ++ ['>']

def toText (name : List Char) (t : Tag) : List Char :=
  '<' :: name ++ t.gap ++ uidStart ++ t.uid ++ '"' :: t.attributes ++ '>' :: t.label ++ closing name

def upTo? (stop : Char) : List Char → Option (List Char × List Char)
  | [] => none
  | c :: cs =>
    if c = stop then some ([], cs)
    else (upTo? stop cs).map fun (before, rest) => (c :: before, rest)

theorem upTo?_eq_some {stop : Char} {cs before rest : List Char}
    (h : upTo? stop cs = some (before, rest)) : cs = before ++ stop :: rest := by
  induction cs generalizing before with
  | nil => simp [upTo?] at h
  | cons c cs ih =>
    rw [upTo?] at h
    split at h
    · rename_i hc
      simp only [Option.some.injEq, Prod.mk.injEq] at h
      obtain ⟨rfl, rfl⟩ := h
      simp [hc]
    · obtain ⟨⟨before', rest'⟩, found, heq⟩ := Option.map_eq_some_iff.1 h
      simp only [Prod.mk.injEq] at heq
      obtain ⟨rfl, rfl⟩ := heq
      simp [ih found]

/-- Reads a tag at the start of a text: the target ends at the next quote, the attributes at the
    next `>`, the label at the next closing tag. -/
def read? (name cs : List Char) : Option (Tag × List Char) := do
  let afterName ← Text.dropStart? ('<' :: name) cs
  let gap := afterName.takeWhile Text.isBlank
  if gap.isEmpty then none
  else do
    let afterStart ← Text.dropStart? uidStart (afterName.dropWhile Text.isBlank)
    let (uid, afterUid) ← upTo? '"' afterStart
    let (attributes, afterOpening) ← upTo? '>' afterUid
    let (label, rest) ← Text.cutAt? (closing name) afterOpening
    some (⟨gap, uid, attributes, label⟩, rest)

theorem read?_eq_some {name cs rest : List Char} {t : Tag} (h : read? name cs = some (t, rest)) :
    cs = t.toText name ++ rest := by
  simp only [read?, Option.bind_eq_bind, Option.bind_eq_some_iff] at h
  obtain ⟨afterName, hname, h⟩ := h
  split at h
  · cases h
  · obtain ⟨afterStart, hstart, ⟨uid, afterUid⟩, huid, ⟨attributes, afterOpening⟩, hattributes,
      ⟨label, rest'⟩, hlabel, h⟩ := by
      simpa only [Option.bind_eq_some_iff] using h
    simp only [Option.some.injEq, Prod.mk.injEq] at h
    obtain ⟨rfl, rfl⟩ := h
    simp only at hattributes hlabel
    have gap := (List.takeWhile_append_dropWhile (p := Text.isBlank) (l := afterName)).symm
    rw [Text.dropStart?_eq_some hstart, upTo?_eq_some huid, upTo?_eq_some hattributes,
      Text.cutAt?_eq_some hlabel] at gap
    rw [Text.dropStart?_eq_some hname]
    conv => lhs; rw [gap]
    simp [toText]

theorem toText_ne_nil (name : List Char) (t : Tag) : t.toText name ≠ [] := by simp [toText]

inductive Piece where
  | char (c : Char)
  | tag (t : Tag)
  deriving DecidableEq

def Piece.toText (name : List Char) : Piece → List Char
  | char c => [c]
  | tag t => t.toText name

def Piece.tag? : Piece → Option Tag
  | char _ => none
  | tag t => some t

/-- Reads a text from the left: a tag wherever one stands, else one character. -/
def pieces (name cs : List Char) : List Piece :=
  match h : read? name cs with
  | some (t, rest) =>
    have : rest.length < cs.length := by
      have hlen := congrArg List.length (read?_eq_some h)
      have hpos := List.length_pos_iff.2 (toText_ne_nil name t)
      rw [List.length_append] at hlen
      omega
    .tag t :: pieces name rest
  | none =>
    match cs with
    | [] => []
    | c :: cs => .char c :: pieces name cs
termination_by cs.length

def ofPieces (name : List Char) (ps : List Piece) : List Char := ps.flatMap (·.toText name)

def all (name cs : List Char) : List Tag := (pieces name cs).filterMap Piece.tag?

def afterValue? (key cs : List Char) : Option (List Char) := do
  let value ← Text.dropStart? (key ++ ['=', '"']) cs
  let (_, rest) ← upTo? '"' value
  some rest

def afterAttribute? (key : List Char) : List Char → Option (List Char)
  | [] => none
  | c :: cs =>
    if Text.isBlank c then (afterAttribute? key cs).or (afterValue? key cs) else none

theorem length_afterValue?_le {key cs rest : List Char}
    (h : afterValue? key cs = some rest) : rest.length ≤ cs.length := by
  simp only [afterValue?, Option.bind_eq_bind, Option.bind_eq_some_iff] at h
  obtain ⟨value, hvalue, ⟨before, after⟩, hafter, h⟩ := h
  simp only [Option.some.injEq] at h
  have h1 := congrArg List.length (Text.dropStart?_eq_some hvalue)
  have h2 := congrArg List.length (upTo?_eq_some hafter)
  simp only [List.length_append, List.length_cons] at h1 h2
  subst h
  omega

theorem length_afterAttribute?_lt {key cs rest : List Char}
    (h : afterAttribute? key cs = some rest) : rest.length < cs.length := by
  induction cs with
  | nil => simp [afterAttribute?] at h
  | cons c cs ih =>
    rw [afterAttribute?] at h
    split at h
    · rcases Option.or_eq_some_iff.1 h with h | ⟨_, h⟩
      · have := ih h
        simp only [List.length_cons]
        omega
      · have := length_afterValue?_le h
        simp only [List.length_cons]
        omega
    · cases h

def withoutAttribute (key cs : List Char) : List Char :=
  match h : afterAttribute? key cs with
  | some rest =>
    have := length_afterAttribute?_lt h
    withoutAttribute key rest
  | none =>
    match cs with
    | [] => []
    | c :: cs => c :: withoutAttribute key cs
termination_by cs.length

end Tag

namespace Settings

def flag (s : Settings) : List Char := ' ' :: s.unresolvedAttribute.toList ++ "=\"false\"".toList

def link (s : Settings) (uid label : List Char) : List Char :=
  Tag.toText s.tagName.toList { uid := uid, label := label }

/-- A tag after resolution: an empty target is marked. -/
def resolvedLink (s : Settings) (uid label : List Char) : List Char :=
  Tag.toText s.tagName.toList
    { uid := uid, attributes := if uid.isEmpty then s.flag else [], label := label }

end Settings

end Crosslink
