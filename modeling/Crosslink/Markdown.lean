import Crosslink.Payload
import Crosslink.Tag

set_option autoImplicit false

namespace Crosslink.Markdown

/-- A markdown link; an image has a `!` in front. -/
structure Link where
  image : Bool
  label : List Char
  target : List Char
  deriving DecidableEq

def Link.toText (l : Link) : List Char :=
  (if l.image then ['!'] else []) ++ '[' :: l.label ++ ']' :: '(' :: l.target ++ [')']

def isTargetChar (c : Char) : Bool := c != '(' && c != ')' && !Text.isBlank c

def parameters? (cs : List Char) : Option (List Char × List Char) :=
  (Payload.parenthesised? (cs.dropWhile Text.isBlank)).map fun (inner, rest) =>
    (cs.takeWhile Text.isBlank ++ '(' :: inner ++ [')'], rest)

/-- Reads a target and the parenthesis behind it. The target holds no blank and no parenthesis
    apart from one parameter list at its end. -/
def target? (cs : List Char) : Option (List Char × List Char) :=
  if (cs.takeWhile isTargetChar).isEmpty then none
  else
    match cs.dropWhile isTargetChar with
    | ')' :: rest => some (cs.takeWhile isTargetChar, rest)
    | after =>
      match parameters? after with
      | some (inner, ')' :: rest) => some (cs.takeWhile isTargetChar ++ inner, rest)
      | _ => none

def label? (image : Bool) : List Char → Option (Link × List Char)
  | '[' :: cs =>
    match cs.dropWhile fun c => c != '[' && c != ']' with
    | ']' :: '(' :: body =>
      (target? body).map fun (target, rest) =>
        (⟨image, cs.takeWhile fun c => c != '[' && c != ']', target⟩, rest)
    | _ => none
  | _ => none

def read? : List Char → Option (Link × List Char)
  | '!' :: cs => label? true cs
  | cs => label? false cs

theorem parameters?_eq_some {cs inner rest : List Char} (h : parameters? cs = some (inner, rest)) :
    cs = inner ++ rest := by
  obtain ⟨⟨body, after⟩, found, heq⟩ := Option.map_eq_some_iff.1 h
  simp only [Prod.mk.injEq] at heq
  obtain ⟨rfl, rfl⟩ := heq
  have blanks := (List.takeWhile_append_dropWhile (p := Text.isBlank) (l := cs)).symm
  rw [Payload.parenthesised?_eq_some found] at blanks
  simpa using blanks

theorem target?_eq_some {cs target rest : List Char} (h : target? cs = some (target, rest)) :
    cs = target ++ ')' :: rest := by
  have parts := (List.takeWhile_append_dropWhile (p := isTargetChar) (l := cs)).symm
  unfold target? at h
  split at h
  · cases h
  · split at h
    · rename_i found
      simp only [Option.some.injEq, Prod.mk.injEq] at h
      obtain ⟨rfl, rfl⟩ := h
      rwa [found] at parts
    · split at h
      · rename_i found
        simp only [Option.some.injEq, Prod.mk.injEq] at h
        obtain ⟨rfl, rfl⟩ := h
        rw [parameters?_eq_some found] at parts
        simpa using parts
      · cases h

theorem label?_eq_some {image : Bool} {cs rest : List Char} {l : Link}
    (h : label? image cs = some (l, rest)) :
    (if image then ['!'] else []) ++ cs = l.toText ++ rest := by
  unfold label? at h
  split at h
  · rename_i cs
    have parts :=
      (List.takeWhile_append_dropWhile (p := fun c => c != '[' && c != ']') (l := cs)).symm
    split at h
    · rename_i body opened
      obtain ⟨⟨target, rest'⟩, found, heq⟩ := Option.map_eq_some_iff.1 h
      simp only [Prod.mk.injEq] at heq
      obtain ⟨rfl, rfl⟩ := heq
      rw [opened, target?_eq_some found] at parts
      conv => lhs; rw [parts]
      simp [Link.toText]
    · cases h
  · cases h

theorem read?_eq_some {cs rest : List Char} {l : Link} (h : read? cs = some (l, rest)) :
    cs = l.toText ++ rest := by
  unfold read? at h
  split at h
  · simpa using label?_eq_some h
  · simpa using label?_eq_some h

theorem toText_ne_nil (l : Link) : l.toText ≠ [] := by simp [Link.toText]

inductive Piece where
  | char (c : Char)
  | link (l : Link)
  deriving DecidableEq

/-- Reads a text from the left: a link wherever one stands, else one character. -/
def pieces (cs : List Char) : List Piece :=
  match h : read? cs with
  | some (l, rest) =>
    have : rest.length < cs.length := by
      have hlen := congrArg List.length (read?_eq_some h)
      have hpos := List.length_pos_iff.2 (toText_ne_nil l)
      rw [List.length_append] at hlen
      omega
    .link l :: pieces rest
  | none =>
    match cs with
    | [] => []
    | c :: cs => .char c :: pieces cs
termination_by cs.length

/-- Whether a link becomes a tag: images and links to anything but a payload do not. -/
def Link.isSymbol (l : Link) : Bool := !l.image && (Payload.ofText? l.target).isSome

def Piece.normalize (s : Settings) : Piece → List Char
  | char c => [c]
  | link l => if l.isSymbol then s.link (Text.trimBoth l.target) l.label else l.toText

def Piece.isSymbol : Piece → Bool
  | char _ => false
  | link l => l.isSymbol

def normalize (s : Settings) (text : String) : String :=
  String.ofList ((pieces text.toList).flatMap (Piece.normalize s))

def symbolLinks (text : String) : Nat := (pieces text.toList).countP Piece.isSymbol

end Crosslink.Markdown
