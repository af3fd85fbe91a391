import Mathlib.Data.Bool.AllAny
import Crosslink.Proofs.ClassAndMember
import Crosslink.Proofs.Signatures

set_option autoImplicit false

/-!
Parameter lists without the names of their parameters. Two scans look at the brackets of a list: one
cuts it at commas, the other finds the blank in front of a name. On types whose brackets are paired
both agree on what stands outside them, so that the types are all that is left.
-/

namespace Crosslink.Signature

open Angles

/-- The text of a type. Its brackets are paired, it has no parentheses, and neither blanks nor
    commas stand outside the brackets. -/
structure ParameterType where
  text : List Char
  ne_nil : text ≠ []
  isBalanced : IsBalanced text
  no_parens : '(' ∉ text ∧ ')' ∉ text
  outside : ∀ c ∈ withoutGenerics text, Text.isBlank c = false ∧ c ≠ ','

structure ParameterName where
  text : List Char
  no_blanks : ∀ c ∈ text, Text.isBlank c = false
  plain : ∀ c ∈ text, c ∉ [',', '<', '>', '(', ')']

/-- A text that declares a parameter of a type: any blanks around it, and a name behind the type or
    none. -/
inductive Declares (type : ParameterType) : List Char → Prop where
  | bare {before after : List Char} (hbefore : ∀ c ∈ before, Text.isBlank c = true)
      (hafter : ∀ c ∈ after, Text.isBlank c = true) :
      Declares type (before ++ (type.text ++ after))
  | named {before gap after : List Char} (hbefore : ∀ c ∈ before, Text.isBlank c = true)
      (hgap : ∀ c ∈ gap, Text.isBlank c = true) (hne : gap ≠ [])
      (hafter : ∀ c ∈ after, Text.isBlank c = true) (name : ParameterName) :
      Declares type (before ++ (type.text ++ (gap ++ (name.text ++ after))))

@[simp] theorem outsideGenerics_open (depth : Nat) (cs : List Char) :
    outsideGenerics depth ('<' :: cs) = outsideGenerics (depth + 1) cs := by
  simp [outsideGenerics]

@[simp] theorem outsideGenerics_close (depth : Nat) (cs : List Char) :
    outsideGenerics (depth + 1) ('>' :: cs) = outsideGenerics depth cs := by
  simp [outsideGenerics]

theorem outsideGenerics_zero {c : Char} (hopen : c ≠ '<') (cs : List Char) :
    outsideGenerics 0 (c :: cs) = c :: outsideGenerics 0 cs := by
  simp [outsideGenerics]

theorem outsideGenerics_succ {c : Char} (hopen : c ≠ '<') (hclose : c ≠ '>') (depth : Nat)
    (cs : List Char) : outsideGenerics (depth + 1) (c :: cs) = outsideGenerics (depth + 1) cs := by
  simp [outsideGenerics]

theorem outsideGenerics_append {depth depth' : Nat} {xs : List Char}
    (h : depth? depth xs = some depth') (ys : List Char) :
    outsideGenerics depth (xs ++ ys) = outsideGenerics depth xs ++ outsideGenerics depth' ys := by
  induction xs generalizing depth with
  | nil =>
    cases h
    simp [outsideGenerics]
  | cons c xs ih =>
    rw [List.cons_append]
    rcases angle_cases c with rfl | rfl | ⟨hopen, hclose⟩
    · rw [depth?_open] at h
      rw [outsideGenerics_open, outsideGenerics_open, ih h]
    · cases depth with
      | zero => simp at h
      | succ depth =>
        rw [depth?_close] at h
        rw [outsideGenerics_close, outsideGenerics_close, ih h]
    · rw [depth?_other hopen hclose] at h
      cases depth with
      | zero => rw [outsideGenerics_zero hopen, outsideGenerics_zero hopen, ih h, List.cons_append]
      | succ depth =>
        rw [outsideGenerics_succ hopen hclose, outsideGenerics_succ hopen hclose, ih h]

theorem withoutGenerics_of_not_mem {cs : List Char} (h : '<' ∉ cs) : withoutGenerics cs = cs := by
  induction cs with
  | nil => rfl
  | cons c cs ih =>
    simp only [List.mem_cons, not_or] at h
    rw [withoutGenerics, outsideGenerics_zero (Ne.symm h.1)]
    exact congrArg (c :: ·) (ih h.2)

def deeper (depth : Int) (c : Char) : Int :=
  if c = '<' then depth + 1 else if c = '>' then depth - 1 else depth

/-- A scan that stops only outside brackets, and counts these, goes over a text without stops
    outside its brackets character by character. -/
theorem scan_append {α : Type} {F : Int → List Char → α} {P : Char → α → α} {stops : Char → Prop}
    (hangles : ¬stops '<' ∧ ¬stops '>')
    (hcons : ∀ (depth : Int) (c : Char) (cs : List Char), 0 ≤ depth → ¬(stops c ∧ depth = 0) →
      F depth (c :: cs) = P c (F (deeper depth c) cs))
    {depth depth' : Nat} {xs : List Char} (h : depth? depth xs = some depth')
    (hstops : ∀ c ∈ outsideGenerics depth xs, ¬stops c) (ys : List Char) :
    F depth (xs ++ ys) = xs.foldr P (F depth' ys) := by
  induction xs generalizing depth with
  | nil =>
    cases h
    rfl
  | cons c xs ih =>
    rw [List.cons_append, List.foldr_cons]
    rcases angle_cases c with rfl | rfl | ⟨hopen, hclose⟩
    · rw [depth?_open] at h
      rw [outsideGenerics_open] at hstops
      rw [hcons _ _ _ (by omega) fun hstop => hangles.1 hstop.1, deeper, if_pos rfl]
      exact congrArg (P '<') (ih h hstops)
    · cases depth with
      | zero => simp at h
      | succ depth =>
        rw [depth?_close] at h
        rw [outsideGenerics_close] at hstops
        rw [hcons _ _ _ (by omega) fun hstop => hangles.2 hstop.1, deeper, if_neg (by decide),
          if_pos rfl, Int.natCast_succ, Int.add_sub_cancel]
        exact congrArg (P '>') (ih h hstops)
    · rw [depth?_other hopen hclose] at h
      have hinside : ¬(stops c ∧ (depth : Int) = 0) := by
        rintro ⟨hstop, hdepth⟩
        obtain rfl : depth = 0 := by omega
        exact hstops c (by simp [outsideGenerics_zero hopen]) hstop
      have hrest : ∀ d ∈ outsideGenerics depth xs, ¬stops d := by
        cases depth with
        | zero => exact fun d hd => hstops d (by simp [outsideGenerics_zero hopen, hd])
        | succ depth => rwa [outsideGenerics_succ hopen hclose] at hstops
      rw [hcons _ _ _ (by omega) hinside, deeper, if_neg hopen, if_neg hclose]
      exact congrArg (P c) (ih h hrest)

structure IsPiece (cs : List Char) : Prop where
  isBalanced : IsBalanced cs
  comma : ',' ∉ withoutGenerics cs

theorem IsPiece.append {xs ys : List Char} (hxs : IsPiece xs) (hys : IsPiece ys) :
    IsPiece (xs ++ ys) := by
  have hbalanced : IsBalanced (xs ++ ys) := by
    rw [IsBalanced, depth?_append, hxs.isBalanced]
    exact hys.isBalanced
  refine ⟨hbalanced, ?_⟩
  rw [withoutGenerics, outsideGenerics_append hxs.isBalanced]
  simpa using ⟨hxs.comma, hys.comma⟩

theorem isPiece_of_not_mem {cs : List Char} (hopen : '<' ∉ cs) (hclose : '>' ∉ cs)
    (hcomma : ',' ∉ cs) : IsPiece cs :=
  ⟨isBalanced_of_not_mem hopen hclose, by rwa [withoutGenerics_of_not_mem hopen]⟩

theorem splitFrom_ne_nil (depth : Int) (cs : List Char) : splitFrom depth cs ≠ [] := by
  cases cs with
  | nil => simp [splitFrom]
  | cons c cs =>
    rw [splitFrom]
    split
    · simp
    · dsimp only
      cases splitFrom (if c = '<' then depth + 1 else if c = '>' then depth - 1 else depth) cs <;>
        simp

theorem splitFrom_comma {depth : Int} (h : depth ≤ 0) (cs : List Char) :
    splitFrom depth (',' :: cs) = [] :: splitFrom depth cs := by
  rw [splitFrom, if_pos ⟨rfl, h⟩]

theorem splitFrom_cons {depth : Int} {c : Char} (h : ¬(c = ',' ∧ depth ≤ 0)) (cs : List Char) :
    splitFrom depth (c :: cs) = (splitFrom (deeper depth c) cs).modifyHead (c :: ·) := by
  obtain ⟨piece, pieces, hpieces⟩ :=
    List.exists_cons_of_ne_nil (splitFrom_ne_nil (deeper depth c) cs)
  rw [hpieces]
  rw [deeper] at hpieces
  rw [splitFrom, if_neg h]
  simp only [hpieces, List.modifyHead_cons]

theorem foldr_modifyHead_cons (cs first : List Char) (more : List (List Char)) :
    cs.foldr (fun c => List.modifyHead (c :: ·)) (first :: more) = (cs ++ first) :: more := by
  induction cs with
  | nil => rfl
  | cons c cs ih => rw [List.foldr_cons, ih, List.modifyHead_cons, List.cons_append]

theorem IsPiece.splitFrom_append {piece : List Char} (h : IsPiece piece) {cs first : List Char}
    {more : List (List Char)} (hcs : splitFrom 0 cs = first :: more) :
    splitFrom 0 (piece ++ cs) = (piece ++ first) :: more := by
  have hscan := scan_append (F := splitFrom) (P := fun c => List.modifyHead (c :: ·)) (by decide)
    (fun depth c cs hdepth hstop => splitFrom_cons (fun hc => hstop ⟨hc.1, by omega⟩) cs)
    h.isBalanced (fun c hc hcomma => h.comma (hcomma ▸ hc)) cs
  rwa [Int.natCast_zero, hcs, foldr_modifyHead_cons] at hscan

/-- Pieces joined by commas are found again. -/
theorem splitParameters_intercalate {pieces : List (List Char)} (hne : pieces ≠ [])
    (h : ∀ piece ∈ pieces, IsPiece piece) :
    splitParameters ([','].intercalate pieces) = pieces := by
  induction pieces with
  | nil => exact absurd rfl hne
  | cons piece pieces ih =>
    obtain ⟨hpiece, hmore⟩ := List.forall_mem_cons.1 h
    cases pieces with
    | nil =>
      have hlast : splitFrom 0 (piece ++ []) = [piece ++ []] := hpiece.splitFrom_append rfl
      simpa [splitParameters, List.intercalate_singleton] using hlast
    | cons second pieces =>
      rw [List.intercalate_cons_cons, List.append_assoc, List.singleton_append, splitParameters,
        hpiece.splitFrom_append (splitFrom_comma (Int.le_refl 0) _), List.append_nil]
      exact congrArg (piece :: ·) (ih (List.cons_ne_nil _ _) hmore)

theorem beforeLastBlank?_cons {depth : Int} {c : Char} (h : ¬(Text.isBlank c = true ∧ depth = 0))
    (cs : List Char) :
    beforeLastBlank? depth (c :: cs) = (beforeLastBlank? (deeper depth c) cs).map (c :: ·) := by
  rw [beforeLastBlank?, deeper]
  cases beforeLastBlank?
    (if c = '<' then depth + 1 else if c = '>' then depth - 1 else depth) cs with
  | none => exact if_neg h
  | some before => rfl

theorem foldr_map_cons (cs : List Char) (o : Option (List Char)) :
    cs.foldr (fun c => Option.map (c :: ·)) o = o.map (cs ++ ·) := by
  induction cs with
  | nil => simp
  | cons c cs ih =>
    rw [List.foldr_cons, ih, Option.map_map]
    rfl

theorem beforeLastBlank?_append {xs : List Char} (h : IsBalanced xs)
    (hblank : ∀ c ∈ withoutGenerics xs, Text.isBlank c = false) (ys : List Char) :
    beforeLastBlank? 0 (xs ++ ys) = (beforeLastBlank? 0 ys).map (xs ++ ·) := by
  have hscan := scan_append (F := beforeLastBlank?) (P := fun c => Option.map (c :: ·)) (by decide)
    (fun depth c cs _ hstop => beforeLastBlank?_cons hstop cs) h
    (fun c hc hstop => by rw [hblank c hc] at hstop; cases hstop) ys
  rwa [Int.natCast_zero, foldr_map_cons] at hscan

theorem beforeLastBlank?_blank {c : Char} (h : Text.isBlank c = true) (cs : List Char) :
    beforeLastBlank? 0 (c :: cs) = ((beforeLastBlank? 0 cs).map (c :: ·)).or (some []) := by
  rw [beforeLastBlank?, if_neg (Text.ne_of_isBlank h (by decide)),
    if_neg (Text.ne_of_isBlank h (by decide))]
  cases beforeLastBlank? 0 cs with
  | none => simp [h]
  | some before => rfl

theorem beforeLastBlank?_blanks {blanks ys before : List Char}
    (h : ∀ c ∈ blanks, Text.isBlank c = true) (hys : beforeLastBlank? 0 ys = some before) :
    beforeLastBlank? 0 (blanks ++ ys) = some (blanks ++ before) := by
  induction blanks with
  | nil => exact hys
  | cons c blanks ih =>
    obtain ⟨hc, hblanks⟩ := List.forall_mem_cons.1 h
    rw [List.cons_append, beforeLastBlank?_blank hc, ih hblanks]
    rfl

namespace ParameterName

variable (name : ParameterName)

theorem not_mem {c : Char} (h : c ∈ [',', '<', '>', '(', ')']) : c ∉ name.text :=
  fun hmem => name.plain c hmem h

theorem beforeLastBlank?_eq {blank : Char} (h : Text.isBlank blank = true) :
    beforeLastBlank? 0 (blank :: name.text) = some [] := by
  have hopen : '<' ∉ name.text := name.not_mem (by decide)
  have hclose : '>' ∉ name.text := name.not_mem (by decide)
  have hnone := beforeLastBlank?_append (isBalanced_of_not_mem hopen hclose)
    (by rw [withoutGenerics_of_not_mem hopen]; exact name.no_blanks) []
  rw [List.append_nil, beforeLastBlank?, Option.map_none] at hnone
  rw [beforeLastBlank?_blank h, hnone]
  rfl

end ParameterName

namespace ParameterType

variable (type : ParameterType)

theorem isBlank_of_mem_head? : ∀ c ∈ type.text.head?, Text.isBlank c = false := by
  obtain ⟨text, hne, -, -, houtside⟩ := type
  cases text with
  | nil => exact absurd rfl hne
  | cons c cs =>
    rintro d ⟨⟩
    rcases angle_cases c with rfl | rfl | ⟨hopen, -⟩
    · decide
    · decide
    · exact (houtside c (by simp [withoutGenerics, outsideGenerics_zero hopen])).1

theorem isBlank_of_mem_getLast? : ∀ c ∈ type.text.getLast?, Text.isBlank c = false := by
  intro c hc
  obtain ⟨most, hmost⟩ := List.getLast?_eq_some_iff.1 hc
  rcases angle_cases c with rfl | rfl | ⟨hopen, hclose⟩
  · decide
  · decide
  · -- The brackets are closed before a last character that is no bracket.
    have hbalanced := type.isBalanced
    rw [hmost, IsBalanced, depth?_append] at hbalanced
    obtain ⟨depth, hdepth, hlast⟩ := Option.bind_eq_some_iff.1 hbalanced
    rw [depth?_other hopen hclose] at hlast
    cases hlast
    refine (type.outside c ?_).1
    rw [hmost, withoutGenerics, outsideGenerics_append hdepth, outsideGenerics_zero hopen]
    simp

theorem trimBoth_append {more : List Char}
    (hmore : ∀ c ∈ (type.text ++ more).getLast?, Text.isBlank c = false) :
    Text.trimBoth (type.text ++ more) = type.text ++ more := by
  refine Text.trimBoth_eq_self ?_ hmore
  intro c hc
  apply type.isBlank_of_mem_head?
  obtain ⟨d, cs, htext⟩ := List.exists_cons_of_ne_nil type.ne_nil
  rw [htext] at hc ⊢
  exact hc

theorem trimBoth_text : Text.trimBoth type.text = type.text :=
  Text.trimBoth_eq_self type.isBlank_of_mem_head? type.isBlank_of_mem_getLast?

theorem trimEnd_text : Text.trimEnd type.text = type.text := by
  conv => lhs; rw [← type.trimBoth_text]
  rw [Text.trimBoth, Text.trimEnd_trimEnd, ← Text.trimBoth, type.trimBoth_text]

theorem beforeLastBlank?_append (ys : List Char) :
    beforeLastBlank? 0 (type.text ++ ys) = (beforeLastBlank? 0 ys).map (type.text ++ ·) :=
  Signature.beforeLastBlank?_append type.isBalanced (fun c hc => (type.outside c hc).1) ys

theorem parameterType_bare {before after : List Char}
    (hbefore : ∀ c ∈ before, Text.isBlank c = true)
    (hafter : ∀ c ∈ after, Text.isBlank c = true) :
    parameterType (before ++ (type.text ++ after)) = type.text := by
  have hnone := type.beforeLastBlank?_append []
  rw [List.append_nil, beforeLastBlank?, Option.map_none] at hnone
  rw [parameterType, Text.trimBoth_between hbefore hafter, type.trimBoth_text, hnone]

theorem trimBoth_named {before gap after : List Char}
    (hbefore : ∀ c ∈ before, Text.isBlank c = true) (hafter : ∀ c ∈ after, Text.isBlank c = true)
    {name : ParameterName} (hname : name.text ≠ []) :
    Text.trimBoth (before ++ (type.text ++ (gap ++ (name.text ++ after)))) =
      type.text ++ (gap ++ name.text) := by
  have hlast : ∀ c ∈ (type.text ++ (gap ++ name.text)).getLast?, Text.isBlank c = false := by
    intro c hc
    rw [← List.append_assoc, List.getLast?_append_of_ne_nil _ hname] at hc
    exact name.no_blanks c (List.mem_of_getLast? hc)
  have hbetween := Text.trimBoth_between hbefore hafter (type.text ++ (gap ++ name.text))
  rw [type.trimBoth_append hlast] at hbetween
  simpa using hbetween

theorem beforeLastBlank?_named {blanks : List Char} (hblanks : ∀ c ∈ blanks, Text.isBlank c = true)
    {blank : Char} (hblank : Text.isBlank blank = true) (name : ParameterName) :
    beforeLastBlank? 0 (type.text ++ (blanks ++ [blank] ++ name.text)) =
      some (type.text ++ blanks) := by
  have hgap := beforeLastBlank?_blanks hblanks (name.beforeLastBlank?_eq hblank)
  rw [List.append_nil] at hgap
  rw [type.beforeLastBlank?_append, List.append_assoc, List.singleton_append, hgap]
  rfl

theorem parameterType_named {before gap after : List Char}
    (hbefore : ∀ c ∈ before, Text.isBlank c = true) (hgap : ∀ c ∈ gap, Text.isBlank c = true)
    (hne : gap ≠ []) (hafter : ∀ c ∈ after, Text.isBlank c = true) (name : ParameterName) :
    parameterType (before ++ (type.text ++ (gap ++ (name.text ++ after)))) = type.text := by
  by_cases hname : name.text = []
  · rw [hname, List.nil_append]
    exact type.parameterType_bare hbefore (List.forall_mem_append.2 ⟨hgap, hafter⟩)
  · -- The name goes with the last blank of the gap, the others with the end of what is left.
    obtain ⟨blanks, blank, rfl⟩ := (List.eq_nil_or_concat gap).resolve_left hne
    rw [List.concat_eq_append] at hgap ⊢
    obtain ⟨hblanks, hblank⟩ := List.forall_mem_append.1 hgap
    rw [parameterType, type.trimBoth_named hbefore hafter hname,
      type.beforeLastBlank?_named hblanks (hblank blank List.mem_cons_self)]
    simp only
    rw [Text.trimEnd_append_blanks hblanks, type.trimEnd_text]

theorem isPiece : IsPiece type.text :=
  ⟨type.isBalanced, fun hcomma => (type.outside ',' hcomma).2 rfl⟩

end ParameterType

theorem isPiece_of_isBlank {blanks : List Char} (h : ∀ c ∈ blanks, Text.isBlank c = true) :
    IsPiece blanks :=
  isPiece_of_not_mem (Text.not_mem_of_isBlank h (by decide)) (Text.not_mem_of_isBlank h (by decide))
    (Text.not_mem_of_isBlank h (by decide))

theorem ParameterName.isPiece (name : ParameterName) : IsPiece name.text :=
  isPiece_of_not_mem (name.not_mem (by decide)) (name.not_mem (by decide))
    (name.not_mem (by decide))

namespace Declares

variable {type : ParameterType} {cs : List Char}

theorem parameterType_eq (h : Declares type cs) : parameterType cs = type.text := by
  cases h with
  | bare hbefore hafter => exact type.parameterType_bare hbefore hafter
  | named hbefore hgap hne hafter name =>
    exact type.parameterType_named hbefore hgap hne hafter name

theorem isPiece (h : Declares type cs) : IsPiece cs := by
  cases h with
  | bare hbefore hafter =>
    exact (isPiece_of_isBlank hbefore).append (type.isPiece.append (isPiece_of_isBlank hafter))
  | named hbefore hgap hne hafter name =>
    have hname := name.isPiece.append (isPiece_of_isBlank hafter)
    have htype := type.isPiece.append ((isPiece_of_isBlank hgap).append hname)
    exact (isPiece_of_isBlank hbefore).append htype

theorem not_mem (h : Declares type cs) {c : Char} (hblank : Text.isBlank c = false)
    (hplain : c ∈ [',', '<', '>', '(', ')']) (htype : c ∉ type.text) : c ∉ cs := by
  cases h with
  | bare hbefore hafter =>
    simp [htype, Text.not_mem_of_isBlank hbefore hblank, Text.not_mem_of_isBlank hafter hblank]
  | named hbefore hgap hne hafter name =>
    simp [htype, Text.not_mem_of_isBlank hbefore hblank, Text.not_mem_of_isBlank hgap hblank,
      Text.not_mem_of_isBlank hafter hblank, name.not_mem hplain]

theorem exists_not_isBlank (h : Declares type cs) : ∃ c ∈ cs, Text.isBlank c = false := by
  obtain ⟨c, more, htext⟩ := List.exists_cons_of_ne_nil type.ne_nil
  have hc : c ∈ cs := by
    cases h <;> simp [htext]
  exact ⟨c, hc, type.isBlank_of_mem_head? c (by simp [htext])⟩

end Declares

section

variable {types : List ParameterType} {texts : List (List Char)}

theorem isPiece_of_forall₂ (h : List.Forall₂ Declares types texts) :
    ∀ text ∈ texts, IsPiece text := by
  induction h with
  | nil => simp
  | cons hfirst _ ih => exact List.forall_mem_cons.2 ⟨hfirst.isPiece, ih⟩

theorem map_parameterType (h : List.Forall₂ Declares types texts) :
    texts.map parameterType = types.map ParameterType.text := by
  induction h with
  | nil => rfl
  | cons hfirst _ ih => rw [List.map_cons, List.map_cons, hfirst.parameterType_eq, ih]

theorem not_mem_intercalate (h : List.Forall₂ Declares types texts) {c : Char}
    (hblank : Text.isBlank c = false) (hplain : c ∈ [',', '<', '>', '(', ')']) (hcomma : c ≠ ',')
    (htypes : ∀ type ∈ types, c ∉ type.text) : c ∉ [','].intercalate texts := by
  induction h with
  | nil => simp
  | @cons type text types texts hfirst hmore ih =>
    obtain ⟨htype, htypes⟩ := List.forall_mem_cons.1 htypes
    have htext := hfirst.not_mem hblank hplain htype
    cases texts with
    | nil => rwa [List.intercalate_singleton]
    | cons second texts =>
      rw [List.intercalate_cons_cons]
      simp [htext, hcomma, ih htypes]

theorem exists_not_isBlank_intercalate (h : List.Forall₂ Declares types texts) (hne : texts ≠ []) :
    ∃ c ∈ [','].intercalate texts, Text.isBlank c = false := by
  cases h with
  | nil => exact absurd rfl hne
  | @cons type text types texts hfirst _ =>
    obtain ⟨c, hc, hblank⟩ := hfirst.exists_not_isBlank
    cases texts with
    | nil => exact ⟨c, by rwa [List.intercalate_singleton], hblank⟩
    | cons second texts =>
      exact ⟨c, by rw [List.intercalate_cons_cons]; simp [hc], hblank⟩

theorem withoutParameterNames_of_declares {head : List Char} (hhead : '(' ∉ head)
    (h : List.Forall₂ Declares types texts) (tail : List Char) :
    withoutParameterNames (head ++ '(' :: ([','].intercalate texts ++ ')' :: tail)) =
      head ++ '(' :: ([',', ' '].intercalate (types.map ParameterType.text) ++ ')' :: tail) := by
  have hopen : '(' ∉ [','].intercalate texts :=
    not_mem_intercalate h (by decide) (by decide) (by decide) fun type _ => type.no_parens.1
  have hclose : ')' ∉ [','].intercalate texts :=
    not_mem_intercalate h (by decide) (by decide) (by decide) fun type _ => type.no_parens.2
  have hinner : toClose? 0 ([','].intercalate texts ++ ')' :: tail) =
      some ([','].intercalate texts, tail) := by
    rw [toClose?_append hopen hclose, toClose?_close_zero]
    simp
  rw [withoutParameterNames, ofText_append hhead, hinner]
  cases h with
  | nil => simp [toText]
  | @cons type text types texts hfirst hmore =>
    have hall := List.Forall₂.cons hfirst hmore
    obtain ⟨c, hc, hblank⟩ := exists_not_isBlank_intercalate hall (List.cons_ne_nil _ _)
    have hsome : ([','].intercalate (text :: texts)).all Text.isBlank = false :=
      List.all_eq_false.2 ⟨c, hc, by simp [hblank]⟩
    have hpieces := splitParameters_intercalate (List.cons_ne_nil _ _) (isPiece_of_forall₂ hall)
    simp [hsome, hpieces, map_parameterType hall, toText]

/-- Names and blanks of parameters are dropped and their types are kept, so that two lists of
    parameters of the same types have one spelling. -/
theorem parameter_names_dropped {head : List Char} (hhead : '(' ∉ head)
    (h : List.Forall₂ Declares types texts) (tail : List Char) :
    withoutParameterNames (head ++ '(' :: ([','].intercalate texts ++ ')' :: tail)) =
      head ++ '(' :: ([',', ' '].intercalate (types.map ParameterType.text) ++ ')' :: tail) ∧
    ∀ others, List.Forall₂ Declares types others →
      withoutParameterNames (head ++ '(' :: ([','].intercalate others ++ ')' :: tail)) =
        withoutParameterNames (head ++ '(' :: ([','].intercalate texts ++ ')' :: tail)) := by
  have hdropped := withoutParameterNames_of_declares hhead h tail
  refine ⟨hdropped, fun others hothers => ?_⟩
  rw [hdropped, withoutParameterNames_of_declares hhead hothers tail]

theorem parameter_names_dropped_among_generics :
    let map : ParameterType :=
      { text := "Map<K, List< V[] , T>>[]".toList, ne_nil := by decide,
        isBalanced := by decide +kernel, no_parens := by decide +kernel,
        outside := List.all_iff_forall_prop.1 (by decide +kernel) }
    let int : ParameterType :=
      { text := "int".toList, ne_nil := by decide, isBalanced := by decide +kernel,
        no_parens := by decide +kernel, outside := List.all_iff_forall_prop.1 (by decide +kernel) }
    let texts := ["Map<K, List< V[] , T>>[]  \tm ".toList, " int\n".toList]
    let others := ["Map<K, List< V[] , T>>[]".toList, "int m".toList]
    '(' ∉ "A<B, C>.f".toList ∧ List.Forall₂ Declares [map, int] texts ∧
      List.Forall₂ Declares [map, int] others ∧
      withoutParameterNames "A<B, C>.f(Map<K, List< V[] , T>>[]  \tm , int\n)(x y)".toList =
        "A<B, C>.f(Map<K, List< V[] , T>>[], int)(x y)".toList ∧
      withoutParameterNames "A<B, C>.f(Map<K, List< V[] , T>>[],int m)(x y)".toList =
        withoutParameterNames
          "A<B, C>.f(Map<K, List< V[] , T>>[]  \tm , int\n)(x y)".toList := by
  intro map int texts others
  have hhead : '(' ∉ "A<B, C>.f".toList := by decide +kernel
  have hblank {blanks : List Char} (h : blanks.all Text.isBlank = true) :
      ∀ c ∈ blanks, Text.isBlank c = true := List.all_eq_true.1 h
  let name : ParameterName :=
    ⟨['m'], List.all_iff_forall_prop.1 (by decide), List.all_iff_forall_prop.1 (by decide)⟩
  have hmap : Declares map ([] ++ (map.text ++ ([' ', ' ', '\t'] ++ (name.text ++ [' '])))) :=
    .named (hblank rfl) (hblank rfl) (List.cons_ne_nil _ _) (hblank rfl) name
  have hint : Declares int ([' '] ++ (int.text ++ ['\n'])) := .bare (hblank rfl) (hblank rfl)
  have htexts : List.Forall₂ Declares [map, int] texts := .cons hmap (.cons hint .nil)
  have hmap' : Declares map ([] ++ (map.text ++ [])) := .bare (hblank rfl) (hblank rfl)
  have hint' : Declares int ([] ++ (int.text ++ ([' '] ++ (name.text ++ [])))) :=
    .named (hblank rfl) (hblank rfl) (List.cons_ne_nil _ _) (hblank rfl) name
  have hothers : List.Forall₂ Declares [map, int] others := .cons hmap' (.cons hint' .nil)
  obtain ⟨hdropped, hsame⟩ := parameter_names_dropped hhead htexts "(x y)".toList
  have hwritten : "A<B, C>.f(Map<K, List< V[] , T>>[]  \tm , int\n)(x y)".toList =
      "A<B, C>.f".toList ++ '(' :: ([','].intercalate texts ++ ')' :: "(x y)".toList) := by
    decide +kernel
  have hrewritten : "A<B, C>.f(Map<K, List< V[] , T>>[],int m)(x y)".toList =
      "A<B, C>.f".toList ++ '(' :: ([','].intercalate others ++ ')' :: "(x y)".toList) := by
    decide +kernel
  rw [hwritten, hrewritten]
  refine ⟨hhead, htexts, hothers, hdropped.trans ?_, hsame others hothers⟩
  decide +kernel

end

end Crosslink.Signature
