import Mathlib.Data.Bool.AllAny
import Crosslink.Proofs.TypeTokens

set_option autoImplicit false

/-!
Type expressions as trees. A tree is written as a row of tokens with any blanks around each of
them, and the tokens of that text are the row again, however deep the tree is: separators cut every
text in two that are read by themselves, so that only names, bounds and dots between two separators
can come to stand in one segment.
-/

namespace Crosslink

structure QualifiedName where
  text : List Char
  isDotted : Name.isDotted text = true

/-- What stands behind a type: brackets for each dimension of an array, and the dots of a variable
    argument. -/
structure TypeSuffix where
  arrays : Nat := 0
  variadic : Bool := false

mutual

/-- A type expression. An argument list may be empty, which is not the same as none. -/
inductive TypeTree where
  | named (name : QualifiedName) (suffix : TypeSuffix)
  | applied (name : QualifiedName) (arguments : List TypeArgument) (suffix : TypeSuffix)

inductive TypeArgument where
  | any
  | exactly (type : TypeTree)
  | extending (type : TypeTree)
  | superOf (type : TypeTree)

end

namespace TypeToken

def upperBound : List Char := "? extends ".toList

def lowerBound : List Char := "? super ".toList

end TypeToken

open TypeToken

def TypeSuffix.tokens (s : TypeSuffix) : List TypeToken :=
  List.replicate s.arrays (mark Separator.array.text) ++ if s.variadic then [mark dots] else []

mutual

def TypeTree.tokens : TypeTree → List TypeToken
  | .named n suffix => name n.text :: suffix.tokens
  | .applied n arguments suffix =>
    name n.text :: mark Separator.openAngle.text
      :: (argumentTokens arguments ++ mark Separator.closeAngle.text :: suffix.tokens)

def TypeArgument.tokens : TypeArgument → List TypeToken
  | .any => [mark ['?']]
  | .exactly type => type.tokens
  | .extending type => mark upperBound :: type.tokens
  | .superOf type => mark lowerBound :: type.tokens

def argumentTokens : List TypeArgument → List TypeToken
  | [] => []
  | [a] => a.tokens
  | a :: b :: more => a.tokens ++ mark Separator.comma.text :: argumentTokens (b :: more)

end

mutual

def TypeTree.names : TypeTree → List QualifiedName
  | .named n _ => [n]
  | .applied n arguments _ => n :: argumentNames arguments

def TypeArgument.names : TypeArgument → List QualifiedName
  | .any => []
  | .exactly type => type.names
  | .extending type => type.names
  | .superOf type => type.names

def argumentNames : List TypeArgument → List QualifiedName
  | [] => []
  | a :: more => a.names ++ argumentNames more

end

namespace TypeToken

/-- The tokens in a row, with any blanks before, between and behind them. -/
inductive Spaced : List TypeToken → List Char → Prop where
  | nil {blanks : List Char} (hblanks : ∀ c ∈ blanks, Text.isBlank c = true) : Spaced [] blanks
  | cons {blanks : List Char} (hblanks : ∀ c ∈ blanks, Text.isBlank c = true) (t : TypeToken)
      {tokens : List TypeToken} {cs : List Char} (hcs : Spaced tokens cs) :
      Spaced (t :: tokens) (blanks ++ (t.text ++ cs))

/-- However the tokens are spaced, they are what is read. -/
def Reads (tokens : List TypeToken) : Prop := ∀ cs, Spaced tokens cs → ofText cs = tokens

theorem Spaced.append_blanks {tokens : List TypeToken} {cs blanks : List Char}
    (h : Spaced tokens cs) (hblanks : ∀ c ∈ blanks, Text.isBlank c = true) :
    Spaced tokens (cs ++ blanks) := by
  induction h with
  | nil hfirst => exact .nil (List.forall_mem_append.2 ⟨hfirst, hblanks⟩)
  | cons hfirst t _ ih =>
    rw [List.append_assoc, List.append_assoc]
    exact .cons hfirst t ih

theorem Spaced.exists_of_cons {t : TypeToken} {tokens : List TypeToken} {cs : List Char}
    (h : Spaced (t :: tokens) cs) :
    ∃ blanks rest, (∀ c ∈ blanks, Text.isBlank c = true) ∧ cs = blanks ++ (t.text ++ rest) ∧
      Spaced tokens rest := by
  cases h with
  | cons hblanks _ hrest => exact ⟨_, _, hblanks, rfl, hrest⟩

theorem Spaced.exists_of_append {xs ys : List TypeToken} {cs : List Char}
    (h : Spaced (xs ++ ys) cs) :
    ∃ as bs, cs = as ++ bs ∧ Spaced xs as ∧ Spaced ys bs := by
  induction xs generalizing cs with
  | nil => exact ⟨[], cs, rfl, .nil (by simp), h⟩
  | cons x xs ih =>
    obtain ⟨blanks, rest, hblanks, rfl, hrest⟩ := h.exists_of_cons
    obtain ⟨as, bs, rfl, has, hbs⟩ := ih hrest
    exact ⟨blanks ++ (x.text ++ as), bs, by simp, .cons hblanks x has, hbs⟩

def isSpaced : List TypeToken → List Char → Bool
  | [], cs => cs.all Text.isBlank
  | t :: tokens, cs =>
    match Text.dropStart? t.text (Text.trimStart cs) with
    | some rest => isSpaced tokens rest
    | none => false

theorem spaced_of_isSpaced {tokens : List TypeToken} {cs : List Char}
    (h : isSpaced tokens cs = true) : Spaced tokens cs := by
  induction tokens generalizing cs with
  | nil => exact .nil (List.all_eq_true.1 h)
  | cons t tokens ih =>
    rw [isSpaced] at h
    split at h
    · rename_i rest hstart
      have hcs := List.takeWhile_append_dropWhile (p := Text.isBlank) (l := cs)
      rw [← Text.trimStart, Text.dropStart?_eq_some hstart] at hcs
      rw [← hcs]
      exact .cons (fun c hc => List.mem_takeWhile_imp hc) t (ih h)
    · cases h

theorem join_append (first : List Char) (more : List (Separator × List Char))
    (separator : Separator) (first' : List Char) (more' : List (Separator × List Char)) :
    join first (more ++ (separator, first') :: more') =
      join first more ++ (separator.text ++ join first' more') := by
  simp [join]

theorem ofText_append (cs : List Char) (separator : Separator) (ds : List Char) :
    ofText (cs ++ (separator.text ++ ds)) = ofText cs ++ mark separator.text :: ofText ds := by
  have hsegments : segments (cs ++ (separator.text ++ ds)) =
      ((segments cs).1, (segments cs).2 ++ (separator, (segments ds).1) :: (segments ds).2) := by
    obtain ⟨hfirst, hmore⟩ := isSegment_segments cs
    obtain ⟨hfirst', hmore'⟩ := isSegment_segments ds
    conv => lhs; rw [← join_segments cs, ← join_segments ds, ← join_append]
    apply segments_join hfirst
    intro p hp
    rcases List.mem_append.1 hp with hp | hp
    · exact hmore p hp
    · rcases List.mem_cons.1 hp with rfl | hp
      · exact hfirst'
      · exact hmore' p hp
  rw [ofText, hsegments, List.flatMap_append, List.flatMap_cons]
  simp [ofText]

theorem Reads.separator {xs ys : List TypeToken} (hxs : Reads xs) (hys : Reads ys)
    (separator : Separator) : Reads (xs ++ mark separator.text :: ys) := by
  intro cs h
  obtain ⟨as, bs, rfl, has, hbs⟩ := h.exists_of_append
  obtain ⟨blanks, rest, hblanks, rfl, hrest⟩ := hbs.exists_of_cons
  rw [← List.append_assoc, text, ofText_append, hxs _ (has.append_blanks hblanks), hys _ hrest]

def IsInner (c : Char) : Prop := Separator.ofChar? c = none ∧ c ≠ '['

theorem isInner_of_ne {c : Char} (hopen : c ≠ '<') (hclose : c ≠ '>') (hcomma : c ≠ ',')
    (harray : c ≠ '[') : IsInner c :=
  ⟨by simp [Separator.ofChar?, hopen, hclose, hcomma], harray⟩

theorem isInner_of_isBlank {c : Char} (h : Text.isBlank c = true) : IsInner c :=
  isInner_of_ne (Text.ne_of_isBlank h (by decide)) (Text.ne_of_isBlank h (by decide))
    (Text.ne_of_isBlank h (by decide)) (Text.ne_of_isBlank h (by decide))

theorem isSegment_of_isInner {cs : List Char} (h : ∀ c ∈ cs, IsInner c) : IsSegment cs := by
  induction cs with
  | nil => rfl
  | cons c cs ih =>
    obtain ⟨⟨hc, hopen⟩, hcs⟩ := List.forall_mem_cons.1 h
    exact isSegment_cons_iff.2 ⟨⟨hc, fun harray => hopen harray.1⟩, ih hcs⟩

theorem segments_append_of_isInner {xs : List Char} (h : ∀ c ∈ xs, IsInner c) (ys : List Char) :
    segments (xs ++ ys) = (xs ++ (segments ys).1, (segments ys).2) :=
  (isSegment_of_isInner h).segments_append fun hmeet =>
    (h '[' (List.mem_of_getLast? hmeet.1)).2 rfl

theorem ofText_of_isSegment {cs : List Char} (h : IsSegment cs) : ofText cs = ofSegment cs := by
  rw [ofText, h, List.flatMap_nil, List.append_nil]

theorem ofSegment_of_head? {cs : List Char} (h : (Text.trimBoth cs).head? ≠ some '?') :
    ofSegment cs = ofEnding (Text.trimBoth cs) := by
  have hbound {bound : List Char} (hfirst : bound.head? = some '?') :
      ¬bound <+: Text.trimBoth cs := by
    rintro ⟨rest, hrest⟩
    apply h
    rw [← hrest, List.head?_append, hfirst]
    rfl
  rw [ofSegment_eq, withBound_of_unbound (hbound (by decide)),
    withBound_of_unbound (hbound (by decide))]

end TypeToken

namespace QualifiedName

variable (n : QualifiedName)

theorem isInner_of_mem {c : Char} (h : c ∈ n.text) : IsInner c := by
  have hne {d : Char} (hdot : d ≠ '.') (hd : Name.isPart d = false) : c ≠ d := by
    rintro rfl
    exact Name.not_mem_of_isDotted n.isDotted hdot hd h
  exact isInner_of_ne (hne (by decide) (by decide +kernel)) (hne (by decide) (by decide +kernel))
    (hne (by decide) (by decide +kernel)) (hne (by decide) (by decide +kernel))

theorem isBlank_of_mem {c : Char} (h : c ∈ n.text) : Text.isBlank c = false := by
  cases hblank : Text.isBlank c with
  | false => rfl
  | true =>
    have hdot : c ≠ '.' := by
      rintro rfl
      cases hblank
    have hpart : Name.isPart c = false := by
      cases hpart : Name.isPart c with
      | false => rfl
      | true =>
        rw [Name.isBlank_of_isPart hpart] at hblank
        cases hblank
    exact absurd h (Name.not_mem_of_isDotted n.isDotted hdot hpart)

theorem exists_cons : ∃ c cs, n.text = c :: cs ∧ c ≠ '?' := by
  obtain ⟨text, hdotted⟩ := n
  cases text with
  | nil => cases hdotted
  | cons c cs =>
    refine ⟨c, cs, rfl, ?_⟩
    rintro rfl
    have hstart := Name.isStart_of_isDotted hdotted
    exact absurd hstart (by decide +kernel)

theorem dropEnding?_dots : Text.dropEnding? dots n.text = none := by
  cases hending : Text.dropEnding? dots n.text with
  | none => rfl
  | some rest =>
    -- Nothing stands behind the last dot, and that is no identifier.
    have htext : n.text = rest ++ ['.', '.'] ++ '.' :: [] := by
      simpa [dots] using Text.dropEnding?_eq_some_iff.1 hending
    have hdotted := n.isDotted
    rw [htext, Name.isDotted, Text.splitOn_append, List.all_append] at hdotted
    simp [Text.splitOn, Name.isIdentifier] at hdotted

theorem ofWord_text : ofWord n.text = [name n.text] := by
  obtain ⟨c, cs, htext, -⟩ := n.exists_cons
  have hdotted := n.isDotted
  rw [htext] at hdotted ⊢
  rw [ofWord, if_pos hdotted]

theorem trimEnd_text : Text.trimEnd n.text = n.text := by
  rcases List.eq_nil_or_concat n.text with htext | ⟨most, last, htext⟩
  · rw [htext]
    rfl
  · have hlast : last ∈ n.text := by simp [htext]
    rw [htext, List.concat_eq_append, Text.trimEnd_concat (n.isBlank_of_mem hlast)]

theorem trimBoth_append (more : List Char)
    (hmore : ∀ c ∈ (n.text ++ more).getLast?, Text.isBlank c = false) :
    Text.trimBoth (n.text ++ more) = n.text ++ more := by
  refine Text.trimBoth_eq_self ?_ hmore
  intro c hc
  obtain ⟨d, cs, htext, -⟩ := n.exists_cons
  rw [htext] at hc
  cases hc
  exact n.isBlank_of_mem (by simp [htext])

theorem head?_append (more : List Char) : (n.text ++ more).head? ≠ some '?' := by
  obtain ⟨c, cs, htext, hc⟩ := n.exists_cons
  simpa [htext] using hc

end QualifiedName

namespace TypeToken

theorem ofSegment_between {before after : List Char} (hbefore : ∀ c ∈ before, Text.isBlank c = true)
    (hafter : ∀ c ∈ after, Text.isBlank c = true) (cs : List Char) :
    ofSegment (before ++ (cs ++ after)) = ofSegment cs := by
  rw [ofSegment_eq, ofSegment_eq, Text.trimBoth_between hbefore hafter]

theorem ofText_between {before after cs : List Char}
    (hbefore : ∀ c ∈ before, Text.isBlank c = true) (hafter : ∀ c ∈ after, Text.isBlank c = true)
    (hcs : ∀ c ∈ cs, IsInner c) : ofText (before ++ (cs ++ after)) = ofSegment cs := by
  rw [ofText_of_isSegment, ofSegment_between hbefore hafter]
  apply isSegment_of_isInner
  simp only [List.forall_mem_append]
  exact ⟨fun c hc => isInner_of_isBlank (hbefore c hc), hcs,
    fun c hc => isInner_of_isBlank (hafter c hc)⟩

theorem Spaced.isBlank_of_nil {cs : List Char} (h : Spaced [] cs) :
    ∀ c ∈ cs, Text.isBlank c = true := by
  cases h with
  | nil hblanks => exact hblanks

theorem reads_nil : Reads [] := by
  intro cs h
  have hread := @ofText_between [] cs [] (by simp) h.isBlank_of_nil (by simp)
  rw [List.nil_append, List.nil_append] at hread
  rw [hread]
  decide

theorem reads_singleton {t : TypeToken} (hinner : ∀ c ∈ t.text, IsInner c)
    (hread : ofSegment t.text = [t]) : Reads [t] := by
  intro cs h
  obtain ⟨before, after, hbefore, rfl, hafter⟩ := h.exists_of_cons
  rw [ofText_between hbefore hafter.isBlank_of_nil hinner, hread]

theorem isInner_of_mem_dots {c : Char} (h : c ∈ dots) : IsInner c := by
  have hdot : c = '.' := by simpa [dots] using h
  rw [hdot]
  exact isInner_of_ne (by decide) (by decide) (by decide) (by decide)

theorem reads_dots : Reads [mark dots] :=
  reads_singleton (fun _ => isInner_of_mem_dots) (by decide)

theorem reads_any : Reads [mark ['?']] := by
  refine reads_singleton ?_ (by decide +kernel)
  intro c hc
  rw [List.mem_singleton.1 hc]
  exact isInner_of_ne (by decide) (by decide) (by decide) (by decide)

theorem reads_name (n : QualifiedName) : Reads [name n.text] := by
  refine reads_singleton (fun _ => n.isInner_of_mem) ?_
  have htrim : Text.trimBoth n.text = n.text := by
    have hkept := n.trimBoth_append [] fun c hc =>
      n.isBlank_of_mem (List.mem_of_getLast? (by simpa using hc))
    simpa using hkept
  have hhead := n.head?_append []
  rw [List.append_nil] at hhead
  rw [text, ofSegment_of_head? (by rwa [htrim]), htrim, ofEnding, n.dropEnding?_dots]
  exact n.ofWord_text

theorem reads_name_dots (n : QualifiedName) : Reads [name n.text, mark dots] := by
  intro cs h
  obtain ⟨before, rest, hbefore, rfl, hrest⟩ := h.exists_of_cons
  obtain ⟨between, after, hbetween, rfl, hafter⟩ := hrest.exists_of_cons
  have htrim : Text.trimBoth (n.text ++ (between ++ dots)) = n.text ++ (between ++ dots) :=
    n.trimBoth_append _ (by simp [dots]; decide)
  have hinner : ∀ c ∈ n.text ++ (between ++ dots), IsInner c := by
    simp only [List.forall_mem_append]
    exact ⟨fun c => n.isInner_of_mem, fun c hc => isInner_of_isBlank (hbetween c hc),
      fun c => isInner_of_mem_dots⟩
  have hsegment : ofSegment (n.text ++ (between ++ dots)) = [name n.text, mark dots] := by
    rw [ofSegment_of_head? (by rw [htrim]; exact n.head?_append _), htrim, ← List.append_assoc,
      ofEnding_dots, Text.trimEnd_append_blanks hbetween, n.trimEnd_text, n.ofWord_text]
    rfl
  have hread := ofText_between hbefore hafter.isBlank_of_nil hinner
  simpa [text, hsegment] using hread

theorem ofSegment_bound {bound : List Char} (hbound : bound = upperBound ∨ bound = lowerBound)
    {before : List Char} (hbefore : ∀ c ∈ before, Text.isBlank c = true) {cs : List Char} {c : Char}
    (hhead : (Text.trimBoth cs).head? = some c) (hc : c ≠ '?') :
    ofSegment (before ++ (bound ++ cs)) = mark bound :: ofSegment cs := by
  have hread : ofSegment cs = ofEnding (Text.trimBoth cs) :=
    ofSegment_of_head? (by simpa [hhead] using hc)
  have hkept : Text.trimBoth (Text.trimEnd cs) = Text.trimBoth cs := by
    obtain ⟨blanks, hblanks, hcs⟩ := Text.exists_trimEnd cs
    have hbetween := @Text.trimBoth_between [] blanks (by simp) hblanks (Text.trimEnd cs)
    rw [List.nil_append, ← hcs] at hbetween
    exact hbetween.symm
  have hne : Text.trimEnd cs ≠ [] := by
    intro hnil
    rw [← hkept, hnil] at hhead
    cases hhead
  have htrim : Text.trimBoth (before ++ (bound ++ cs)) = bound ++ Text.trimEnd cs := by
    have hbetween := @Text.trimBoth_between before [] hbefore (by simp) (bound ++ cs)
    have hstart : Text.trimStart (bound ++ cs) = bound ++ cs := by
      rcases hbound with rfl | rfl <;> exact List.dropWhile_cons_of_neg (by decide)
    rw [List.append_nil, Text.trimBoth, Text.trimBoth, hstart, Text.trimEnd_append hne] at hbetween
    exact hbetween
  rw [ofSegment_eq, htrim, hread]
  rcases hbound with rfl | rfl
  · have hlower : ¬lowerBound <+: Text.trimBoth cs := by
      rintro ⟨rest, hrest⟩
      rw [← hrest] at hhead
      exact hc (Option.some.inj hhead).symm
    change withBound upperBound (withBound lowerBound ofEnding) _ = _
    rw [withBound_append, hkept, withBound_of_unbound hlower]
  · have hupper : ¬upperBound <+: lowerBound ++ Text.trimEnd cs := by
      rintro ⟨rest, hrest⟩
      have hthird : some 'e' = some 's' := congrArg (fun text => text[2]?) hrest
      exact absurd hthird (by decide)
    change withBound upperBound (withBound lowerBound ofEnding) _ = _
    rw [withBound_of_unbound hupper, withBound_append, hkept]

theorem isInner_of_mem_bound {bound : List Char} (hbound : bound = upperBound ∨ bound = lowerBound)
    {c : Char} (h : c ∈ bound) : IsInner c := by
  have hinner : ∀ c ∈ bound, Separator.ofChar? c = none ∧ c ≠ '[' := by
    rcases hbound with rfl | rfl <;> exact List.all_iff_forall_prop.1 (by decide)
  exact hinner c h

theorem Reads.bound {bound : List Char} (hbound : bound = upperBound ∨ bound = lowerBound)
    {n : QualifiedName} {tokens : List TypeToken} (h : Reads (name n.text :: tokens)) :
    Reads (mark bound :: name n.text :: tokens) := by
  intro cs hcs
  obtain ⟨before, ds, hbefore, rfl, hds⟩ := hcs.exists_of_cons
  have hread := h ds hds
  obtain ⟨between, rest, hbetween, rfl, -⟩ := hds.exists_of_cons
  -- The name stands in the first segment, where the bound comes before it.
  have hname : ∀ c ∈ between ++ n.text, IsInner c :=
    List.forall_mem_append.2
      ⟨fun c hc => isInner_of_isBlank (hbetween c hc), fun c => n.isInner_of_mem⟩
  have hfront : ∀ c ∈ before ++ (bound ++ (between ++ n.text)), IsInner c := by
    refine List.forall_mem_append.2 ⟨fun c hc => isInner_of_isBlank (hbefore c hc), ?_⟩
    exact List.forall_mem_append.2 ⟨fun c => isInner_of_mem_bound hbound, hname⟩
  have hrest := segments_append_of_isInner hname rest
  have hall := segments_append_of_isInner hfront rest
  simp only [List.append_assoc] at hrest hall
  obtain ⟨c, cs, htext, hc⟩ := n.exists_cons
  have hhead : (Text.trimBoth (between ++ (n.text ++ (segments rest).1))).head? = some c := by
    have hbetween := @Text.trimBoth_between between [] hbetween (by simp)
      (n.text ++ (segments rest).1)
    rw [List.append_nil] at hbetween
    rw [hbetween, htext]
    exact Text.head?_trimBoth (n.isBlank_of_mem (by simp [htext])) _
  rw [text, ofText, hrest] at hread
  rw [text, text, ofText, hall, ofSegment_bound hbound hbefore hhead hc, List.cons_append, hread]

end TypeToken

theorem TypeSuffix.reads (s : TypeSuffix) : Reads s.tokens := by
  obtain ⟨arrays, variadic⟩ := s
  induction arrays with
  | zero =>
    cases variadic with
    | false => exact reads_nil
    | true => exact reads_dots
  | succ arrays ih => exact reads_nil.separator ih .array

theorem TypeSuffix.reads_name (s : TypeSuffix) (n : QualifiedName) :
    Reads (name n.text :: s.tokens) := by
  obtain ⟨arrays, variadic⟩ := s
  cases arrays with
  | zero =>
    cases variadic with
    | false => exact TypeToken.reads_name n
    | true => exact reads_name_dots n
  | succ arrays =>
    exact (TypeToken.reads_name n).separator (TypeSuffix.reads ⟨arrays, variadic⟩) .array

theorem TypeTree.exists_tokens (t : TypeTree) :
    ∃ (n : QualifiedName) (tokens : List TypeToken), t.tokens = name n.text :: tokens := by
  cases t with
  | named n suffix => exact ⟨n, _, TypeTree.tokens.eq_1 n suffix⟩
  | applied n arguments suffix => exact ⟨n, _, TypeTree.tokens.eq_2 n arguments suffix⟩

theorem TypeTree.reads_bound {bound : List Char} (hbound : bound = upperBound ∨ bound = lowerBound)
    {t : TypeTree} (h : Reads t.tokens) : Reads (mark bound :: t.tokens) := by
  obtain ⟨n, tokens, htokens⟩ := t.exists_tokens
  rw [htokens] at h ⊢
  exact h.bound hbound

mutual

theorem TypeTree.reads (t : TypeTree) : Reads t.tokens := by
  cases t with
  | named n suffix =>
    rw [TypeTree.tokens]
    exact suffix.reads_name n
  | applied n arguments suffix =>
    rw [TypeTree.tokens]
    have harguments := (reads_arguments arguments).separator suffix.reads .closeAngle
    exact (reads_name n).separator harguments .openAngle

theorem TypeArgument.reads (a : TypeArgument) : Reads a.tokens := by
  cases a with
  | any =>
    rw [TypeArgument.tokens]
    exact reads_any
  | exactly type =>
    rw [TypeArgument.tokens]
    exact type.reads
  | extending type =>
    rw [TypeArgument.tokens]
    exact TypeTree.reads_bound (.inl rfl) type.reads
  | superOf type =>
    rw [TypeArgument.tokens]
    exact TypeTree.reads_bound (.inr rfl) type.reads

theorem reads_arguments (arguments : List TypeArgument) : Reads (argumentTokens arguments) := by
  match arguments with
  | [] =>
    rw [argumentTokens]
    exact reads_nil
  | [a] =>
    rw [argumentTokens]
    exact a.reads
  | a :: b :: more =>
    rw [argumentTokens]
    exact a.reads.separator (reads_arguments (b :: more)) .comma

end

@[simp] theorem filterMap_name?_mark (mark' : List Char) (tokens : List TypeToken) :
    (mark mark' :: tokens).filterMap name? = tokens.filterMap name? := rfl

@[simp] theorem filterMap_name?_suffix (s : TypeSuffix) : s.tokens.filterMap name? = [] := by
  obtain ⟨arrays, variadic⟩ := s
  cases variadic <;> simp [TypeSuffix.tokens, name?]

mutual

theorem TypeTree.filterMap_name? (t : TypeTree) :
    t.tokens.filterMap name? = t.names.map QualifiedName.text := by
  cases t with
  | named n suffix => simp [TypeTree.tokens, TypeTree.names, name?]
  | applied n arguments suffix =>
    simp [TypeTree.tokens, TypeTree.names, name?, filterMap_name?_arguments arguments]

theorem TypeArgument.filterMap_name? (a : TypeArgument) :
    a.tokens.filterMap name? = a.names.map QualifiedName.text := by
  cases a with
  | any => simp [TypeArgument.tokens, TypeArgument.names, name?]
  | exactly type => simp [TypeArgument.tokens, TypeArgument.names, type.filterMap_name?]
  | extending type => simp [TypeArgument.tokens, TypeArgument.names, type.filterMap_name?]
  | superOf type => simp [TypeArgument.tokens, TypeArgument.names, type.filterMap_name?]

theorem filterMap_name?_arguments (arguments : List TypeArgument) :
    (argumentTokens arguments).filterMap name? =
      (argumentNames arguments).map QualifiedName.text := by
  match arguments with
  | [] => simp [argumentTokens, argumentNames]
  | [a] => simp [argumentTokens, argumentNames, a.filterMap_name?]
  | a :: b :: more =>
    rw [argumentTokens, argumentNames]
    simp [a.filterMap_name?, filterMap_name?_arguments (b :: more)]

end

/-- What a tree is written as, with any blanks around its tokens, is read as the names of the tree
    from left to right. The parts that display it are the tokens: they are the text up to blanks,
    and those that link somewhere are the names. -/
theorem TypeTree.read_as_written (t : TypeTree) {text : String}
    (h : Spaced t.tokens text.toList) :
    namedTypes text = t.names.map (fun n => String.ofList n.text) ∧
      (typeParts text).map Part.uid = t.tokens.map (fun token => token.name?.map String.ofList) ∧
      (typeParts text).map Part.fullName = t.tokens.map (fun token => String.ofList token.text) ∧
      solid ((typeParts text).flatMap fun p => p.fullName.toList) = solid text.toList := by
  have hread : ofText text.toList = t.tokens := t.reads _ h
  have huid (token : TypeToken) : token.toPart.uid = token.name?.map String.ofList := by
    cases token <;> rfl
  have hfull (token : TypeToken) : token.toPart.fullName = String.ofList token.text := by
    cases token <;> rfl
  refine ⟨?_, ?_, ?_, ?_⟩
  · rw [namedTypes, hread, ← List.map_filterMap, t.filterMap_name?, List.map_map]
    rfl
  · rw [typeParts, hread, List.map_map]
    exact List.map_congr_left fun token _ => huid token
  · rw [typeParts, hread, List.map_map]
    exact List.map_congr_left fun token _ => hfull token
  · have hwrite : (typeParts text).flatMap (fun p => p.fullName.toList) =
        write (ofText text.toList) := by
      rw [typeParts, List.flatMap_map, write]
      exact List.flatMap_congr fun token _ => by rw [hfull, String.toList_ofList]
    rw [hwrite, solid_write_ofText]

theorem TypeTree.read_as_written_nested :
    let map : QualifiedName := ⟨"a.Map".toList, by decide +kernel⟩
    let key : QualifiedName := ⟨"K".toList, by decide +kernel⟩
    let t : TypeTree :=
      .applied map [.exactly (.named key ⟨2, false⟩), .extending (.applied map [.any] {})] ⟨1, true⟩
    let text := " a.Map\t<K [][],? extends  a.Map< ?>\n> [] ... "
    Spaced t.tokens text.toList ∧ namedTypes text = ["a.Map", "K", "a.Map"] ∧
      (typeParts text).map Part.fullName =
        ["a.Map", "<", "K", "[]", "[]", ",", "? extends ", "a.Map", "<", "?", ">", ">", "[]",
          "..."] := by
  intro map key t text
  have hspaced : Spaced t.tokens text.toList := spaced_of_isSpaced (by decide +kernel)
  obtain ⟨hnames, -, hfull, -⟩ := t.read_as_written hspaced
  exact ⟨hspaced, hnames, hfull⟩

end Crosslink
