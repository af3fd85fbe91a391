import Crosslink.Proofs.References
import Crosslink.Proofs.TagScan
import Mathlib.Data.List.Basic

set_option autoImplicit false

/-!
The tokens of a compound type as a normal form. Written one after the other they give the text back
up to blanks, and reading what was written gives the same tokens: a segment is written without the
blanks that reading drops, and no separator, bound or ending appears where two tokens meet.
-/

namespace Crosslink

theorem Text.dropEnding?_eq_some_iff {ending cs rest : List Char} :
    dropEnding? ending cs = some rest ↔ cs = rest ++ ending := by
  simp only [dropEnding?, Option.map_eq_some_iff, dropStart?_eq_some_iff]
  constructor
  · rintro ⟨before, hcs, rfl⟩
    simpa using congrArg List.reverse hcs
  · rintro rfl
    exact ⟨rest.reverse, by simp, by simp⟩

namespace TypeToken

def write (tokens : List TypeToken) : List Char := tokens.flatMap text

@[simp] theorem write_nil : write [] = [] := rfl

@[simp] theorem write_cons (t : TypeToken) (tokens : List TypeToken) :
    write (t :: tokens) = t.text ++ write tokens := rfl

@[simp] theorem write_append (first second : List TypeToken) :
    write (first ++ second) = write first ++ write second := by
  simp [write]

def solid (cs : List Char) : List Char := cs.filter fun c => !Text.isBlank c

@[simp] theorem solid_append (xs ys : List Char) : solid (xs ++ ys) = solid xs ++ solid ys := by
  simp [solid]

theorem solid_eq_nil_iff (cs : List Char) : solid cs = [] ↔ ∀ c ∈ cs, Text.isBlank c = true := by
  simp [solid]

theorem solid_trimEnd (cs : List Char) : solid (Text.trimEnd cs) = solid cs := by
  obtain ⟨blanks, hblanks, hcs⟩ := Text.exists_trimEnd cs
  conv => rhs; rw [hcs]
  rw [solid_append, (solid_eq_nil_iff blanks).2 hblanks, List.append_nil]

theorem solid_trimBoth (cs : List Char) : solid (Text.trimBoth cs) = solid cs := by
  have hblanks : solid (cs.takeWhile Text.isBlank) = [] :=
    (solid_eq_nil_iff _).2 fun c hc => List.mem_takeWhile_imp hc
  have hcs := List.takeWhile_append_dropWhile (p := Text.isBlank) (l := cs)
  rw [Text.trimBoth, solid_trimEnd, Text.trimStart, ← List.nil_append (solid _), ← hblanks,
    ← solid_append, hcs]

def IsSegment (cs : List Char) : Prop := segments cs = (cs, [])

instance (cs : List Char) : Decidable (IsSegment cs) := inferInstanceAs (Decidable (_ = _))

def join (first : List Char) (more : List (Separator × List Char)) : List Char :=
  first ++ more.flatMap fun p => p.1.text ++ p.2

theorem segments_text (separator : Separator) (cs : List Char) :
    segments (separator.text ++ cs) = ([], (separator, (segments cs).1) :: (segments cs).2) := by
  cases separator with
  | openAngle => simp [Separator.text, segments, Separator.ofChar?]
  | closeAngle => simp [Separator.text, segments, Separator.ofChar?]
  | comma => simp [Separator.text, segments, Separator.ofChar?]
  | array => simp [Separator.text, segments]

theorem text_of_ofChar? {c : Char} {separator : Separator}
    (h : Separator.ofChar? c = some separator) : separator.text = [c] := by
  unfold Separator.ofChar? at h
  grind [Separator.text]

theorem head?_text (separator : Separator) (cs : List Char) :
    (separator.text ++ cs).head? ≠ some ']' := by
  cases separator with
  | openAngle => simp [Separator.text]
  | closeAngle => simp [Separator.text]
  | comma => simp [Separator.text]
  | array => simp [Separator.text]

theorem segments_cons {c : Char} {cs : List Char} (hc : Separator.ofChar? c = none)
    (harray : ¬(c = '[' ∧ cs.head? = some ']')) :
    segments (c :: cs) = (c :: (segments cs).1, (segments cs).2) := by
  have hsplit : ∀ rest, c = '[' → cs = ']' :: rest → False := by
    rintro rest rfl rfl
    exact harray ⟨rfl, rfl⟩
  rw [segments.eq_3 c cs hsplit, hc]

theorem exists_separator {c : Char} {cs : List Char}
    (h : ¬(Separator.ofChar? c = none ∧ ¬(c = '[' ∧ cs.head? = some ']'))) :
    ∃ separator rest, c :: cs = Separator.text separator ++ rest := by
  cases hc : Separator.ofChar? c with
  | some separator => exact ⟨separator, cs, by rw [text_of_ofChar? hc]; rfl⟩
  | none =>
    rw [hc, eq_self, true_and, not_not] at h
    obtain ⟨rfl, hhead⟩ := h
    obtain ⟨rest, rfl⟩ := List.head?_eq_some_iff.1 hhead
    exact ⟨.array, rest, rfl⟩

theorem join_segments (cs : List Char) : join (segments cs).1 (segments cs).2 = cs := by
  fun_induction segments cs with
  | case1 => rfl
  | case2 cs ih => simpa [join, Separator.text] using ih
  | case3 c cs _ separator hc ih => simpa [join, text_of_ofChar? hc] using ih
  | case4 c cs _ _ ih => simpa [join] using ih

theorem isSegment_cons_iff {c : Char} {cs : List Char} :
    IsSegment (c :: cs) ↔
      (Separator.ofChar? c = none ∧ ¬(c = '[' ∧ cs.head? = some ']')) ∧ IsSegment cs := by
  constructor
  · intro h
    have hfirst : Separator.ofChar? c = none ∧ ¬(c = '[' ∧ cs.head? = some ']') := by
      by_contra hseparator
      obtain ⟨separator, rest, heq⟩ := exists_separator hseparator
      rw [IsSegment, heq, segments_text] at h
      exact absurd (congrArg Prod.snd h) (List.cons_ne_nil _ _)
    rw [IsSegment, segments_cons hfirst.1 hfirst.2, Prod.mk.injEq, List.cons.injEq] at h
    exact ⟨hfirst, Prod.ext h.1.2 h.2⟩
  · rintro ⟨⟨hc, harray⟩, hcs⟩
    rw [IsSegment, segments_cons hc harray, hcs]

theorem IsSegment.of_append {xs ys : List Char} (h : IsSegment (xs ++ ys)) :
    IsSegment xs ∧ IsSegment ys := by
  induction xs with
  | nil => exact ⟨rfl, h⟩
  | cons c xs ih =>
    rw [List.cons_append, isSegment_cons_iff] at h
    obtain ⟨⟨hc, harray⟩, hrest⟩ := h
    obtain ⟨hxs, hys⟩ := ih hrest
    refine ⟨isSegment_cons_iff.2 ⟨⟨hc, ?_⟩, hxs⟩, hys⟩
    rintro ⟨rfl, hhead⟩
    exact harray ⟨rfl, by rw [List.head?_append, hhead]; rfl⟩

theorem IsSegment.segments_append {xs ys : List Char} (hxs : IsSegment xs)
    (hmeet : ¬(xs.getLast? = some '[' ∧ ys.head? = some ']')) :
    segments (xs ++ ys) = (xs ++ (segments ys).1, (segments ys).2) := by
  induction xs with
  | nil => rfl
  | cons c xs ih =>
    obtain ⟨⟨hc, harray⟩, hrest⟩ := isSegment_cons_iff.1 hxs
    have hmeet' : ¬(xs.getLast? = some '[' ∧ ys.head? = some ']') := by
      rintro ⟨hlast, hhead⟩
      exact hmeet ⟨by rw [List.getLast?_cons, hlast]; rfl, hhead⟩
    have harray' : ¬(c = '[' ∧ (xs ++ ys).head? = some ']') := by
      rintro ⟨rfl, hhead⟩
      cases xs with
      | nil => exact hmeet ⟨rfl, hhead⟩
      | cons d xs => exact harray ⟨rfl, hhead⟩
    rw [List.cons_append, segments_cons hc harray', ih hrest hmeet']
    rfl

theorem IsSegment.append {xs ys : List Char} (hxs : IsSegment xs) (hys : IsSegment ys)
    (hmeet : ¬(xs.getLast? = some '[' ∧ ys.head? = some ']')) : IsSegment (xs ++ ys) := by
  rw [IsSegment, hxs.segments_append hmeet, hys]

theorem IsSegment.trimEnd {cs : List Char} (h : IsSegment cs) : IsSegment (Text.trimEnd cs) := by
  obtain ⟨blanks, -, hcs⟩ := Text.exists_trimEnd cs
  rw [hcs] at h
  exact h.of_append.1

theorem IsSegment.trimBoth {cs : List Char} (h : IsSegment cs) : IsSegment (Text.trimBoth cs) := by
  rw [← List.takeWhile_append_dropWhile (p := Text.isBlank) (l := cs)] at h
  exact h.of_append.2.trimEnd

theorem isSegment_segments (cs : List Char) :
    IsSegment (segments cs).1 ∧ ∀ p ∈ (segments cs).2, IsSegment p.2 := by
  fun_induction segments cs with
  | case1 => exact ⟨rfl, by simp⟩
  | case2 cs ih => exact ⟨rfl, List.forall_mem_cons.2 ih⟩
  | case3 c cs _ separator _ ih => exact ⟨rfl, List.forall_mem_cons.2 ih⟩
  | case4 c cs harray hc ih =>
    refine ⟨isSegment_cons_iff.2 ⟨⟨hc, ?_⟩, ih.1⟩, ih.2⟩
    rintro ⟨rfl, hhead⟩
    obtain ⟨rest, hrest⟩ := List.head?_eq_some_iff.1 hhead
    have hcs := join_segments cs
    rw [join, hrest] at hcs
    exact harray _ rfl hcs.symm

theorem segments_join {first : List Char} (hfirst : IsSegment first)
    {more : List (Separator × List Char)} (hmore : ∀ p ∈ more, IsSegment p.2) :
    segments (join first more) = (first, more) := by
  induction more generalizing first with
  | nil => rw [join, List.flatMap_nil, List.append_nil, hfirst]
  | cons p more ih =>
    obtain ⟨separator, segment⟩ := p
    obtain ⟨hsegment, hmore⟩ := List.forall_mem_cons.1 hmore
    have hrest : join first ((separator, segment) :: more) =
        first ++ (separator.text ++ join segment more) := by
      simp [join]
    have hmeet (cs : List Char) :
        ¬(first.getLast? = some '[' ∧ (separator.text ++ cs).head? = some ']') :=
      fun h => head?_text separator cs h.2
    rw [hrest, hfirst.segments_append (hmeet _), segments_text, ih hsegment hmore, List.append_nil]

/-- What a reader of segments has to do so that its tokens are a normal form: they hold the segment
    up to blanks, and a trimmed segment is written as a trimmed one that reads the same. -/
structure Settles (f : List Char → List TypeToken) : Prop where
  ne_nil : ∀ cs, ∀ t ∈ f cs, t.text ≠ []
  solid_write : ∀ cs, solid (write (f cs)) = solid cs
  segment : ∀ cs, IsSegment cs → IsSegment (write (f cs))
  trimmed : ∀ cs, Text.trimBoth cs = cs → Text.trimBoth (write (f cs)) = write (f cs)
  again : ∀ cs, Text.trimBoth cs = cs → f (write (f cs)) = f cs

def dots : List Char := "...".toList

def ofEnding (cs : List Char) : List TypeToken :=
  match Text.dropEnding? dots cs with
  | some rest => ofWord (Text.trimEnd rest) ++ [mark dots]
  | none => ofWord cs

@[simp] theorem write_ofWord (cs : List Char) : write (ofWord cs) = cs := by
  cases cs with
  | nil => rfl
  | cons c cs =>
    rw [ofWord]
    split <;> simp [text]

theorem text_ne_nil_of_mem_ofWord {cs : List Char} {t : TypeToken} (h : t ∈ ofWord cs) :
    t.text ≠ [] := by
  cases cs with
  | nil => cases h
  | cons c cs =>
    rw [ofWord] at h
    split at h
    · rw [List.mem_singleton.1 h]
      exact List.cons_ne_nil c cs
    · rw [List.mem_singleton.1 h]
      exact List.cons_ne_nil c cs

theorem ofEnding_dots (rest : List Char) :
    ofEnding (rest ++ dots) = ofWord (Text.trimEnd rest) ++ [mark dots] := by
  rw [ofEnding, Text.dropEnding?_eq_some_iff.2 rfl]

theorem write_ofEnding (cs : List Char) :
    write (ofEnding cs) = cs ∨
      ∃ rest, cs = rest ++ dots ∧ write (ofEnding cs) = Text.trimEnd rest ++ dots := by
  cases hending : Text.dropEnding? dots cs with
  | none =>
    left
    rw [ofEnding, hending, write_ofWord]
  | some rest =>
    right
    obtain rfl := Text.dropEnding?_eq_some_iff.1 hending
    exact ⟨rest, rfl, by simp [ofEnding_dots, text]⟩

theorem text_ne_nil_of_mem_ofEnding {cs : List Char} {t : TypeToken} (h : t ∈ ofEnding cs) :
    t.text ≠ [] := by
  unfold ofEnding at h
  split at h
  · rcases List.mem_append.1 h with h | h
    · exact text_ne_nil_of_mem_ofWord h
    · rw [List.mem_singleton.1 h]
      simp [text, dots]
  · exact text_ne_nil_of_mem_ofWord h

theorem trimBoth_trimEnd_dots {rest : List Char}
    (h : Text.trimBoth (rest ++ dots) = rest ++ dots) :
    Text.trimBoth (Text.trimEnd rest ++ dots) = Text.trimEnd rest ++ dots := by
  have hdot : Text.isBlank '.' = false := by decide
  rw [Text.trimBoth_eq_self_iff] at h ⊢
  refine ⟨?_, by simp [dots, hdot]⟩
  obtain ⟨blanks, -, hrest⟩ := Text.exists_trimEnd rest
  intro c hc
  cases hkept : Text.trimEnd rest with
  | nil =>
    rw [hkept] at hc
    cases hc
    exact hdot
  | cons d kept =>
    rw [hkept] at hc hrest
    exact h.1 c (by rw [hrest]; exact hc)

theorem settles_ofEnding : Settles ofEnding where
  ne_nil := fun _ _ => text_ne_nil_of_mem_ofEnding
  solid_write := by
    intro cs
    obtain hwrite | ⟨rest, rfl, hwrite⟩ := write_ofEnding cs
    · rw [hwrite]
    · rw [hwrite, solid_append, solid_trimEnd, solid_append]
  segment := by
    intro cs hcs
    obtain hwrite | ⟨rest, rfl, hwrite⟩ := write_ofEnding cs
    · rwa [hwrite]
    · rw [hwrite]
      exact hcs.of_append.1.trimEnd.append (by decide) (by simp [dots])
  trimmed := by
    intro cs hcs
    obtain hwrite | ⟨rest, rfl, hwrite⟩ := write_ofEnding cs
    · rwa [hwrite]
    · rw [hwrite]
      exact trimBoth_trimEnd_dots hcs
  again := by
    intro cs _
    obtain hwrite | ⟨rest, rfl, hwrite⟩ := write_ofEnding cs
    · rw [hwrite]
    · rw [hwrite, ofEnding_dots, ofEnding_dots, Text.trimEnd_trimEnd]

theorem prefix_of_prefix_write_ofEnding {bound cs : List Char} (hdot : '.' ∉ bound)
    (h : bound <+: write (ofEnding cs)) : bound <+: cs := by
  obtain hwrite | ⟨rest, rfl, hwrite⟩ := write_ofEnding cs
  · rwa [hwrite] at h
  · obtain ⟨after, hafter⟩ := h
    rw [hwrite] at hafter
    obtain ⟨middle, hkept, -⟩ := Tag.exists_of_append_eq_append hafter hdot
    obtain ⟨blanks, -, hrest⟩ := Text.exists_trimEnd rest
    refine ⟨middle ++ blanks ++ dots, ?_⟩
    rw [hrest, hkept]
    simp

def withBound (bound : List Char) (f : List Char → List TypeToken) (cs : List Char) :
    List TypeToken :=
  (takeBound bound cs).1 ++ f (takeBound bound cs).2

theorem ofSegment_eq (cs : List Char) :
    ofSegment cs =
      withBound "? extends ".toList (withBound "? super ".toList ofEnding) (Text.trimBoth cs) := by
  simp only [ofSegment, withBound, List.append_assoc]
  rfl

section

variable {bound : List Char} {f : List Char → List TypeToken}

theorem withBound_append (rest : List Char) :
    withBound bound f (bound ++ rest) = mark bound :: f (Text.trimBoth rest) := by
  rw [withBound, takeBound, Text.dropStart?_eq_some_iff.2 rfl]
  rfl

theorem withBound_of_unbound {cs : List Char} (h : ¬bound <+: cs) :
    withBound bound f cs = f cs := by
  have hnone : Text.dropStart? bound cs = none := by
    cases hstart : Text.dropStart? bound cs with
    | none => rfl
    | some rest => exact absurd ⟨rest, (Text.dropStart?_eq_some hstart).symm⟩ h
  rw [withBound, takeBound, hnone]
  rfl

theorem withBound_cases (bound : List Char) (f : List Char → List TypeToken) (cs : List Char) :
    (∃ rest, cs = bound ++ rest ∧ withBound bound f cs = mark bound :: f (Text.trimBoth rest)) ∨
      ¬bound <+: cs ∧ withBound bound f cs = f cs := by
  by_cases h : bound <+: cs
  · obtain ⟨rest, rfl⟩ := h
    exact .inl ⟨rest, rfl, withBound_append rest⟩
  · exact .inr ⟨h, withBound_of_unbound h⟩

/-- A bound ends in a blank, so that a trimmed segment goes on behind it. -/
theorem write_ne_nil (hf : Settles f) (hlast : bound.getLast? = some ' ') {rest : List Char}
    (h : Text.trimBoth (bound ++ rest) = bound ++ rest) : write (f (Text.trimBoth rest)) ≠ [] := by
  intro hnil
  have hsolid := hf.solid_write (Text.trimBoth rest)
  rw [hnil, solid_trimBoth] at hsolid
  have hblank := (solid_eq_nil_iff rest).1 hsolid.symm
  obtain ⟨-, hend⟩ := (Text.trimBoth_eq_self_iff _).1 h
  cases hrest : rest.getLast? with
  | none =>
    have hspace := hend ' ' (by rw [List.getLast?_append, hrest, hlast]; rfl)
    exact absurd hspace (by decide)
  | some c =>
    have hkept := hend c (by rw [List.getLast?_append, hrest]; rfl)
    rw [hblank c (List.mem_of_getLast? hrest)] at hkept
    cases hkept

theorem Settles.withBound (hf : Settles f) (hfirst : ∀ c ∈ bound.head?, Text.isBlank c = false)
    (hlast : bound.getLast? = some ' ') (hbound : IsSegment bound)
    (hkeeps : ∀ cs, bound <+: write (f cs) → bound <+: cs) : Settles (withBound bound f) where
  ne_nil := by
    intro cs t ht
    obtain ⟨rest, rfl, hread⟩ | ⟨-, hread⟩ := withBound_cases bound f cs
    · rw [hread] at ht
      rcases List.mem_cons.1 ht with rfl | ht
      · rintro rfl
        cases hlast
      · exact hf.ne_nil _ t ht
    · rw [hread] at ht
      exact hf.ne_nil cs t ht
  solid_write := by
    intro cs
    obtain ⟨rest, rfl, hread⟩ | ⟨-, hread⟩ := withBound_cases bound f cs
    · rw [hread, write_cons, solid_append, hf.solid_write, solid_trimBoth, solid_append]
      rfl
    · rw [hread, hf.solid_write]
  segment := by
    intro cs hsegment
    obtain ⟨rest, rfl, hread⟩ | ⟨-, hread⟩ := withBound_cases bound f cs
    · rw [hread, write_cons]
      exact hbound.append (hf.segment _ hsegment.of_append.2.trimBoth) (by simp [hlast])
    · rw [hread]
      exact hf.segment cs hsegment
  trimmed := by
    intro cs htrim
    obtain ⟨rest, rfl, hread⟩ | ⟨-, hread⟩ := withBound_cases bound f cs
    · have hne := write_ne_nil hf hlast htrim
      have hrest := hf.trimmed _ (Text.trimBoth_trimBoth rest)
      rw [hread, write_cons]
      apply Text.trimBoth_eq_self
      · intro c hc
        apply hfirst
        cases bound with
        | nil => cases hlast
        | cons b bound => exact hc
      · rw [List.getLast?_append_of_ne_nil _ hne]
        exact ((Text.trimBoth_eq_self_iff _).1 hrest).2
    · rw [hread]
      exact hf.trimmed cs htrim
  again := by
    intro cs htrim
    obtain ⟨rest, rfl, hread⟩ | ⟨hcs, hread⟩ := withBound_cases bound f cs
    · have hrest := Text.trimBoth_trimBoth rest
      rw [hread, write_cons, text, withBound_append, hf.trimmed _ hrest, hf.again _ hrest]
    · -- Writing drops blanks, and must not bring a bound to the front by it.
      have hwrite : ¬bound <+: write (f cs) := fun h => hcs (hkeeps cs h)
      rw [hread, withBound_of_unbound hwrite, hf.again cs htrim]

end

theorem settles_lower : Settles (withBound "? super ".toList ofEnding) :=
  settles_ofEnding.withBound (by rintro _ ⟨⟩; decide) (by decide) (by decide)
    fun _ => prefix_of_prefix_write_ofEnding (by decide)

theorem settles_bounds :
    Settles (withBound "? extends ".toList (withBound "? super ".toList ofEnding)) := by
  refine settles_lower.withBound (by rintro _ ⟨⟩; decide) (by decide) (by decide) ?_
  intro cs hupper
  obtain ⟨rest, rfl, hread⟩ | ⟨-, hread⟩ := withBound_cases "? super ".toList ofEnding cs
  · rw [hread] at hupper
    simp [text] at hupper
  · rw [hread] at hupper
    exact prefix_of_prefix_write_ofEnding (by decide) hupper

theorem ofSegment_write (cs : List Char) : ofSegment (write (ofSegment cs)) = ofSegment cs := by
  have htrim := Text.trimBoth_trimBoth cs
  simp only [ofSegment_eq]
  rw [settles_bounds.trimmed _ htrim, settles_bounds.again _ htrim]

theorem isSegment_write_ofSegment {cs : List Char} (h : IsSegment cs) :
    IsSegment (write (ofSegment cs)) := by
  rw [ofSegment_eq]
  exact settles_bounds.segment _ h.trimBoth

theorem solid_write_ofSegment (cs : List Char) : solid (write (ofSegment cs)) = solid cs := by
  rw [ofSegment_eq, settles_bounds.solid_write, solid_trimBoth]

theorem write_ofText (cs : List Char) :
    write (ofText cs) = join (write (ofSegment (segments cs).1))
      ((segments cs).2.map fun p => (p.1, write (ofSegment p.2))) := by
  have hmore : write ((segments cs).2.flatMap fun p => mark p.1.text :: ofSegment p.2) =
      (segments cs).2.flatMap fun p => p.1.text ++ write (ofSegment p.2) :=
    List.flatMap_assoc
  rw [ofText, write_append, join, List.flatMap_map, hmore]

theorem solid_join (first : List Char) (more : List (Separator × List Char)) :
    solid (join first more) =
      solid first ++ more.flatMap fun p => solid p.1.text ++ solid p.2 := by
  simp only [join, solid, List.filter_append, List.filter_flatMap]

theorem solid_write_ofText (cs : List Char) : solid (write (ofText cs)) = solid cs := by
  conv => rhs; rw [← join_segments cs]
  rw [write_ofText, solid_join, solid_join, solid_write_ofSegment, List.flatMap_map]
  simp only [solid_write_ofSegment]

theorem segments_write_ofText (cs : List Char) :
    segments (write (ofText cs)) =
      (write (ofSegment (segments cs).1),
        (segments cs).2.map fun p => (p.1, write (ofSegment p.2))) := by
  obtain ⟨hfirst, hmore⟩ := isSegment_segments cs
  rw [write_ofText]
  apply segments_join (isSegment_write_ofSegment hfirst)
  intro p hp
  obtain ⟨q, hq, rfl⟩ := List.mem_map.1 hp
  exact isSegment_write_ofSegment (hmore q hq)

theorem ofText_write (cs : List Char) : ofText (write (ofText cs)) = ofText cs := by
  rw [ofText, segments_write_ofText, ofSegment_write, List.flatMap_map]
  simp only [ofSegment_write]
  rfl

theorem text_ne_nil_of_mem_ofText {cs : List Char} {t : TypeToken} (h : t ∈ ofText cs) :
    t.text ≠ [] := by
  have hsegment {segment : List Char} (h : t ∈ ofSegment segment) : t.text ≠ [] := by
    rw [ofSegment_eq] at h
    exact settles_bounds.ne_nil _ t h
  rcases List.mem_append.1 h with h | h
  · exact hsegment h
  · obtain ⟨⟨separator, segment⟩, -, h⟩ := List.mem_flatMap.1 h
    rcases List.mem_cons.1 h with rfl | h
    · cases separator <;> simp [text, Separator.text]
    · exact hsegment h

theorem not_infix_of_isDotted {name : List Char} (h : Name.isDotted name = true)
    (separator : Separator) : ¬separator.text <:+: name := by
  intro hinside
  have hother : ∃ c ∈ separator.text, c ≠ '.' ∧ Name.isPart c = false := by
    cases separator with
    | openAngle => exact ⟨'<', List.mem_cons_self, by decide, by decide +kernel⟩
    | closeAngle => exact ⟨'>', List.mem_cons_self, by decide, by decide +kernel⟩
    | comma => exact ⟨',', List.mem_cons_self, by decide, by decide +kernel⟩
    | array => exact ⟨'[', List.mem_cons_self, by decide, by decide +kernel⟩
  obtain ⟨c, hc, hdot, hpart⟩ := hother
  exact Name.not_mem_of_isDotted h hdot hpart (hinside.subset hc)

/-- The tokens of a text are a normal form of it: none is empty, every name is a dotted one and
    holds no separator, the tokens together are the text up to blanks, and they are read again from
    what they are written as. -/
theorem tokens_normal_form (cs : List Char) :
    (∀ t ∈ ofText cs, t.text ≠ []) ∧
      (∀ name, .name name ∈ ofText cs →
        Name.isDotted name = true ∧ ∀ separator : Separator, ¬separator.text <:+: name) ∧
      solid (write (ofText cs)) = solid cs ∧
      ofText (write (ofText cs)) = ofText cs := by
  refine ⟨fun _ => text_ne_nil_of_mem_ofText, ?_, solid_write_ofText cs, ofText_write cs⟩
  intro name hname
  obtain ⟨hdotted, -⟩ := isDotted_of_mem_ofText hname
  exact ⟨hdotted, not_infix_of_isDotted hdotted⟩

end TypeToken

end Crosslink
