import Crosslink.Proofs.Blanks
import Crosslink.Signature
import Mathlib.Data.List.DropRight
import Mathlib.Logic.Relation

set_option autoImplicit false

/-!
Texts with their commas respaced. Everything is said comma by comma: the text before the first
comma loses its blanks at the end, and the text behind it those at its start, before it is respaced
itself. Any other character that is no blank divides a text in two that are respaced by themselves.
How the commas of a text were spaced before does not matter: the spaced and the tight spelling tell
the same texts apart, namely those that differ in more than blanks beside commas.
-/

namespace Crosslink.Signature

/-- What holds of texts without commas, and in front of a comma if it holds of the text behind the
    comma and its blanks, holds of all texts. -/
@[elab_as_elim]
theorem comma_induction {motive : List Char → Prop} (plain : ∀ cs, ',' ∉ cs → motive cs)
    (comma : ∀ first ys, ',' ∉ first → motive (Text.trimStart ys) → motive (first ++ ',' :: ys))
    (cs : List Char) : motive cs := by
  by_cases hmem : ',' ∈ cs
  · obtain ⟨first, ys, hcs, hfirst⟩ := List.eq_append_cons_of_mem hmem
    have hshort : (Text.trimStart ys).length < cs.length := by
      have hdrop := (List.dropWhile_suffix (l := ys) Text.isBlank).length_le
      rw [hcs, List.length_append, List.length_cons]
      exact Nat.lt_of_le_of_lt hdrop (by omega)
    rw [hcs]
    exact comma first ys hfirst (comma_induction plain comma (Text.trimStart ys))
  · exact plain cs hmem
termination_by cs.length

section

variable {comma : List Char}

theorem withCommas_of_not_mem {cs : List Char} (h : ',' ∉ cs) : withCommas comma cs = cs := by
  rw [withCommas, Text.splitOn_of_not_mem h]

theorem withCommas_nil : withCommas comma [] = [] := rfl

theorem withCommas_comma {first : List Char} (hfirst : ',' ∉ first) (ys : List Char) :
    withCommas comma (first ++ ',' :: ys) =
      Text.trimEnd first ++ (comma ++ withCommas comma (Text.trimStart ys)) := by
  by_cases hmem : ',' ∈ ys
  · obtain ⟨second, zs, rfl, hsecond⟩ := List.eq_append_cons_of_mem hmem
    obtain ⟨third, more, hzs⟩ := List.exists_cons_of_ne_nil (Text.splitOn_ne_nil ',' zs)
    have hstart : ',' ∉ Text.trimStart second :=
      fun h => hsecond ((List.dropWhile_suffix Text.isBlank).subset h)
    rw [Text.trimStart_append (by decide), withCommas, withCommas, Text.splitOn_append,
      Text.splitOn_append, Text.splitOn_append, Text.splitOn_of_not_mem hfirst,
      Text.splitOn_of_not_mem hsecond, Text.splitOn_of_not_mem hstart, hzs]
    simp [trimPieces, Text.trimBoth, List.intercalate_cons_cons]
  · have hstart : ',' ∉ Text.trimStart ys :=
      fun h => hmem ((List.dropWhile_suffix Text.isBlank).subset h)
    rw [withCommas_of_not_mem hstart, withCommas, Text.splitOn_append,
      Text.splitOn_of_not_mem hfirst, Text.splitOn_of_not_mem hmem]
    simp [trimPieces, List.intercalate_cons_cons]

/-- Any character but blanks and commas divides a text in two that are respaced by themselves. -/
theorem withCommas_append {c : Char} (hblank : Text.isBlank c = false) (hcomma : c ≠ ',')
    (xs ys : List Char) :
    withCommas comma (xs ++ c :: ys) = withCommas comma xs ++ c :: withCommas comma ys := by
  induction xs using comma_induction with
  | plain xs hxs =>
    rw [withCommas_of_not_mem hxs]
    by_cases hmem : ',' ∈ ys
    · obtain ⟨first, zs, rfl, hfirst⟩ := List.eq_append_cons_of_mem hmem
      have hfront : ',' ∉ xs ++ c :: first := by
        simp [hxs, hcomma.symm, hfirst]
      have hsplit : xs ++ c :: (first ++ ',' :: zs) = (xs ++ c :: first) ++ ',' :: zs := by simp
      rw [hsplit, withCommas_comma hfront, withCommas_comma hfirst,
        Text.trimEnd_append_cons hblank]
      simp
    · rw [withCommas_of_not_mem hmem, withCommas_of_not_mem (by simp [hxs, hcomma.symm, hmem])]
  | comma first zs hfirst ih =>
    have hsplit : first ++ ',' :: zs ++ c :: ys = first ++ ',' :: (zs ++ c :: ys) := by simp
    rw [hsplit, withCommas_comma hfirst, withCommas_comma hfirst, Text.trimStart_append hblank, ih]
    simp

theorem mem_of_mem_withCommas {c : Char} (hc : c ∉ comma) {cs : List Char}
    (h : c ∈ withCommas comma cs) : c ∈ cs := by
  induction cs using comma_induction with
  | plain cs hcs => rwa [withCommas_of_not_mem hcs] at h
  | comma first ys hfirst ih =>
    rw [withCommas_comma hfirst, List.mem_append, List.mem_append] at h
    rw [List.mem_append, List.mem_cons]
    rcases h with h | h | h
    · exact .inl (Text.mem_of_mem_trimEnd h)
    · exact absurd h hc
    · exact .inr (.inr ((List.dropWhile_suffix Text.isBlank).subset (ih h)))

theorem withCommas_append_comma (xs ys : List Char) :
    withCommas comma (xs ++ ',' :: ys) =
      withCommas comma (Text.trimEnd xs) ++ (comma ++ withCommas comma (Text.trimStart ys)) := by
  induction xs using comma_induction with
  | plain xs hxs =>
    rw [withCommas_comma hxs, withCommas_of_not_mem fun h => hxs (Text.mem_of_mem_trimEnd h)]
  | comma first zs hfirst ih =>
    rw [List.append_assoc, List.cons_append, withCommas_comma hfirst,
      Text.trimStart_append (by decide), ih, Text.trimEnd_append_cons (by decide),
      withCommas_comma hfirst, Text.trimStart_trimEnd]
    simp only [List.append_assoc]

theorem trimStart_withCommas (blanks cs : List Char) :
    Text.trimStart (withCommas (',' :: blanks) cs) =
      withCommas (',' :: blanks) (Text.trimStart cs) := by
  induction cs using comma_induction with
  | plain cs hcs =>
    rw [withCommas_of_not_mem hcs, withCommas_of_not_mem]
    exact fun h => hcs ((List.dropWhile_suffix Text.isBlank).subset h)
  | comma first ys hfirst _ =>
    have hstart : ',' ∉ Text.trimStart first :=
      fun h => hfirst ((List.dropWhile_suffix Text.isBlank).subset h)
    rw [withCommas_comma hfirst, List.cons_append, Text.trimStart_append (by decide),
      Text.trimStart_append (by decide), withCommas_comma hstart, Text.trimStart_trimEnd]
    rfl

theorem withCommas_withCommas {blanks : List Char} (h : ∀ c ∈ blanks, Text.isBlank c = true)
    (cs : List Char) : withCommas comma (withCommas (',' :: blanks) cs) = withCommas comma cs := by
  induction cs using comma_induction with
  | plain cs hcs => rw [withCommas_of_not_mem hcs]
  | comma first ys hfirst ih =>
    have hkept : ',' ∉ Text.trimEnd first := fun h => hfirst (Text.mem_of_mem_trimEnd h)
    have hbehind : Text.trimStart (blanks ++ withCommas (',' :: blanks) (Text.trimStart ys)) =
        withCommas (',' :: blanks) (Text.trimStart ys) := by
      rw [Text.trimStart, List.dropWhile_append_of_pos h, ← Text.trimStart, trimStart_withCommas,
        Text.trimStart, Text.trimStart, List.dropWhile_idempotent]
    rw [withCommas_comma hfirst, List.cons_append, withCommas_comma hkept, hbehind, ih,
      Text.trimEnd_trimEnd, withCommas_comma hfirst]

end

inductive DropsBlank : List Char → List Char → Prop where
  | before {c : Char} (h : Text.isBlank c = true) (xs ys : List Char) :
      DropsBlank (xs ++ c :: ',' :: ys) (xs ++ ',' :: ys)
  | behind {c : Char} (h : Text.isBlank c = true) (xs ys : List Char) :
      DropsBlank (xs ++ ',' :: c :: ys) (xs ++ ',' :: ys)

/-- One text is the other with every blank beside a comma deleted, so that none is left. -/
structure DropsBlanks (cs bare : List Char) : Prop where
  reaches : Relation.ReflTransGen DropsBlank cs bare
  done : ∀ ds, ¬DropsBlank bare ds

theorem DropsBlank.prepend {cs ds : List Char} (h : DropsBlank cs ds) (zs : List Char) :
    DropsBlank (zs ++ cs) (zs ++ ds) := by
  cases h with
  | before hc xs ys =>
    rw [← List.append_assoc, ← List.append_assoc]
    exact .before hc (zs ++ xs) ys
  | behind hc xs ys =>
    rw [← List.append_assoc, ← List.append_assoc]
    exact .behind hc (zs ++ xs) ys

theorem DropsBlank.length_lt {cs ds : List Char} (h : DropsBlank cs ds) :
    ds.length < cs.length := by
  cases h <;> simp

theorem DropsBlank.withCommas_eq {comma cs ds : List Char} (h : DropsBlank cs ds) :
    withCommas comma cs = withCommas comma ds := by
  cases h with
  | @before c hc xs ys =>
    have hlast : Text.trimEnd (xs ++ [c]) = Text.trimEnd xs :=
      Text.trimEnd_append_blanks (by simpa using hc) xs
    rw [List.append_cons, withCommas_append_comma, withCommas_append_comma, hlast]
  | @behind c hc xs ys =>
    have hfirst : Text.trimStart (c :: ys) = Text.trimStart ys := List.dropWhile_cons_of_pos hc
    rw [withCommas_append_comma, withCommas_append_comma, hfirst]

section

open Relation

variable {cs ds : List Char}

theorem prepend_reaches (h : ReflTransGen DropsBlank cs ds) (zs : List Char) :
    ReflTransGen DropsBlank (zs ++ cs) (zs ++ ds) :=
  h.lift (zs ++ ·) fun _ _ hstep => DropsBlank.prepend hstep zs

theorem length_le_of_reaches (h : ReflTransGen DropsBlank cs ds) : ds.length ≤ cs.length := by
  induction h with
  | refl => exact Nat.le_refl _
  | tail _ hstep ih => exact hstep.length_lt.le.trans ih

theorem withCommas_eq_of_reaches {comma : List Char} (h : ReflTransGen DropsBlank cs ds) :
    withCommas comma cs = withCommas comma ds := by
  induction h with
  | refl => rfl
  | tail _ hstep ih => exact ih.trans hstep.withCommas_eq

theorem reaches_trimEnd (xs ys : List Char) :
    ReflTransGen DropsBlank (xs ++ ',' :: ys) (Text.trimEnd xs ++ ',' :: ys) := by
  obtain ⟨blanks, hblanks, hxs⟩ := Text.exists_trimEnd xs
  generalize Text.trimEnd xs = kept at hxs ⊢
  subst hxs
  -- The blanks go one by one, the last one first.
  induction blanks using List.reverseRecOn with
  | nil => rw [List.append_nil]
  | append_singleton blanks c ih =>
    obtain ⟨hblanks, hc⟩ := List.forall_mem_append.1 hblanks
    have hstep := DropsBlank.before (hc c List.mem_cons_self) (kept ++ blanks) ys
    rw [← List.append_assoc, List.append_assoc, List.singleton_append]
    exact .head hstep (ih hblanks)

theorem reaches_trimStart (ys : List Char) :
    ReflTransGen DropsBlank (',' :: ys) (',' :: Text.trimStart ys) := by
  induction ys with
  | nil => exact .refl
  | cons c ys ih =>
    by_cases hc : Text.isBlank c = true
    · rw [Text.trimStart, List.dropWhile_cons_of_pos hc]
      exact .head (.behind hc [] ys) ih
    · rw [Text.trimStart, List.dropWhile_cons_of_neg hc]

theorem reaches_tightCommas (cs : List Char) :
    ReflTransGen DropsBlank cs (tightCommas cs) := by
  induction cs using comma_induction with
  | plain cs hcs => rw [tightCommas, withCommas_of_not_mem hcs]
  | comma first ys hfirst ih =>
    rw [tightCommas, withCommas_comma hfirst]
    have hbehind := (reaches_trimStart ys).trans (prepend_reaches ih [','])
    exact (reaches_trimEnd first ys).trans (prepend_reaches hbehind _)

/-- The tight spelling is what deleting the blanks beside commas ends in. -/
theorem dropsBlanks_iff : DropsBlanks cs ds ↔ ds = tightCommas cs := by
  constructor
  · rintro ⟨hreaches, hdone⟩
    rcases (reaches_tightCommas ds).cases_head with heq | ⟨next, hstep, -⟩
    · exact heq.trans (withCommas_eq_of_reaches hreaches).symm
    · exact absurd hstep (hdone next)
  · rintro rfl
    refine ⟨reaches_tightCommas cs, fun next hstep => ?_⟩
    -- The next text would have the same tight spelling, which is no longer than itself.
    have htight : tightCommas next = tightCommas cs :=
      hstep.withCommas_eq.symm.trans (withCommas_withCommas (by simp) cs)
    have hshort := length_le_of_reaches (reaches_tightCommas next)
    rw [htight] at hshort
    exact absurd hstep.length_lt (Nat.not_lt.2 hshort)

end

/-- Each of the two spellings is got from the other and from itself, and they identify the same
    texts: those that become equal once the blanks beside their commas are deleted. -/
theorem comma_spellings_interchangeable (cs ds : List Char) :
    (spacedCommas (spacedCommas cs) = spacedCommas cs ∧
      tightCommas (tightCommas cs) = tightCommas cs) ∧
    (spacedCommas (tightCommas cs) = spacedCommas cs ∧
      tightCommas (spacedCommas cs) = tightCommas cs) ∧
    (spacedCommas cs = spacedCommas ds ↔ tightCommas cs = tightCommas ds) ∧
    (tightCommas cs = tightCommas ds ↔ ∃ bare, DropsBlanks cs bare ∧ DropsBlanks ds bare) := by
  have hspaced (comma xs : List Char) : withCommas comma (spacedCommas xs) = withCommas comma xs :=
    withCommas_withCommas (List.forall_mem_singleton.2 (by decide)) xs
  have htight (comma xs : List Char) : withCommas comma (tightCommas xs) = withCommas comma xs :=
    withCommas_withCommas (List.forall_mem_nil _) xs
  refine ⟨⟨hspaced _ cs, htight _ cs⟩, ⟨htight _ cs, hspaced _ cs⟩, ⟨fun h => ?_, fun h => ?_⟩, ?_⟩
  · calc tightCommas cs = tightCommas (spacedCommas cs) := (hspaced _ cs).symm
      _ = tightCommas (spacedCommas ds) := by rw [h]
      _ = tightCommas ds := hspaced _ ds
  · calc spacedCommas cs = spacedCommas (tightCommas cs) := (htight _ cs).symm
      _ = spacedCommas (tightCommas ds) := by rw [h]
      _ = spacedCommas ds := htight _ ds
  · simp only [dropsBlanks_iff]
    exact ⟨fun h => ⟨_, rfl, h⟩, fun ⟨_, hcs, hds⟩ => hcs.symm.trans hds⟩

example : spacedCommas "f(a ,b\t,, c )".toList = "f(a, b, , c )".toList ∧
    tightCommas "f(a ,b\t,, c )".toList = "f(a,b,,c )".toList := by
  decide +kernel

end Crosslink.Signature
