import Crosslink.Name
import Crosslink.Settings
import Crosslink.Text.Blank
import Mathlib.Data.List.TakeWhile

set_option autoImplicit false

namespace Crosslink

namespace Text

theorem exists_mem_of_inRanges {ranges : List (Nat × Nat)} {n : Nat}
    (h : inRanges ranges n = true) : ∃ r ∈ ranges, r.1 ≤ n ∧ n ≤ r.2 := by
  induction ranges with
  | nil => simp [inRanges] at h
  | cons r ranges ih =>
    obtain ⟨first, last⟩ := r
    simp only [inRanges] at h
    split at h
    · cases h
    · split at h
      · exact ⟨(first, last), List.mem_cons_self, by omega, by omega⟩
      · obtain ⟨r, hr, hn⟩ := ih h
        exact ⟨r, List.mem_cons_of_mem _ hr, hn⟩

def ascending : Nat → List (Nat × Nat) → Bool
  | _, [] => true
  | low, (first, last) :: ranges => low ≤ first && first ≤ last && ascending last ranges

theorem le_of_mem_ascending {low : Nat} {ranges : List (Nat × Nat)}
    (h : ascending low ranges = true) {r : Nat × Nat} (hr : r ∈ ranges) : low ≤ r.1 := by
  induction ranges generalizing low with
  | nil => cases hr
  | cons range ranges ih =>
    obtain ⟨first, last⟩ := range
    simp only [ascending, Bool.and_eq_true, decide_eq_true_eq] at h
    rcases List.mem_cons.1 hr with rfl | hr
    · exact h.1.1
    · have hlast := ih h.2 hr
      omega

theorem inRanges_of_mem {low : Nat} {ranges : List (Nat × Nat)}
    (h : ascending low ranges = true) {r : Nat × Nat} (hr : r ∈ ranges) {n : Nat}
    (hfirst : r.1 ≤ n) (hlast : n ≤ r.2) : inRanges ranges n = true := by
  induction ranges generalizing low with
  | nil => cases hr
  | cons range ranges ih =>
    obtain ⟨first, last⟩ := range
    simp only [ascending, Bool.and_eq_true, decide_eq_true_eq] at h
    rw [inRanges]
    rcases List.mem_cons.1 hr with rfl | hr
    · rw [if_neg (by omega), if_pos hlast]
    · have hbelow := le_of_mem_ascending h.2 hr
      rw [if_neg (by omega), ih h.2 hr, ite_self]

def within : List (Nat × Nat) → List (Nat × Nat) → Bool
  | [], ranges => ranges.isEmpty
  | (first, last) :: outer, ranges =>
    within outer (ranges.dropWhile fun r => first ≤ r.1 && r.2 ≤ last)

theorem exists_mem_of_within {outer ranges : List (Nat × Nat)} (h : within outer ranges = true)
    {r : Nat × Nat} (hr : r ∈ ranges) : ∃ o ∈ outer, o.1 ≤ r.1 ∧ r.2 ≤ o.2 := by
  induction outer generalizing ranges with
  | nil =>
    rw [within, List.isEmpty_iff] at h
    rw [h] at hr
    cases hr
  | cons range outer ih =>
    obtain ⟨first, last⟩ := range
    rw [← List.takeWhile_append_dropWhile (p := fun r => first ≤ r.1 && r.2 ≤ last) (l := ranges),
      List.mem_append] at hr
    rcases hr with hr | hr
    · have hin := List.mem_takeWhile_imp hr
      simp only [Bool.and_eq_true, decide_eq_true_eq] at hin
      exact ⟨(first, last), List.mem_cons_self, hin⟩
    · obtain ⟨o, ho, hin⟩ := ih h hr
      exact ⟨o, List.mem_cons_of_mem _ ho, hin⟩

theorem isWord_of_isLetter {c : Char} (h : isLetter c = true) : isWord c = true := by
  have hascending : ascending 0 wordRanges = true := by decide +kernel
  have hwithin : within wordRanges letterRanges = true := by decide +kernel
  obtain ⟨r, hr, hfirst, hlast⟩ := exists_mem_of_inRanges h
  obtain ⟨o, ho, hopen, hclose⟩ := exists_mem_of_within hwithin hr
  exact inRanges_of_mem hascending ho (hopen.trans hfirst) (hlast.trans hclose)

theorem isBlank_eq_false {p : Char → Bool}
    (h : ∀ r ∈ blankRanges, ∀ k < r.2 + 1 - r.1, p (Char.ofNat (r.1 + k)) = false) {c : Char}
    (hc : p c = true) : isBlank c = false := by
  cases hblank : isBlank c with
  | false => rfl
  | true =>
    obtain ⟨r, hr, hfirst, hlast⟩ := exists_mem_of_inRanges hblank
    have hp := h r hr (c.toNat - r.1) (by omega)
    rw [Nat.add_sub_cancel' hfirst, Char.ofNat_toNat, hc] at hp
    cases hp

theorem ne_of_isBlank {c d : Char} (hc : isBlank c = true) (hd : isBlank d = false) : c ≠ d := by
  rintro rfl
  rw [hc] at hd
  cases hd

theorem not_mem_of_isBlank {blanks : List Char} (h : ∀ c ∈ blanks, isBlank c = true) {d : Char}
    (hd : isBlank d = false) : d ∉ blanks :=
  fun hmem => ne_of_isBlank (h d hmem) hd rfl

theorem trimEnd_eq_nil_iff (cs : List Char) :
    trimEnd cs = [] ↔ ∀ c ∈ cs, isBlank c = true := by
  induction cs with
  | nil => simp [trimEnd]
  | cons c cs ih =>
    rw [trimEnd, List.forall_mem_cons, ← ih]
    split
    · rename_i hnil
      by_cases hc : isBlank c = true
      · simp [hc, hnil]
      · simp [hc]
    · rename_i hkept
      have hne : trimEnd cs ≠ [] := hkept
      simp [hne]

theorem exists_trimEnd (cs : List Char) :
    ∃ blanks, (∀ c ∈ blanks, isBlank c = true) ∧ cs = trimEnd cs ++ blanks := by
  induction cs with
  | nil => exact ⟨[], by simp, rfl⟩
  | cons c cs ih =>
    obtain ⟨blanks, hblanks, hcs⟩ := ih
    rw [trimEnd]
    split
    · rename_i hnil
      rw [hnil, List.nil_append] at hcs
      split
      · rename_i hc
        exact ⟨c :: cs, List.forall_mem_cons.2 ⟨hc, hcs ▸ hblanks⟩, rfl⟩
      · exact ⟨blanks, hblanks, by simp [hcs]⟩
    · exact ⟨blanks, hblanks, congrArg (c :: ·) hcs⟩

theorem trimEnd_append_blanks {blanks : List Char} (h : ∀ c ∈ blanks, isBlank c = true)
    (cs : List Char) : trimEnd (cs ++ blanks) = trimEnd cs := by
  induction cs with
  | nil => exact (trimEnd_eq_nil_iff blanks).2 h
  | cons c cs ih => rw [List.cons_append, trimEnd, ih, trimEnd]

theorem trimStart_append {c : Char} (hc : isBlank c = false) (xs ys : List Char) :
    trimStart (xs ++ c :: ys) = trimStart xs ++ c :: ys := by
  rw [trimStart, List.dropWhile_append, trimStart]
  split
  · rename_i hnil
    rw [List.isEmpty_iff.1 hnil, List.dropWhile_cons_of_neg (by simp [hc])]
    rfl
  · rfl

theorem isBlank_getLast_trimEnd {cs before : List Char} {c : Char}
    (h : trimEnd cs = before ++ [c]) : isBlank c = false := by
  induction cs generalizing before with
  | nil => simp [trimEnd] at h
  | cons d cs ih =>
    rw [trimEnd] at h
    split at h
    · split at h
      · simp at h
      · rename_i hd
        have hlast : d = c := by simpa using congrArg List.getLast? h
        simpa [← hlast] using hd
    · rename_i hkept
      have hne : trimEnd cs ≠ [] := hkept
      cases before with
      | nil => simp_all
      | cons b before =>
        simp only [List.cons_append, List.cons.injEq] at h
        exact ih h.2

theorem trimEnd_append {ys : List Char} (h : trimEnd ys ≠ []) (xs : List Char) :
    trimEnd (xs ++ ys) = xs ++ trimEnd ys := by
  induction xs with
  | nil => rfl
  | cons x xs ih =>
    have hne : xs ++ trimEnd ys ≠ [] := by simp [h]
    rw [List.cons_append, trimEnd, ih]
    split
    · rename_i hnil
      exact absurd hnil hne
    · rfl

theorem trimEnd_concat {c : Char} (hc : isBlank c = false) (cs : List Char) :
    trimEnd (cs ++ [c]) = cs ++ [c] := by
  have hkept : trimEnd [c] = [c] := by simp [trimEnd, hc]
  rw [trimEnd_append (by simp [hkept]), hkept]

theorem trimEnd_append_cons {c : Char} (hc : isBlank c = false) (xs ys : List Char) :
    trimEnd (xs ++ c :: ys) = xs ++ c :: trimEnd ys := by
  have hkept : trimEnd (c :: ys) = c :: trimEnd ys := by
    rw [trimEnd]
    split
    · rename_i hnil
      rw [hnil, if_neg (by simp [hc])]
    · rfl
  rw [trimEnd_append (by simp [hkept]), hkept]

theorem trimEnd_of_suffix {xs cs : List Char} (h : xs <:+ trimEnd cs) : trimEnd xs = xs := by
  rcases List.eq_nil_or_concat xs with rfl | ⟨most, last, rfl⟩
  · rfl
  · obtain ⟨before, hbefore⟩ := h
    rw [List.concat_eq_append, ← List.append_assoc] at hbefore
    rw [List.concat_eq_append, trimEnd_concat (isBlank_getLast_trimEnd hbefore.symm)]

theorem mem_trimEnd {c : Char} (hc : isBlank c = false) {cs : List Char} (h : c ∈ cs) :
    c ∈ trimEnd cs := by
  obtain ⟨before, after, rfl⟩ := List.append_of_mem h
  have hne : trimEnd (c :: after) ≠ [] := by
    rw [ne_eq, trimEnd_eq_nil_iff]
    intro hall
    simp [hall c List.mem_cons_self] at hc
  rw [trimEnd_append hne, trimEnd]
  split
  · simp [hc]
  · simp

theorem trimEnd_trimEnd (cs : List Char) : trimEnd (trimEnd cs) = trimEnd cs := by
  obtain ⟨blanks, hblanks, hcs⟩ := exists_trimEnd cs
  conv => rhs; rw [hcs, trimEnd_append_blanks hblanks]

theorem trimStart_trimEnd (cs : List Char) : trimStart (trimEnd cs) = trimEnd (trimStart cs) := by
  induction cs with
  | nil => rfl
  | cons c cs ih =>
    by_cases hc : isBlank c = true
    · have hstart : trimStart (c :: cs) = trimStart cs := List.dropWhile_cons_of_pos hc
      rw [hstart, ← ih, trimEnd]
      split
      · rename_i hnil
        rw [if_pos hc, hnil]
      · exact List.dropWhile_cons_of_pos hc
    · have hstart : trimStart (c :: cs) = c :: cs := List.dropWhile_cons_of_neg hc
      have hkept := trimEnd_append_cons (by simpa using hc) [] cs
      rw [List.nil_append, List.nil_append] at hkept
      rw [hstart, hkept]
      exact List.dropWhile_cons_of_neg hc

theorem mem_of_mem_trimEnd {c : Char} {cs : List Char} (h : c ∈ trimEnd cs) : c ∈ cs := by
  induction cs with
  | nil => exact h
  | cons d cs ih =>
    rw [trimEnd] at h
    split at h
    · split at h
      · cases h
      · exact List.mem_cons.2 (.inl (List.mem_singleton.1 h))
    · rcases List.mem_cons.1 h with rfl | h
      · exact List.mem_cons_self
      · exact List.mem_cons_of_mem d (ih h)

theorem mem_of_mem_trimBoth {c : Char} {cs : List Char} (h : c ∈ trimBoth cs) : c ∈ cs :=
  (List.dropWhile_suffix isBlank).subset (mem_of_mem_trimEnd h)

theorem trimBoth_eq_nil_iff (cs : List Char) :
    trimBoth cs = [] ↔ cs.all isBlank = true := by
  rw [trimBoth, trimEnd_eq_nil_iff, List.all_eq_true]
  constructor
  · intro h c hc
    rw [← List.takeWhile_append_dropWhile (p := isBlank) (l := cs)] at hc
    rcases List.mem_append.1 hc with hc | hc
    · exact List.mem_takeWhile_imp hc
    · exact h c hc
  · intro h c hc
    exact h c ((List.dropWhile_suffix isBlank).subset hc)

theorem trimBoth_between {before after : List Char} (hbefore : ∀ c ∈ before, isBlank c = true)
    (hafter : ∀ c ∈ after, isBlank c = true) (cs : List Char) :
    trimBoth (before ++ (cs ++ after)) = trimBoth cs := by
  rw [trimBoth, trimStart, List.dropWhile_append_of_pos hbefore, List.dropWhile_append]
  split
  · rename_i hnil
    have hblank : trimEnd (after.dropWhile isBlank) = [] :=
      (trimEnd_eq_nil_iff _).2 fun c hc => hafter c ((List.dropWhile_suffix isBlank).subset hc)
    rw [hblank, trimBoth, trimStart, List.isEmpty_iff.1 hnil]
    rfl
  · rw [trimEnd_append_blanks hafter, trimBoth, trimStart]

theorem trimBoth_ne_nil {s : String} (h : isBlankText s = false) : trimBoth s.toList ≠ [] := by
  rw [ne_eq, trimBoth_eq_nil_iff]
  simpa [isBlankText] using h

theorem trimBoth_eq_self {cs : List Char} (hfirst : ∀ c ∈ cs.head?, isBlank c = false)
    (hlast : ∀ c ∈ cs.getLast?, isBlank c = false) : trimBoth cs = cs := by
  have hstart : trimStart cs = cs := by
    cases cs with
    | nil => rfl
    | cons c cs => simp [trimStart, hfirst c rfl]
  rw [trimBoth, hstart]
  rcases List.eq_nil_or_concat cs with rfl | ⟨most, last, rfl⟩
  · rfl
  · rw [List.concat_eq_append, trimEnd_concat (hlast last (by simp))]

theorem head?_trimBoth {c : Char} (hc : isBlank c = false) (cs : List Char) :
    (trimBoth (c :: cs)).head? = some c := by
  rw [trimBoth, trimStart, List.dropWhile_cons_of_neg (by simp [hc]), trimEnd]
  split
  · simp [hc]
  · rfl

theorem isBlank_of_mem_head?_trimBoth {cs : List Char} {c : Char}
    (h : c ∈ (trimBoth cs).head?) : isBlank c = false := by
  obtain ⟨blanks, -, hcs⟩ := exists_trimEnd (trimStart cs)
  have hhead : (trimStart cs).head? = some c := by
    rw [hcs, List.head?_append, ← trimBoth, h, Option.some_or]
  have hstop := List.head?_dropWhile_not isBlank cs
  rw [← trimStart, hhead] at hstop
  simpa using hstop

theorem isBlank_of_mem_getLast?_trimBoth {cs : List Char} {c : Char}
    (h : c ∈ (trimBoth cs).getLast?) : isBlank c = false := by
  obtain ⟨most, hmost⟩ := List.getLast?_eq_some_iff.1 h
  exact isBlank_getLast_trimEnd hmost

theorem trimBoth_trimBoth (cs : List Char) : trimBoth (trimBoth cs) = trimBoth cs :=
  trimBoth_eq_self (fun _ => isBlank_of_mem_head?_trimBoth)
    fun _ => isBlank_of_mem_getLast?_trimBoth

theorem trimBoth_eq_self_iff (cs : List Char) :
    trimBoth cs = cs ↔
      (∀ c ∈ cs.head?, isBlank c = false) ∧ ∀ c ∈ cs.getLast?, isBlank c = false := by
  constructor
  · intro h
    rw [← h]
    exact ⟨fun _ => isBlank_of_mem_head?_trimBoth, fun _ => isBlank_of_mem_getLast?_trimBoth⟩
  · exact fun h => trimBoth_eq_self h.1 h.2

end Text

namespace Name

theorem isPart_of_isStart {c : Char} (h : isStart c = true) : isPart c = true := by
  simp only [isStart, Bool.or_eq_true, beq_iff_eq] at h
  rcases h with (h | rfl) | rfl
  · simp [isPart, Text.isWord_of_isLetter h]
  · decide +kernel
  · decide +kernel

theorem isPart_of_isIdentifier {c : Char} {cs : List Char} (h : isIdentifier cs = true)
    (hc : c ∈ cs) : isPart c = true := by
  cases cs with
  | nil => cases hc
  | cons d cs =>
    simp only [isIdentifier, Bool.and_eq_true, List.all_eq_true] at h
    rcases List.mem_cons.1 hc with rfl | hc
    · exact isPart_of_isStart h.1
    · exact h.2 c hc

theorem isBlank_of_isPart {c : Char} (h : isPart c = true) : Text.isBlank c = false :=
  Text.isBlank_eq_false (by decide +kernel) h

end Name

theorem Settings.isBlank_of_isNameChar {c : Char} (h : isNameChar c = true) :
    Text.isBlank c = false :=
  Text.isBlank_eq_false (by decide +kernel) h

end Crosslink
