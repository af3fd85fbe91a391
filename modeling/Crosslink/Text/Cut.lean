set_option autoImplicit false

/-!
Cutting lists of characters: at a separator, after a given start, before the first occurrence of a
given text. Each cut loses nothing, so that the pieces put together again give the whole.
-/

namespace Crosslink.Text

/-- The pieces between the occurrences of `sep`; there is always at least one piece. -/
def splitOn (sep : Char) : List Char → List (List Char)
  | [] => [[]]
  | c :: cs =>
    match splitOn sep cs with
    | [] => [[c]]
    | piece :: pieces => if c = sep then [] :: piece :: pieces else (c :: piece) :: pieces

def dropStart? : List Char → List Char → Option (List Char)
  | [], cs => some cs
  | _ :: _, [] => none
  | s :: start, c :: cs => if s = c then dropStart? start cs else none

def dropEnding? (ending cs : List Char) : Option (List Char) :=
  (dropStart? ending.reverse cs.reverse).map List.reverse

def cutAt? (mark : List Char) : List Char → Option (List Char × List Char)
  | [] => if mark.isEmpty then some ([], []) else none
  | c :: cs =>
    match dropStart? mark (c :: cs) with
    | some rest => some ([], rest)
    | none => (cutAt? mark cs).map fun (before, rest) => (c :: before, rest)

def occursIn (part whole : List Char) : Bool := (cutAt? part whole).isSome

def cutAtLast? (sep : Char) : List Char → Option (List Char × List Char)
  | [] => none
  | c :: cs =>
    match cutAtLast? sep cs with
    | some (before, rest) => some (c :: before, rest)
    | none => if c = sep then some ([], cs) else none

theorem splitOn_ne_nil (sep : Char) (cs : List Char) : splitOn sep cs ≠ [] := by
  cases cs with
  | nil => simp [splitOn]
  | cons c cs =>
    rw [splitOn]
    split
    · simp
    · split <;> simp

theorem splitOn_of_not_mem {sep : Char} {cs : List Char} (h : sep ∉ cs) :
    splitOn sep cs = [cs] := by
  induction cs with
  | nil => rfl
  | cons c cs ih =>
    simp only [List.mem_cons, not_or] at h
    rw [splitOn, ih h.2]
    exact if_neg fun hc => h.1 hc.symm

theorem splitOn_append (sep : Char) (xs ys : List Char) :
    splitOn sep (xs ++ sep :: ys) = splitOn sep xs ++ splitOn sep ys := by
  induction xs with
  | nil =>
    obtain ⟨piece, pieces, hys⟩ := List.exists_cons_of_ne_nil (splitOn_ne_nil sep ys)
    simp [splitOn, hys]
  | cons x xs ih =>
    obtain ⟨piece, pieces, hxs⟩ := List.exists_cons_of_ne_nil (splitOn_ne_nil sep xs)
    rw [List.cons_append, splitOn, ih, splitOn, hxs]
    simp only [List.cons_append]
    split <;> rfl

theorem dropStart?_eq_some {start cs rest : List Char} (h : dropStart? start cs = some rest) :
    cs = start ++ rest := by
  induction start generalizing cs with
  | nil => simpa [dropStart?] using h
  | cons s start ih =>
    cases cs with
    | nil => simp [dropStart?] at h
    | cons c cs =>
      by_cases hc : s = c
      · simp only [dropStart?, hc, if_true] at h
        simp [hc, ih h]
      · simp [dropStart?, hc] at h

theorem cutAt?_eq_some {mark cs before rest : List Char}
    (h : cutAt? mark cs = some (before, rest)) : cs = before ++ mark ++ rest := by
  induction cs generalizing before with
  | nil =>
    by_cases hm : mark = []
    · simp only [cutAt?, hm, List.isEmpty_nil, if_true, Option.some.injEq, Prod.mk.injEq] at h
      simp [← h.1, ← h.2, hm]
    · simp [cutAt?, hm] at h
  | cons c cs ih =>
    rw [cutAt?] at h
    split at h
    · rename_i found
      simp only [Option.some.injEq, Prod.mk.injEq] at h
      obtain ⟨rfl, rfl⟩ := h
      simpa using dropStart?_eq_some found
    · obtain ⟨⟨before', rest'⟩, found, heq⟩ := Option.map_eq_some_iff.1 h
      simp only [Prod.mk.injEq] at heq
      obtain ⟨rfl, rfl⟩ := heq
      simp [ih found]

end Crosslink.Text
