import Crosslink.Signature
import Mathlib.Data.List.TakeWhile

set_option autoImplicit false

namespace Crosslink.Signature

@[simp] theorem toClose?_nil (depth : Nat) : toClose? depth [] = none := by
  simp [toClose?]

@[simp] theorem toClose?_close_zero (cs : List Char) : toClose? 0 (')' :: cs) = some ([], cs) := by
  simp [toClose?]

@[simp] theorem toClose?_close_succ (depth : Nat) (cs : List Char) :
    toClose? (depth + 1) (')' :: cs) = (toClose? depth cs).map fun p => (')' :: p.1, p.2) := by
  simp [toClose?]

@[simp] theorem toClose?_open (depth : Nat) (cs : List Char) :
    toClose? depth ('(' :: cs) = (toClose? (depth + 1) cs).map fun p => ('(' :: p.1, p.2) := by
  cases depth <;> simp [toClose?]

theorem toClose?_other {c : Char} (hopen : c ≠ '(') (hclose : c ≠ ')') (depth : Nat)
    (cs : List Char) :
    toClose? depth (c :: cs) = (toClose? depth cs).map fun p => (c :: p.1, p.2) := by
  cases depth <;> simp [toClose?, hclose]

theorem paren_cases (c : Char) : c = '(' ∨ c = ')' ∨ (c ≠ '(' ∧ c ≠ ')') := by
  grind

theorem toClose?_append {xs : List Char} (hopen : '(' ∉ xs) (hclose : ')' ∉ xs) (depth : Nat)
    (ys : List Char) :
    toClose? depth (xs ++ ys) = (toClose? depth ys).map fun p => (xs ++ p.1, p.2) := by
  induction xs with
  | nil => simp
  | cons c xs ih =>
    simp only [List.mem_cons, not_or] at hopen hclose
    rw [List.cons_append, toClose?_other (Ne.symm hopen.1) (Ne.symm hclose.1),
      ih hopen.2 hclose.2, Option.map_map]
    rfl

theorem toClose?_eq_some {depth : Nat} {cs inner rest : List Char}
    (h : toClose? depth cs = some (inner, rest)) :
    cs = inner ++ ')' :: rest ∧
      ∀ more, toClose? depth (inner ++ ')' :: more) = some (inner, more) := by
  induction cs generalizing depth inner with
  | nil => simp at h
  | cons c cs ih =>
    rcases paren_cases c with rfl | rfl | ⟨hopen, hclose⟩
    · rw [toClose?_open] at h
      obtain ⟨⟨inner', rest'⟩, hcs, heq⟩ := Option.map_eq_some_iff.1 h
      cases heq
      obtain ⟨rfl, hmore⟩ := ih hcs
      exact ⟨rfl, fun more => by rw [List.cons_append, toClose?_open, hmore]; rfl⟩
    · cases depth with
      | zero =>
        rw [toClose?_close_zero] at h
        cases h
        exact ⟨rfl, fun more => toClose?_close_zero more⟩
      | succ depth =>
        rw [toClose?_close_succ] at h
        obtain ⟨⟨inner', rest'⟩, hcs, heq⟩ := Option.map_eq_some_iff.1 h
        cases heq
        obtain ⟨rfl, hmore⟩ := ih hcs
        exact ⟨rfl, fun more => by rw [List.cons_append, toClose?_close_succ, hmore]; rfl⟩
    · rw [toClose?_other hopen hclose] at h
      obtain ⟨⟨inner', rest'⟩, hcs, heq⟩ := Option.map_eq_some_iff.1 h
      cases heq
      obtain ⟨rfl, hmore⟩ := ih hcs
      exact ⟨rfl, fun more => by rw [List.cons_append, toClose?_other hopen hclose, hmore]; rfl⟩

theorem toClose?_concat {depth : Nat} {cs : List Char} (h : toClose? depth cs = none) :
    toClose? depth (cs ++ [')']) = some (cs, []) ∨ toClose? depth (cs ++ [')']) = none := by
  induction cs generalizing depth with
  | nil => cases depth <;> simp
  | cons c cs ih =>
    rw [List.cons_append]
    rcases paren_cases c with rfl | rfl | ⟨hopen, hclose⟩
    · rw [toClose?_open, Option.map_eq_none_iff] at h
      rw [toClose?_open]
      rcases ih h with hcs | hcs <;> simp [hcs]
    · cases depth with
      | zero => simp at h
      | succ depth =>
        rw [toClose?_close_succ, Option.map_eq_none_iff] at h
        rw [toClose?_close_succ]
        rcases ih h with hcs | hcs <;> simp [hcs]
    · rw [toClose?_other hopen hclose, Option.map_eq_none_iff] at h
      rw [toClose?_other hopen hclose]
      rcases ih h with hcs | hcs <;> simp [hcs]

/-- A text behind an opening parenthesis with `f` applied to what stands before the parenthesis that
    closes it; that one is added if it is missing. -/
def mapParameters (f : List Char → List Char) (body : List Char) : List Char :=
  match toClose? 0 body with
  | some (inner, tail) => f inner ++ ')' :: tail
  | none => f body ++ [')']

theorem bne_of_not_mem {cs : List Char} (h : '(' ∉ cs) : ∀ c ∈ cs, (c != '(') = true := by
  intro c hc
  rw [bne_iff_ne]
  rintro rfl
  exact h hc

theorem ofText_of_not_mem {cs : List Char} (h : '(' ∉ cs) : ofText cs = ⟨cs, none, []⟩ := by
  rw [ofText, List.takeWhile_eq_self_iff.2 (bne_of_not_mem h),
    List.dropWhile_eq_nil_iff.2 (bne_of_not_mem h)]

theorem fromParen_append {head : List Char} (h : '(' ∉ head) (body : List Char) :
    (head ++ '(' :: body).dropWhile (· != '(') = '(' :: body := by
  rw [List.dropWhile_append_of_pos (bne_of_not_mem h)]
  simp

theorem ofText_append {head : List Char} (h : '(' ∉ head) (body : List Char) :
    ofText (head ++ '(' :: body) =
      match toClose? 0 body with
      | some (inner, tail) => ⟨head, some inner, tail⟩
      | none => ⟨head, some body, []⟩ := by
  have hhead : (head ++ '(' :: body).takeWhile (· != '(') = head := by
    rw [List.takeWhile_append_of_pos (bne_of_not_mem h)]
    simp
  cases hclose : toClose? 0 body with
  | none => simp [ofText, hhead, fromParen_append h, hclose]
  | some p => simp [ofText, hhead, fromParen_append h, hclose]

theorem exists_head (cs : List Char) :
    '(' ∉ cs ∨ ∃ head body, '(' ∉ head ∧ cs = head ++ '(' :: body := by
  by_cases hmem : '(' ∈ cs
  · obtain ⟨head, body, hcs, hhead⟩ := List.eq_append_cons_of_mem hmem
    exact .inr ⟨head, body, hhead, hcs⟩
  · exact .inl hmem

theorem withoutPackage_of_not_mem {cs : List Char} (h : '(' ∉ cs) :
    withoutPackage cs = (fromClass? true cs).getD cs := by
  rw [withoutPackage, ofText_of_not_mem h]
  cases hclass : fromClass? true cs with
  | none => rfl
  | some head => simp [toText]

theorem withoutPackage_append {head : List Char} (h : '(' ∉ head) (body : List Char) :
    withoutPackage (head ++ '(' :: body) =
      match fromClass? true head with
      | some path => path ++ '(' :: mapParameters id body
      | none => head ++ '(' :: body := by
  rw [withoutPackage, ofText_append h]
  cases hbody : toClose? 0 body with
  | none => cases fromClass? true head <;> simp [toText, mapParameters, hbody]
  | some p => cases fromClass? true head <;> simp [toText, mapParameters, hbody]

theorem withoutParameterPackages_of_not_mem {cs : List Char} (h : '(' ∉ cs) :
    withoutParameterPackages cs = cs := by
  rw [withoutParameterPackages, ofText_of_not_mem h]

theorem withoutParameterPackages_append {head : List Char} (h : '(' ∉ head) (body : List Char) :
    withoutParameterPackages (head ++ '(' :: body) =
      head ++ '(' :: mapParameters (Name.mapDotted withoutPackage) body := by
  rw [withoutParameterPackages, ofText_append h]
  cases hbody : toClose? 0 body with
  | none => simp [toText, mapParameters, hbody]
  | some p => simp [toText, mapParameters, hbody]

/-- Every parenthesis stays, with the changed texts before and behind it, and none is new. -/
structure KeepsParens (g : List Char → List Char) : Prop where
  nil : g [] = []
  divides : ∀ c, c = '(' ∨ c = ')' → ∀ xs ys, g (xs ++ c :: ys) = g xs ++ c :: g ys
  mem : ∀ c, c = '(' ∨ c = ')' → ∀ xs, c ∈ g xs → c ∈ xs

section

variable {f g : List Char → List Char}

theorem KeepsParens.toClose?_append (hg : KeepsParens g) (xs : List Char) (hopen : '(' ∉ xs)
    (hclose : ')' ∉ xs) (depth : Nat) (ys : List Char) :
    toClose? depth (g (xs ++ ys)) =
      (toClose? depth (xs ++ ys)).map fun p => (g p.1, g p.2) := by
  have hskip {zs : List Char} (hopen : '(' ∉ zs) (hclose : ')' ∉ zs) (depth : Nat)
      (more : List Char) :
      toClose? depth (g zs ++ more) = (toClose? depth more).map fun p => (g zs ++ p.1, p.2) :=
    Signature.toClose?_append (fun h => hopen (hg.mem _ (.inl rfl) zs h))
      (fun h => hclose (hg.mem _ (.inr rfl) zs h)) depth more
  -- The characters that are no parentheses gather in front until the next one comes.
  induction ys generalizing xs depth with
  | nil =>
    have hnone := hskip hopen hclose depth []
    have hnone' := Signature.toClose?_append hopen hclose depth []
    simp only [List.append_nil, toClose?_nil, Option.map_none] at hnone hnone'
    rw [List.append_nil, hnone, hnone', Option.map_none]
  | cons c ys ih =>
    have hnext (depth : Nat) :
        toClose? depth (g ys) = (toClose? depth ys).map fun p => (g p.1, g p.2) :=
      ih [] (by simp) (by simp) depth
    rcases paren_cases c with rfl | rfl | ⟨hne, hne'⟩
    · rw [hg.divides _ (.inl rfl), hskip hopen hclose, toClose?_open, hnext,
        Signature.toClose?_append hopen hclose, toClose?_open]
      simp [Function.comp_def, hg.divides _ (.inl rfl)]
    · rw [hg.divides _ (.inr rfl), hskip hopen hclose, Signature.toClose?_append hopen hclose]
      cases depth with
      | zero => simp
      | succ depth =>
        rw [toClose?_close_succ, hnext, toClose?_close_succ]
        simp [Function.comp_def, hg.divides _ (.inr rfl)]
    · have hgather := ih (xs ++ [c]) (by simp [hopen, hne.symm]) (by simp [hclose, hne'.symm]) depth
      simpa using hgather

theorem KeepsParens.toClose? (hg : KeepsParens g) (depth : Nat) (cs : List Char) :
    toClose? depth (g cs) = (Signature.toClose? depth cs).map fun p => (g p.1, g p.2) :=
  hg.toClose?_append [] (by simp) (by simp) depth cs

/-- Parameters are respelled before or after a change that keeps the parentheses. -/
theorem KeepsParens.mapParameters_comm (hg : KeepsParens g) (hcomm : ∀ xs, g (f xs) = f (g xs))
    (body : List Char) : g (mapParameters f body) = mapParameters f (g body) := by
  have hclose := hg.toClose? 0 body
  unfold mapParameters
  cases hbody : Signature.toClose? 0 body with
  | none =>
    rw [hbody, Option.map_none] at hclose
    rw [hclose]
    simp only
    rw [hg.divides _ (.inr rfl), hcomm, hg.nil]
  | some p =>
    rw [hbody, Option.map_some] at hclose
    rw [hclose]
    simp only
    rw [hg.divides _ (.inr rfl), hcomm]

theorem KeepsParens.mapParameters_id (hg : KeepsParens g) (body : List Char) :
    mapParameters id (mapParameters g body) = mapParameters g (mapParameters id body) := by
  cases hbody : Signature.toClose? 0 body with
  | some p =>
    obtain ⟨inner, tail⟩ := p
    obtain ⟨rfl, hmore⟩ := toClose?_eq_some hbody
    -- The changed parameters close where the given ones do.
    have hinner : Signature.toClose? 0 (g inner ++ ')' :: tail) = some (g inner, tail) := by
      have hclose := hg.toClose? 0 (inner ++ [')'])
      rw [hmore, hg.divides _ (.inr rfl)] at hclose
      exact (toClose?_eq_some hclose).2 tail
    simp [mapParameters, hbody, hinner]
  | none =>
    have hadded := hg.divides ')' (.inr rfl) body []
    rw [hg.nil] at hadded
    have hclose := hg.toClose? 0 (body ++ [')'])
    rw [hadded] at hclose
    rcases toClose?_concat hbody with hclosed | hopen
    · rw [hclosed] at hclose
      simp [mapParameters, hbody, hclosed, hclose, hg.nil]
    · rw [hopen] at hclose
      simp [mapParameters, hbody, hopen, hclose, hadded]

end

end Crosslink.Signature
