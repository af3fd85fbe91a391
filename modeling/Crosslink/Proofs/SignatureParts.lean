import Crosslink.Proofs.ParameterNames

set_option autoImplicit false

namespace Crosslink.Signature

open Angles

/-- A text that closes `depth` parentheses more than it opens, and no start of which closes more
    than that. If `depth` is zero, its parentheses are paired. -/
structure Closes (depth : Nat) (cs : List Char) : Prop where
  count_eq : cs.count ')' = depth + cs.count '('
  count_le : ∀ start, start <+: cs → start.count ')' ≤ depth + start.count '('

/-- Nothing closes the first parenthesis of a text: what follows it is no text with paired
    parentheses and a closing one behind them. -/
def Unclosed (cs : List Char) : Prop :=
  '(' ∈ cs ∧
    ∀ inner tail, Closes 0 inner → cs.dropWhile (· != '(') ≠ '(' :: (inner ++ ')' :: tail)

theorem closes_nil_iff {depth : Nat} : Closes depth [] ↔ depth = 0 := by
  constructor
  · intro h
    have hcount := h.count_eq
    rw [List.count_nil, List.count_nil] at hcount
    omega
  · rintro rfl
    refine ⟨rfl, fun start hstart => ?_⟩
    rw [List.prefix_nil.1 hstart]
    exact Nat.le_refl _

theorem closes_cons_iff {depth depth' : Nat} {c : Char}
    (h : depth' + [c].count ')' = depth + [c].count '(') {cs : List Char} :
    Closes depth (c :: cs) ↔ Closes depth' cs := by
  have hcons (d : Char) (xs : List Char) : (c :: xs).count d = [c].count d + xs.count d := by
    rw [← List.singleton_append, List.count_append]
  constructor
  · rintro ⟨heq, hle⟩
    rw [hcons ')' cs, hcons '(' cs] at heq
    refine ⟨by omega, fun start hstart => ?_⟩
    have hlonger := hle (c :: start) ((List.prefix_cons_inj c).2 hstart)
    rw [hcons ')' start, hcons '(' start] at hlonger
    omega
  · rintro ⟨heq, hle⟩
    refine ⟨by rw [hcons ')' cs, hcons '(' cs]; omega, fun start hstart => ?_⟩
    rcases List.prefix_cons_iff.1 hstart with rfl | ⟨more, rfl, hmore⟩
    · simp
    · have hshorter := hle more hmore
      rw [hcons ')' more, hcons '(' more]
      omega

theorem not_closes_zero (cs : List Char) : ¬Closes 0 (')' :: cs) := by
  intro h
  have hcount := h.count_le [')'] ⟨cs, rfl⟩
  exact absurd hcount (by decide)

theorem map_cons_eq_some_iff {c : Char} {o : Option (List Char × List Char)}
    {inner tail : List Char} :
    (o.map fun p => (c :: p.1, p.2)) = some (c :: inner, tail) ↔ o = some (inner, tail) := by
  cases o with
  | none => simp
  | some p => simp [Prod.ext_iff]

theorem toClose?_append_close_iff {depth : Nat} {inner tail : List Char} :
    toClose? depth (inner ++ ')' :: tail) = some (inner, tail) ↔ Closes depth inner := by
  induction inner generalizing depth with
  | nil =>
    rw [closes_nil_iff]
    cases depth <;> simp
  | cons c inner ih =>
    rw [List.cons_append]
    rcases paren_cases c with rfl | rfl | ⟨hopen, hclose⟩
    · rw [toClose?_open, map_cons_eq_some_iff, ih]
      exact (closes_cons_iff (by simp)).symm
    · cases depth with
      | zero => simp [not_closes_zero]
      | succ depth =>
        rw [toClose?_close_succ, map_cons_eq_some_iff, ih]
        exact (closes_cons_iff (by simp)).symm
    · rw [toClose?_other hopen hclose, map_cons_eq_some_iff, ih]
      exact (closes_cons_iff (by simp [hopen, hclose])).symm

/-- The text up to the closing parenthesis is the one that closes as many as are open. -/
theorem toClose?_eq_some_iff {depth : Nat} {cs inner tail : List Char} :
    toClose? depth cs = some (inner, tail) ↔ cs = inner ++ ')' :: tail ∧ Closes depth inner := by
  constructor
  · intro h
    obtain ⟨rfl, -⟩ := toClose?_eq_some h
    exact ⟨rfl, toClose?_append_close_iff.1 h⟩
  · rintro ⟨rfl, h⟩
    exact toClose?_append_close_iff.2 h

theorem unclosed_iff {head : List Char} (h : '(' ∉ head) (body : List Char) :
    Unclosed (head ++ '(' :: body) ↔ toClose? 0 body = none := by
  simp only [Unclosed, fromParen_append h, Option.eq_none_iff_forall_ne_some, Prod.forall,
    ne_eq, toClose?_eq_some_iff, not_and', List.cons.injEq, true_and]
  simp

theorem not_unclosed_of_not_mem {cs : List Char} (h : '(' ∉ cs) : ¬Unclosed cs :=
  fun hopen => h hopen.1

/-- How counting the parentheses of a text ends: at the one that brings the counter back to zero, at
    the end of the text, or at one that would bring it below zero. -/
inductive Count where
  | closed (inner rest : List Char)
  | unclosed
  | underflow
  deriving DecidableEq

def Count.cons (c : Char) : Count → Count
  | closed inner rest => closed (c :: inner) rest
  | unclosed => unclosed
  | underflow => underflow

/-- Counts the open parentheses of a text, from `depth` on, until none is left. -/
def count : Nat → List Char → Count
  | _, [] => .unclosed
  | depth, c :: cs =>
    if c = '(' then .cons c (count (depth + 1) cs)
    else if c = ')' then
      match depth with
      | 0 => .underflow
      | 1 => .closed [] cs
      | depth + 2 => .cons c (count (depth + 1) cs)
    else .cons c (count depth cs)

def Count.ofClose : Option (List Char × List Char) → Count
  | some (inner, rest) => closed inner rest
  | none => unclosed

theorem Count.cons_ofClose (c : Char) (o : Option (List Char × List Char)) :
    Count.cons c (ofClose o) = ofClose (o.map fun p => (c :: p.1, p.2)) := by
  cases o <;> rfl

/-- With a parenthesis open the counter finds the one that closes it, and never underflows. -/
theorem count_succ (depth : Nat) (cs : List Char) :
    count (depth + 1) cs = .ofClose (toClose? depth cs) := by
  induction cs generalizing depth with
  | nil => rw [toClose?_nil]; rfl
  | cons c cs ih =>
    rcases paren_cases c with rfl | rfl | ⟨hopen, hclose⟩
    · simp only [count, if_true, ih, toClose?_open, Count.cons_ofClose]
    · cases depth with
      | zero => rw [toClose?_close_zero]; rfl
      | succ depth =>
        rw [toClose?_close_succ, ← Count.cons_ofClose, ← ih]
        rfl
    · simp only [count, hopen, hclose, if_false, ih, toClose?_other hopen hclose,
        Count.cons_ofClose]

theorem count_open (body : List Char) :
    count 0 ('(' :: body) = .cons '(' (.ofClose (toClose? 0 body)) := by
  simp only [count, if_true, count_succ]

theorem count_open_ne_underflow (body : List Char) : count 0 ('(' :: body) ≠ .underflow := by
  rw [count_open]
  cases toClose? 0 body <;> simp [Count.ofClose, Count.cons]

def opened (cs : List Char) : Int := cs.count '<' - cs.count '>'

/-- The positions of the commas in front of which no bracket is open on balance. -/
def outerCommas (cs : List Char) : List Nat :=
  (List.range cs.length).filter fun i => cs[i]? = some ',' ∧ opened (cs.take i) ≤ 0

theorem opened_cons (c : Char) (cs : List Char) (depth : Int) :
    depth + opened (c :: cs) = deeper depth c + opened cs := by
  rcases angle_cases c with rfl | rfl | ⟨hopen, hclose⟩
  · simp [opened, deeper]
    omega
  · simp [opened, deeper]
    omega
  · simp [opened, deeper, hopen, hclose]

theorem intercalate_splitFrom (depth : Int) (cs : List Char) :
    [','].intercalate (splitFrom depth cs) = cs := by
  induction cs generalizing depth with
  | nil => rfl
  | cons c cs ih =>
    by_cases hstop : c = ',' ∧ depth ≤ 0
    · obtain ⟨rfl, hdepth⟩ := hstop
      obtain ⟨piece, pieces, hpieces⟩ := List.exists_cons_of_ne_nil (splitFrom_ne_nil depth cs)
      have hjoined := ih depth
      rw [hpieces] at hjoined
      rw [splitFrom_comma hdepth, hpieces, List.intercalate_cons_cons, hjoined]
      rfl
    · obtain ⟨piece, pieces, hpieces⟩ :=
        List.exists_cons_of_ne_nil (splitFrom_ne_nil (deeper depth c) cs)
      have hjoined := ih (deeper depth c)
      rw [hpieces] at hjoined
      rw [splitFrom_cons hstop, hpieces, List.modifyHead_cons, List.intercalate_cons_cons_left,
        hjoined]

theorem length_splitFrom (depth : Int) (cs : List Char) :
    (splitFrom depth cs).length =
      ((List.range cs.length).countP
        fun i => cs[i]? = some ',' ∧ depth + opened (cs.take i) ≤ 0) + 1 := by
  induction cs generalizing depth with
  | nil => rfl
  | cons c cs ih =>
    have hmore : (splitFrom (deeper depth c) cs).length =
        ((List.range cs.length).countP
          fun i => (c :: cs)[i + 1]? = some ',' ∧
            depth + opened ((c :: cs).take (i + 1)) ≤ 0) + 1 := by
      simp only [ih, List.getElem?_cons_succ, List.take_succ_cons, opened_cons]
    have hfirst : (c :: cs)[0]? = some ',' ∧ depth + opened ((c :: cs).take 0) ≤ 0 ↔
        c = ',' ∧ depth ≤ 0 := by
      simp [opened]
    rw [List.length_cons, List.range_succ_eq_map, List.countP_cons, List.countP_map]
    simp only [hfirst, decide_eq_true_eq]
    by_cases hstop : c = ',' ∧ depth ≤ 0
    · obtain ⟨rfl, hdepth⟩ := hstop
      rw [if_pos ⟨rfl, hdepth⟩, splitFrom_comma hdepth, List.length_cons]
      exact congrArg (· + 1) hmore
    · rw [if_neg hstop, splitFrom_cons hstop, List.length_modifyHead]
      exact hmore

/-- A text with a parenthesis is cut without loss, at the parenthesis that closes the first one or
    else at its end, by a counter that never underflows; and cutting a list of parameters loses
    nothing but the commas that no bracket holds. -/
theorem signature_cut_lossless {cs : List Char} (h : '(' ∈ cs) :
    (∃ head params tail, ofText cs = ⟨head, some params, tail⟩ ∧ '(' ∉ head ∧
      ((cs = head ++ '(' :: (params ++ ')' :: tail) ∧ Closes 0 params ∧
          count 0 (cs.dropWhile (· != '(')) = .closed ('(' :: params) tail) ∨
        (Unclosed cs ∧ tail = [] ∧ cs = head ++ '(' :: params ∧
          count 0 (cs.dropWhile (· != '(')) = .unclosed))) ∧
    count 0 (cs.dropWhile (· != '(')) ≠ .underflow ∧
    ∀ params, [','].intercalate (splitParameters params) = params ∧
      (splitParameters params).length = (outerCommas params).length + 1 := by
  obtain ⟨head, body, rfl, hhead⟩ := List.eq_append_cons_of_mem h
  have hcommas (params : List Char) : [','].intercalate (splitParameters params) = params ∧
      (splitParameters params).length = (outerCommas params).length + 1 := by
    refine ⟨intercalate_splitFrom 0 params, ?_⟩
    rw [splitParameters, length_splitFrom, outerCommas, ← List.countP_eq_length_filter]
    simp only [Int.zero_add]
  rw [fromParen_append hhead]
  refine ⟨?_, count_open_ne_underflow body, hcommas⟩
  rw [ofText_append hhead, count_open, unclosed_iff hhead]
  cases hclose : toClose? 0 body with
  | none => exact ⟨head, body, [], rfl, hhead, .inr ⟨rfl, rfl, rfl, rfl⟩⟩
  | some p =>
    obtain ⟨params, tail⟩ := p
    obtain ⟨rfl, hcloses⟩ := toClose?_eq_some_iff.1 hclose
    exact ⟨head, params, tail, rfl, hhead, .inl ⟨rfl, hcloses, rfl⟩⟩

theorem signature_cut_lossless_around_call :
    let cs := "a.f(g(), Map<K, V>[])(x".toList
    let params := "g(), Map<K, V>[]".toList
    '(' ∈ cs ∧ cs = "a.f".toList ++ '(' :: (params ++ ')' :: "(x".toList) ∧ Closes 0 params ∧
      count 0 (cs.dropWhile (· != '(')) = .closed ('(' :: params) "(x".toList ∧
      count 0 (cs.dropWhile (· != '(')) ≠ .underflow ∧
      [','].intercalate (splitParameters params) = params ∧
      (splitParameters params).length = (outerCommas params).length + 1 := by
  intro cs params
  have hmem : '(' ∈ cs := by decide +kernel
  obtain ⟨⟨head, inner, tail, hcut, -, hparts⟩, hcount, hcommas⟩ := signature_cut_lossless hmem
  have hgiven : ofText cs = ⟨"a.f".toList, some params, "(x".toList⟩ := by decide +kernel
  rw [hgiven] at hcut
  cases hcut
  rcases hparts with ⟨hcs, hcloses, hclosed⟩ | ⟨-, htail, -⟩
  · exact ⟨hmem, hcs, hcloses, hclosed, hcount, hcommas params⟩
  · exact absurd htail (by decide +kernel)

end Crosslink.Signature
