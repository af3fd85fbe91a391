import Crosslink.Proofs.CanonicalLinks
import Mathlib.Data.List.Induction

set_option autoImplicit false

/-!
Where resolution by class and member cuts a payload: at its `#`, or else at the last dot of its
name. The `#` divides a class from a member. The last dot may stand inside angle brackets, and then
what follows it is no segment of the path but the end of an argument, with a bracket too many.
-/

namespace Crosslink

namespace Angles

/-- How many angle brackets are open behind a text, if `depth` are open before it; `none` if it
    closes more than that. -/
def depth? : Nat → List Char → Option Nat
  | depth, [] => some depth
  | depth, '<' :: cs => depth? (depth + 1) cs
  | 0, '>' :: _ => none
  | depth + 1, '>' :: cs => depth? depth cs
  | depth, _ :: cs => depth? depth cs

def IsBalanced (cs : List Char) : Prop := depth? 0 cs = some 0

instance (cs : List Char) : Decidable (IsBalanced cs) := inferInstanceAs (Decidable (_ = _))

/-- A bracket that the text opens is not closed in it. -/
def LeavesOpen (cs : List Char) : Prop :=
  ∃ outer inner, cs = outer ++ '<' :: inner ∧ (depth? 0 inner).isSome = true

@[simp] theorem depth?_open (depth : Nat) (cs : List Char) :
    depth? depth ('<' :: cs) = depth? (depth + 1) cs := by
  simp [depth?]

@[simp] theorem depth?_close (depth : Nat) (cs : List Char) :
    depth? (depth + 1) ('>' :: cs) = depth? depth cs := by
  simp [depth?]

@[simp] theorem depth?_close_zero (cs : List Char) : depth? 0 ('>' :: cs) = none := by
  simp [depth?]

@[simp] theorem depth?_other {c : Char} (hopen : c ≠ '<') (hclose : c ≠ '>') (depth : Nat)
    (cs : List Char) : depth? depth (c :: cs) = depth? depth cs := by
  cases depth <;> simp [depth?, hclose]

theorem angle_cases (c : Char) : c = '<' ∨ c = '>' ∨ (c ≠ '<' ∧ c ≠ '>') := by
  grind

theorem depth?_append (depth : Nat) (xs ys : List Char) :
    depth? depth (xs ++ ys) = (depth? depth xs).bind (depth? · ys) := by
  induction xs generalizing depth with
  | nil => rfl
  | cons c xs ih =>
    rw [List.cons_append]
    rcases angle_cases c with rfl | rfl | ⟨hopen, hclose⟩
    · simpa using ih (depth + 1)
    · cases depth with
      | zero => simp
      | succ depth => simpa using ih depth
    · simpa [hopen, hclose] using ih depth

theorem depth?_add {depth depth' : Nat} {cs : List Char} (h : depth? depth cs = some depth')
    (more : Nat) : depth? (depth + more) cs = some (depth' + more) := by
  induction cs generalizing depth with
  | nil => simpa [depth?] using h
  | cons c cs ih =>
    rcases angle_cases c with rfl | rfl | ⟨hopen, hclose⟩
    · rw [depth?_open] at h ⊢
      simpa [Nat.add_right_comm] using ih h
    · cases depth with
      | zero => simp at h
      | succ depth =>
        rw [depth?_close] at h
        simpa [Nat.add_right_comm] using ih h
    · rw [depth?_other hopen hclose] at h ⊢
      exact ih h

/-- Unless a bracket that the text opens stays open, all it does in the end is to close some of
    those open before it. -/
theorem exists_open {depth depth' : Nat} {cs : List Char} (h : depth? depth cs = some depth') :
    (∃ closed, depth? closed cs = some 0 ∧ depth' + closed = depth) ∨
    ∃ outer inner, cs = outer ++ '<' :: inner ∧ IsBalanced inner := by
  induction cs generalizing depth with
  | nil =>
    cases h
    exact .inl ⟨0, rfl, rfl⟩
  | cons c cs ih =>
    rcases angle_cases c with rfl | rfl | ⟨hopen, hclose⟩
    · rw [depth?_open] at h
      obtain ⟨closed, hclosed, hdepth⟩ | ⟨outer, inner, rfl, hinner⟩ := ih h
      · -- The rest closes this bracket first, if it closes any of those open before it.
        cases closed with
        | zero => exact .inr ⟨[], cs, rfl, hclosed⟩
        | succ closed => exact .inl ⟨closed, by rwa [depth?_open], by omega⟩
      · exact .inr ⟨'<' :: outer, inner, rfl, hinner⟩
    · cases depth with
      | zero => simp at h
      | succ depth =>
        rw [depth?_close] at h
        obtain ⟨closed, hclosed, hdepth⟩ | ⟨outer, inner, rfl, hinner⟩ := ih h
        · exact .inl ⟨closed + 1, by rwa [depth?_close], by omega⟩
        · exact .inr ⟨'>' :: outer, inner, rfl, hinner⟩
    · rw [depth?_other hopen hclose] at h
      obtain ⟨closed, hclosed, hdepth⟩ | ⟨outer, inner, rfl, hinner⟩ := ih h
      · exact .inl ⟨closed, by rwa [depth?_other hopen hclose], hdepth⟩
      · exact .inr ⟨c :: outer, inner, rfl, hinner⟩

theorem leavesOpen_iff {depth : Nat} {cs : List Char} (h : depth? 0 cs = some depth) :
    LeavesOpen cs ↔ 0 < depth := by
  constructor
  · rintro ⟨outer, inner, rfl, hinner⟩
    obtain ⟨left, hleft⟩ := Option.isSome_iff_exists.1 hinner
    rw [depth?_append] at h
    obtain ⟨before, -, hopen⟩ := Option.bind_eq_some_iff.1 h
    rw [depth?_open, ← Nat.zero_add (before + 1), depth?_add hleft (before + 1)] at hopen
    have := Option.some.inj hopen
    omega
  · intro hpositive
    obtain ⟨closed, -, hdepth⟩ | ⟨outer, inner, rfl, hinner⟩ := exists_open h
    · omega
    · exact ⟨outer, inner, rfl, Option.isSome_of_eq_some hinner⟩

theorem isBalanced_iff_not_leavesOpen {before after : List Char}
    (h : IsBalanced (before ++ '.' :: after)) : IsBalanced after ↔ ¬LeavesOpen before := by
  rw [IsBalanced, depth?_append] at h
  obtain ⟨depth, hbefore, hafter⟩ := Option.bind_eq_some_iff.1 h
  rw [depth?_other (by decide) (by decide)] at hafter
  rw [leavesOpen_iff hbefore, Nat.not_lt, Nat.le_zero]
  constructor
  · intro hbalanced
    have hadd := depth?_add hbalanced depth
    rw [Nat.zero_add, hafter] at hadd
    exact (Option.some.inj hadd).symm
  · rintro rfl
    exact hafter

/-- How many brackets a text leaves open, if those that close nothing are passed over. -/
def level (cs : List Char) : Nat :=
  cs.foldl (fun depth c => if c = '<' then depth + 1 else if c = '>' then depth - 1 else depth) 0

theorem level_concat (cs : List Char) (c : Char) :
    level (cs ++ [c]) =
      if c = '<' then level cs + 1 else if c = '>' then level cs - 1 else level cs := by
  rw [level, List.foldl_append]
  rfl

theorem exists_open_concat_iff {k : Nat} {cs : List Char} {c : Char} :
    (∃ outer inner d, cs ++ [c] = outer ++ '<' :: inner ∧ depth? 0 inner = some d ∧ k ≤ d) ↔
      (c = '<' ∧ k = 0) ∨ ∃ outer inner d d', cs = outer ++ '<' :: inner ∧
        depth? 0 inner = some d ∧ depth? d [c] = some d' ∧ k ≤ d' := by
  constructor
  · rintro ⟨outer, inner, d, heq, hd, hk⟩
    rcases inner.eq_nil_or_concat with rfl | ⟨inner, e, rfl⟩
    · cases hd
      exact .inl ⟨List.singleton_inj.1 (List.append_inj' heq rfl).2, Nat.le_zero.1 hk⟩
    · rw [List.concat_eq_append, ← List.cons_append, ← List.append_assoc] at heq
      obtain ⟨rfl, hc⟩ := List.append_inj' heq rfl
      rw [List.concat_eq_append, depth?_append, Option.bind_eq_some_iff] at hd
      obtain ⟨before, hbefore, hlast⟩ := hd
      exact .inr ⟨outer, inner, before, d, rfl, hbefore, by rwa [hc], hk⟩
  · rintro (⟨rfl, rfl⟩ | ⟨outer, inner, d, d', rfl, hd, hlast, hk⟩)
    · exact ⟨cs, [], 0, rfl, rfl, Nat.le_refl 0⟩
    · refine ⟨outer, inner ++ [c], d', by simp, ?_, hk⟩
      rw [depth?_append, hd]
      exact hlast

theorem lt_level_iff {k : Nat} {cs : List Char} :
    k < level cs ↔
      ∃ outer inner d, cs = outer ++ '<' :: inner ∧ depth? 0 inner = some d ∧ k ≤ d := by
  induction cs using List.reverseRecOn generalizing k with
  | nil => simp [level]
  | append_singleton cs c ih =>
    rw [exists_open_concat_iff, level_concat]
    rcases angle_cases c with rfl | rfl | ⟨hopen, hclose⟩
    · cases k with
      | zero => simp
      | succ k => simp [depth?, ih]
    · have hclosed (d d' : Nat) : depth? d ['>'] = some d' ↔ d = d' + 1 := by
        cases d <;> simp [depth?]
      rw [if_neg (by decide), if_pos rfl, Nat.lt_sub_iff_add_lt, ih]
      simp only [hclosed]
      constructor
      · rintro ⟨outer, inner, d, heq, hd, hk⟩
        exact .inr ⟨outer, inner, d, d - 1, heq, hd, by omega, by omega⟩
      · rintro (⟨h, -⟩ | ⟨outer, inner, d, d', heq, hd, hlast, hk⟩)
        · exact absurd h (by decide)
        · exact ⟨outer, inner, d, heq, hd, by omega⟩
    · have hother (d d' : Nat) : depth? d [] = some d' ↔ d = d' := by
        rw [depth?, Option.some.injEq]
      simp [hother, hopen, hclose, ih]

theorem not_leavesOpen_iff {cs : List Char} : ¬LeavesOpen cs ↔ level cs = 0 := by
  rw [← Nat.le_zero, ← Nat.not_lt, lt_level_iff, LeavesOpen]
  simp [Option.isSome_iff_exists]

/-- A pair of brackets that encloses the place between two texts. -/
def Encloses (before after : List Char) : Prop :=
  ∃ outer left right rest, before = outer ++ '<' :: left ∧ after = right ++ '>' :: rest ∧
    IsBalanced (left ++ right)

/-- Where brackets are closed beyond `depth + 1` of them, the text up to there closes `depth`. -/
theorem exists_close {depth more left : Nat} {cs : List Char}
    (h : depth? (depth + 1 + more) cs = some left) (hleft : left ≤ more) :
    ∃ right rest, cs = right ++ '>' :: rest ∧ depth? depth right = some 0 := by
  induction cs generalizing depth with
  | nil =>
    have := Option.some.inj h
    omega
  | cons c cs ih =>
    rcases angle_cases c with rfl | rfl | ⟨hopen, hclose⟩
    · rw [depth?_open, Nat.add_right_comm] at h
      obtain ⟨right, rest, rfl, hright⟩ := ih h
      exact ⟨'<' :: right, rest, rfl, by rwa [depth?_open]⟩
    · cases depth with
      | zero => exact ⟨[], cs, rfl, rfl⟩
      | succ depth =>
        rw [Nat.add_right_comm, depth?_close] at h
        obtain ⟨right, rest, rfl, hright⟩ := ih h
        exact ⟨'>' :: right, rest, rfl, by rwa [depth?_close]⟩
    · rw [depth?_other hopen hclose] at h
      obtain ⟨right, rest, rfl, hright⟩ := ih h
      exact ⟨c :: right, rest, rfl, by rwa [depth?_other hopen hclose]⟩

/-- In a balanced text a bracket that is open at some place encloses it. -/
theorem leavesOpen_iff_encloses {before after : List Char} (h : IsBalanced (before ++ after)) :
    LeavesOpen before ↔ Encloses before after := by
  constructor
  · intro hopen
    rw [IsBalanced, depth?_append] at h
    obtain ⟨depth, hbefore, hafter⟩ := Option.bind_eq_some_iff.1 h
    have hpositive := (leavesOpen_iff hbefore).1 hopen
    obtain ⟨closed, -, hdepth⟩ | ⟨outer, left, rfl, hleft⟩ := exists_open hbefore
    · omega
    · have hdepth : depth = 0 + 1 + (depth - 1) := by omega
      rw [hdepth] at hafter
      obtain ⟨right, rest, rfl, hright⟩ := exists_close hafter (Nat.zero_le _)
      refine ⟨outer, left, right, rest, rfl, rfl, ?_⟩
      rw [IsBalanced, depth?_append, show depth? 0 left = some 0 from hleft]
      exact hright
  · rintro ⟨outer, left, right, rest, rfl, -, hpair⟩
    refine ⟨outer, left, rfl, ?_⟩
    rw [IsBalanced, depth?_append] at hpair
    exact Option.isSome_of_eq_some (Option.bind_eq_some_iff.1 hpair).choose_spec.1

theorem isBalanced_of_not_mem {cs : List Char} (hopen : '<' ∉ cs) (hclose : '>' ∉ cs) :
    IsBalanced cs := by
  induction cs with
  | nil => rfl
  | cons c cs ih =>
    rw [List.mem_cons, not_or] at hopen hclose
    rw [IsBalanced, depth?_other (Ne.symm hopen.1) (Ne.symm hclose.1)]
    exact ih hopen.2 hclose.2

end Angles

namespace Text

theorem cutAtLast?_eq_none_iff {sep : Char} {cs : List Char} :
    cutAtLast? sep cs = none ↔ sep ∉ cs := by
  induction cs with
  | nil => simp [cutAtLast?]
  | cons c cs ih =>
    rw [cutAtLast?, List.mem_cons, not_or, ← ih]
    cases cutAtLast? sep cs with
    | some cut => simp
    | none => simp [eq_comm]

theorem cutAtLast?_eq_some_iff {sep : Char} {cs before rest : List Char} :
    cutAtLast? sep cs = some (before, rest) ↔ cs = before ++ sep :: rest ∧ sep ∉ rest := by
  constructor
  · intro h
    induction cs generalizing before with
    | nil => cases h
    | cons c cs ih =>
      rw [cutAtLast?] at h
      split at h
      · rename_i hcut
        cases h
        obtain ⟨rfl, hrest⟩ := ih hcut
        exact ⟨rfl, hrest⟩
      · rename_i hnone
        split at h
        · rename_i hsep
          cases h
          exact ⟨by rw [hsep]; rfl, cutAtLast?_eq_none_iff.1 hnone⟩
        · cases h
  · rintro ⟨rfl, hrest⟩
    induction before with
    | nil => simp [cutAtLast?, cutAtLast?_eq_none_iff.2 hrest]
    | cons c before ih => simp [cutAtLast?, ih]

end Text

namespace Payload

/-- A payload cut in two: at its `#`, or at a dot of its name if it has no parameters. The wildcard
    stands for the parameters behind a `#`, or for the star at the end of a name. -/
inductive Cuts : Payload → (owner last : List Char) → (wildcard : Bool) → Prop
  | hash (owner member : List Char) (parameters : Option (List Char)) :
    Cuts (.qualified owner member parameters) owner member parameters.isSome
  | dot (owner last : List Char) (wildcard : Bool) :
    Cuts (.plain (owner ++ '.' :: last) none wildcard) owner last wildcard

theorem Cuts.name_eq {name owner last : List Char} {parameters : Option (List Char)}
    {starred wildcard : Bool} (h : Cuts (.plain name parameters starred) owner last wildcard) :
    name = owner ++ '.' :: last := by
  cases h
  rfl

/-- A cut between a class and one last segment of the path: at the `#`, or at a dot outside of all
    angle brackets. -/
structure CutsAtBoundary (p : Payload) (owner last : List Char) (wildcard : Bool) : Prop where
  cuts : p.Cuts owner last wildcard
  balanced : Angles.IsBalanced last
  outside : (∃ parameters, p = .qualified owner last parameters) ∨ ¬Angles.LeavesOpen owner

theorem isBalanced_of_qualified {cs owner member : List Char} {parameters : Option (List Char)}
    (h : ofText? cs = some (.qualified owner member parameters)) : Angles.IsBalanced member :=
  Angles.isBalanced_of_not_mem (not_mem_of_qualified h (by decide +kernel))
    (not_mem_of_qualified h (by decide +kernel))

theorem cutsAtBoundary_iff {cs owner last : List Char} {p : Payload} {wildcard : Bool}
    (hpayload : ofText? cs = some p) (hcuts : p.Cuts owner last wildcard) :
    p.CutsAtBoundary owner last wildcard ↔
      (∃ parameters, p = .qualified owner last parameters) ∨
        Angles.IsBalanced last ∧ Angles.level owner = 0 := by
  rw [← Angles.not_leavesOpen_iff]
  constructor
  · rintro ⟨-, hbalanced, hhash | houtside⟩
    · exact .inl hhash
    · exact .inr ⟨hbalanced, houtside⟩
  · rintro (⟨parameters, rfl⟩ | ⟨hbalanced, houtside⟩)
    · exact ⟨hcuts, isBalanced_of_qualified hpayload, .inl ⟨parameters, rfl⟩⟩
    · exact ⟨hcuts, hbalanced, .inr houtside⟩

theorem cutsAtBoundary_of_isBalanced {owner last : List Char} {p : Payload} {wildcard : Bool}
    (hcuts : p.Cuts owner last wildcard) (h : Angles.IsBalanced (owner ++ '.' :: last)) :
    p.CutsAtBoundary owner last wildcard ↔ ¬Angles.LeavesOpen owner := by
  constructor
  · intro hboundary
    exact (Angles.isBalanced_iff_not_leavesOpen h).1 hboundary.balanced
  · intro houtside
    exact ⟨hcuts, (Angles.isBalanced_iff_not_leavesOpen h).2 houtside, .inr houtside⟩

end Payload

namespace Scope

/-- The identifier is that of the class that the scope knows by this spelling, or else by the
    spelling without generics. -/
def FindsClass (s : Scope) (owner : List Char) (found : String) : Prop :=
  s.get? (String.ofList owner) = some found ∨
    s.get? (String.ofList owner) = none ∧
      s.get? (String.ofList (Signature.withoutGenerics owner)) = some found

/-- The identifier is put together of that of the class, a dot, the last segment and a star for a
    wildcard. -/
def Joins (s : Scope) (owner last : List Char) (wildcard : Bool) (uid : String) : Prop :=
  ∃ found, s.FindsClass owner found ∧
    uid.toList = found.toList ++ '.' :: last ++ if wildcard then ['*'] else []

theorem classUid?_eq_some_iff (s : Scope) (owner : List Char) (found : String) :
    s.classUid? owner = some found ↔ s.FindsClass owner found := by
  unfold classUid? FindsClass
  rw [Option.or_eq_some_iff]
  split
  · rfl
  · rename_i hsame
    rw [ne_eq, not_not] at hsame
    simp [hsame]

theorem map_classUid?_eq_some_iff (s : Scope) (owner last : List Char) (wildcard : Bool)
    (uid : String) :
    (s.classUid? owner).map (memberUid · last wildcard) = some uid ↔
      s.Joins owner last wildcard uid := by
  rw [Option.map_eq_some_iff]
  refine exists_congr fun found => ?_
  rw [classUid?_eq_some_iff, ← toList_memberUid, String.toList_inj, eq_comm (a := uid)]

theorem fuzzy?_eq_some_iff (s : Scope) (cs : List Char) (uid : String) :
    s.fuzzy? cs = some uid ↔
      ∃ p owner last wildcard, Payload.ofText? cs = some p ∧ p.Cuts owner last wildcard ∧
        '.' ∉ last ∧ s.Joins owner last wildcard uid := by
  constructor
  · intro h
    unfold fuzzy? at h
    split at h
    · rename_i owner member parameters hpayload
      exact ⟨_, owner, member, _, hpayload, .hash owner member parameters,
        Payload.not_mem_of_qualified hpayload (by decide +kernel),
        (s.map_classUid?_eq_some_iff _ _ _ _).1 h⟩
    · rename_i name wildcard hpayload
      obtain ⟨⟨owner, last⟩, hcut, hfound⟩ := Option.bind_eq_some_iff.1 h
      obtain ⟨rfl, hlast⟩ := Text.cutAtLast?_eq_some_iff.1 hcut
      exact ⟨_, owner, last, wildcard, hpayload, .dot owner last wildcard, hlast,
        (s.map_classUid?_eq_some_iff _ _ _ _).1 hfound⟩
    · cases h
  · rintro ⟨p, owner, last, wildcard, hpayload, hcuts, hlast, hjoins⟩
    have hfound := (s.map_classUid?_eq_some_iff owner last wildcard uid).2 hjoins
    unfold fuzzy?
    rw [hpayload]
    cases hcuts with
    | hash => exact hfound
    | dot =>
      change (Text.cutAtLast? '.' (owner ++ '.' :: last)).bind _ = _
      rw [Text.cutAtLast?_eq_some_iff.2 ⟨rfl, hlast⟩]
      exact hfound

/-- Resolution by class and member cuts a payload at its `#`, or else at the last dot of its name,
    and joins the identifier of the class with what follows. A cut at the `#` is always at a
    boundary of the path. One at a dot is if what follows is balanced and no bracket is left open
    in front of it; in a name of balanced brackets that is if no pair of them encloses the dot. -/
theorem fuzzy_cuts_at_boundary (s : Scope) (cs : List Char) (uid : String) :
    (s.fuzzy? cs = some uid ↔
      ∃ p owner last wildcard, Payload.ofText? cs = some p ∧ p.Cuts owner last wildcard ∧
        '.' ∉ last ∧ s.Joins owner last wildcard uid) ∧
    ∀ p owner last wildcard, Payload.ofText? cs = some p → p.Cuts owner last wildcard →
      (p.CutsAtBoundary owner last wildcard ↔
        (∃ parameters, p = .qualified owner last parameters) ∨
          Angles.IsBalanced last ∧ Angles.level owner = 0) ∧
      (Angles.IsBalanced (owner ++ '.' :: last) →
        (p.CutsAtBoundary owner last wildcard ↔ ¬Angles.LeavesOpen owner) ∧
        (p.CutsAtBoundary owner last wildcard ↔ ¬Angles.Encloses owner ('.' :: last))) := by
  refine ⟨s.fuzzy?_eq_some_iff cs uid, ?_⟩
  intro p owner last wildcard hpayload hcuts
  refine ⟨Payload.cutsAtBoundary_iff hpayload hcuts, fun hname => ?_⟩
  have hboundary := Payload.cutsAtBoundary_of_isBalanced hcuts hname
  exact ⟨hboundary, by rw [hboundary, Angles.leavesOpen_iff_encloses hname]⟩

/-- A class inside another one, both with arguments. -/
theorem fuzzy_cuts_at_boundary_of_entry :
    let map : Entity := { uid := "java.util.Map", nameWithType := "Map" }
    let s := (Index.ofDocuments [{ id := "d", entities := [map] }]).scope "d"
    let cs := "Map<K, V>.Entry<K, V>*".toList
    let owner := "Map<K, V>".toList
    let last := "Entry<K, V>".toList
    s.fuzzy? cs = some "java.util.Map.Entry<K, V>*" ∧
      ∃ p, Payload.ofText? cs = some p ∧ p.CutsAtBoundary owner last true ∧
        s.Joins owner last true "java.util.Map.Entry<K, V>*" := by
  intro map s cs owner last
  have hpayload : Payload.ofText? cs = some (.plain (owner ++ '.' :: last) none true) := by
    decide +kernel
  have hcuts : Payload.Cuts (.plain (owner ++ '.' :: last) none true) owner last true :=
    .dot owner last true
  have hjoins : s.Joins owner last true "java.util.Map.Entry<K, V>*" :=
    ⟨"java.util.Map", .inr ⟨by decide +kernel, by decide +kernel⟩, by decide +kernel⟩
  have houtside : ¬Angles.LeavesOpen owner := by
    rw [Angles.leavesOpen_iff (show Angles.depth? 0 owner = some 0 by decide +kernel)]
    exact Nat.lt_irrefl 0
  obtain ⟨hfuzzy, hboundary⟩ := fuzzy_cuts_at_boundary s cs "java.util.Map.Entry<K, V>*"
  exact ⟨hfuzzy.2 ⟨_, owner, last, true, hpayload, hcuts, by decide +kernel, hjoins⟩,
    _, hpayload, ((hboundary _ owner last true hpayload hcuts).2 (by decide +kernel)).1.2 houtside,
    hjoins⟩

/-- The last dot of an argument is taken for the one between a class and a member. -/
theorem fuzzy_cuts_inside_argument :
    ¬∀ (s : Scope) (cs : List Char) (uid : String), s.fuzzy? cs = some uid →
      ∃ p owner last wildcard, Payload.ofText? cs = some p ∧
        p.CutsAtBoundary owner last wildcard ∧ s.Joins owner last wildcard uid := by
  intro h
  let map : Entity := { uid := "java.util.Map", nameWithType := "Map" }
  let s := (Index.ofDocuments [{ id := "d", entities := [map] }]).scope "d"
  let name := "Map<java.lang.String>".toList
  obtain ⟨p, owner, last, wildcard, hp, hboundary, -⟩ :=
    h s name "java.util.Map.String>" (by decide +kernel)
  have hpayload : Payload.ofText? name = some (.plain name none false) := by decide +kernel
  obtain rfl : p = .plain name none false := Option.some.inj (hp.symm.trans hpayload)
  have hcut : name = owner ++ '.' :: last := hboundary.cuts.name_eq
  -- Behind either dot the bracket of the argument is closed.
  have hdots : ∀ i < name.length, name[i]? = some '.' → ¬Angles.IsBalanced (name.drop (i + 1)) := by
    decide +kernel
  refine hdots owner.length ?_ ?_ ?_
  · simp [hcut]
  · simp [hcut]
  · simpa [hcut] using hboundary.balanced

end Scope

end Crosslink
