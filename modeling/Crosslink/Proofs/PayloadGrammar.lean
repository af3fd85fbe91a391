import Crosslink.Proofs.PayloadShape

set_option autoImplicit false

namespace Crosslink

namespace Payload

inductive IsSegment : List Char → Prop where
  | bare {name : List Char} (hname : Name.isIdentifier name = true) : IsSegment name
  | generic {name arguments : List Char} (hname : Name.isIdentifier name = true)
      (harguments : ∀ c ∈ arguments, isArgument c = true) :
      IsSegment (name ++ '<' :: (arguments ++ ['>']))

inductive IsPath : List Char → Prop where
  | segment {segment : List Char} (h : IsSegment segment) : IsPath segment
  | dot {path segment : List Char} (hpath : IsPath path) (h : IsSegment segment) :
      IsPath (path ++ '.' :: segment)

inductive AwaitsSegment : List Char → Prop where
  | start : AwaitsSegment []
  | dot {path : List Char} (h : IsPath path) : AwaitsSegment (path ++ ['.'])

theorem AwaitsSegment.isPath_append {front segment : List Char} (hfront : AwaitsSegment front)
    (h : IsSegment segment) : IsPath (front ++ segment) := by
  cases hfront with
  | start => exact .segment h
  | dot hpath =>
    rw [List.append_assoc]
    exact .dot hpath h

structure PathState.Tells (s : PathState) (cs : List Char) : Prop where
  arguments : s.arguments = true → ∃ front name arguments, AwaitsSegment front ∧
    Name.isIdentifier name = true ∧ (∀ c ∈ arguments, isArgument c = true) ∧
    cs = front ++ (name ++ '<' :: arguments)
  before : s.place = some .before → AwaitsSegment cs
  inside : s.place = some .inside → ∃ front name, AwaitsSegment front ∧
    Name.isIdentifier name = true ∧ cs = front ++ name
  closed : s.place = some .closed → IsPath cs

theorem PathState.Tells.isPath {s : PathState} {cs : List Char} (h : s.Tells cs)
    (hends : s.Ends) : IsPath cs := by
  rcases hends with hinside | hclosed
  · obtain ⟨front, name, hfront, hname, rfl⟩ := h.inside hinside
    exact hfront.isPath_append (.bare hname)
  · exact h.closed hclosed

theorem isIdentifier_concat {name : List Char} (hname : Name.isIdentifier name = true) {c : Char}
    (hc : Name.isPart c = true) : Name.isIdentifier (name ++ [c]) = true := by
  cases name with
  | nil => cases hname
  | cons d name =>
    simp only [Name.isIdentifier, Bool.and_eq_true] at hname
    simp [Name.isIdentifier, hname, hc]

theorem PathState.Tells.next {s : PathState} {cs : List Char} (h : s.Tells cs) (c : Char) :
    (s.next c).Tells (cs ++ [c]) where
  arguments := by
    intro harguments
    simp only [PathState.next, Bool.or_eq_true, Bool.and_eq_true, beq_iff_eq] at harguments
    rcases harguments with ⟨hbefore, hc⟩ | ⟨hinside, rfl⟩
    · obtain ⟨front, name, arguments, hfront, hname, hall, rfl⟩ := h.arguments hbefore
      refine ⟨front, name, arguments ++ [c], hfront, hname, ?_, by simp⟩
      intro d hd
      rcases List.mem_append.1 hd with hd | hd
      · exact hall d hd
      · rwa [List.mem_singleton.1 hd]
    · obtain ⟨front, name, hfront, hname, rfl⟩ := h.inside hinside
      exact ⟨front, name, [], hfront, hname, by simp, by simp⟩
  before := by
    intro hbefore
    obtain ⟨-, rfl, hends⟩ | ⟨hq, -⟩ | ⟨hq, -⟩ := place_next_cases hbefore
    · exact .dot (h.isPath hends)
    · cases hq
    · cases hq
  inside := by
    intro hinside
    obtain ⟨hq, -⟩ | ⟨-, ⟨hplace, hc⟩ | ⟨hplace, hc⟩⟩ | ⟨hq, -⟩ := place_next_cases hinside
    · cases hq
    · exact ⟨cs, [c], h.before hplace, by simp [Name.isIdentifier, hc], rfl⟩
    · obtain ⟨front, name, hfront, hname, rfl⟩ := h.inside hplace
      exact ⟨front, name ++ [c], hfront, isIdentifier_concat hname hc, by simp⟩
    · cases hq
  closed := by
    intro hclosed
    obtain ⟨hq, -⟩ | ⟨hq, -⟩ | ⟨-, rfl, harguments⟩ := place_next_cases hclosed
    · cases hq
    · cases hq
    · obtain ⟨front, name, arguments, hfront, hname, hall, rfl⟩ := h.arguments harguments
      have hpath := hfront.isPath_append (.generic hname hall)
      simpa using hpath

theorem PathState.Tells.foldl {s : PathState} {cs : List Char} (h : s.Tells cs)
    (more : List Char) : (more.foldl PathState.next s).Tells (cs ++ more) := by
  induction more generalizing s cs with
  | nil => simpa using h
  | cons c more ih => simpa using ih (h.next c)

theorem tells_start : PathState.Tells ⟨false, some .before⟩ [] where
  arguments := by simp
  before := fun _ => .start
  inside := by simp
  closed := by simp

theorem place_foldl_part {s : PathState} (hs : s.place = some .inside) {name : List Char}
    (hname : ∀ c ∈ name, Name.isPart c = true) :
    (name.foldl PathState.next s).place = some .inside := by
  induction name generalizing s with
  | nil => exact hs
  | cons c name ih =>
    obtain ⟨hc, hname⟩ := List.forall_mem_cons.1 hname
    have hclose : c ≠ '>' := by
      rintro rfl
      exact absurd hc (by decide +kernel)
    have hinside : (s.next c).place = some .inside := by
      simp [PathState.next, hs, Place.next, hc, hclose]
    exact ih hinside hname

theorem place_foldl_identifier {s : PathState} (hs : s.place = some .before) {name : List Char}
    (hname : Name.isIdentifier name = true) :
    (name.foldl PathState.next s).place = some .inside := by
  cases name with
  | nil => cases hname
  | cons c name =>
    simp only [Name.isIdentifier, Bool.and_eq_true, List.all_eq_true] at hname
    have hclose : c ≠ '>' := by
      rintro rfl
      exact absurd hname.1 (by decide +kernel)
    have hinside : (s.next c).place = some .inside := by
      simp [PathState.next, hs, Place.next, hname.1, hclose]
    exact place_foldl_part hinside hname.2

theorem arguments_foldl {s : PathState} (hs : s.arguments = true) {arguments : List Char}
    (hall : ∀ c ∈ arguments, isArgument c = true) :
    (arguments.foldl PathState.next s).arguments = true := by
  induction arguments generalizing s with
  | nil => exact hs
  | cons c arguments ih =>
    obtain ⟨hc, hall⟩ := List.forall_mem_cons.1 hall
    exact ih (by simp [PathState.next, hs, hc]) hall

theorem IsSegment.ends {segment : List Char} (h : IsSegment segment) {s : PathState}
    (hs : s.place = some .before) : (segment.foldl PathState.next s).Ends := by
  cases h with
  | bare hname => exact .inl (place_foldl_identifier hs hname)
  | @generic name arguments hname hall =>
    have hinside := place_foldl_identifier hs hname
    have hopen : ((name.foldl PathState.next s).next '<').arguments = true := by
      simp [PathState.next, hinside]
    have hclose {t : PathState} (ht : t.arguments = true) : (t.next '>').place = some .closed := by
      simp [PathState.next, ht]
    rw [List.foldl_append, List.foldl_cons, List.foldl_append]
    -- A `>` among the arguments may have closed them, but the state stays inside them as well.
    exact .inr (hclose (arguments_foldl hopen hall))

theorem IsPath.ends {path : List Char} (h : IsPath path) :
    (path.foldl PathState.next ⟨false, some .before⟩).Ends := by
  induction h with
  | segment h => exact h.ends rfl
  | dot _ h ih =>
    rw [List.foldl_append, List.foldl_cons]
    apply h.ends
    rcases ih with hplace | hplace
    · have hdot : Name.isPart '.' = false := by decide +kernel
      simp [PathState.next, hplace, Place.next, hdot]
    · simp [PathState.next, hplace, Place.next]

/-- The states tell the paths from the other texts. -/
theorem isPath_eq_true_iff {cs : List Char} : isPath cs = true ↔ IsPath cs := by
  rw [isPath_iff_ends]
  exact ⟨fun h => (tells_start.foldl cs).isPath h, IsPath.ends⟩

def arrays : Nat → List Char
  | 0 => []
  | n + 1 => '[' :: ']' :: arrays n

theorem withoutArrays_append_arrays (cs : List Char) (n : Nat) :
    withoutArrays (cs ++ arrays n) = withoutArrays cs := by
  induction cs with
  | nil =>
    induction n with
    | zero => rfl
    | succ n ih =>
      rw [List.nil_append] at ih
      simp [arrays, withoutArrays, ih]
  | cons c cs ih => rw [List.cons_append, withoutArrays, ih, withoutArrays]

theorem exists_arrays (cs : List Char) : ∃ n, cs = withoutArrays cs ++ arrays n := by
  induction cs with
  | nil => exact ⟨0, rfl⟩
  | cons c cs ih =>
    obtain ⟨n, hcs⟩ := ih
    rw [withoutArrays]
    split
    · rename_i hnil
      rw [hnil] at hcs
      exact ⟨n, congrArg (c :: ·) hcs⟩
    · rename_i hbracket
      rw [hbracket] at hcs
      split
      · rename_i hc
        exact ⟨n + 1, by rw [hc, hcs]; rfl⟩
      · exact ⟨n, congrArg (c :: ·) hcs⟩
    · exact ⟨n, congrArg (c :: ·) hcs⟩

theorem IsPath.withoutArrays_eq {path : List Char} (h : IsPath path) :
    withoutArrays path = path := by
  apply withoutArrays_eq_self
  intro hlast
  obtain ⟨most, rfl⟩ := List.getLast?_eq_some_iff.1 hlast
  rcases last_of_isPath (isPath_eq_true_iff.2 h) with hpart | hclose
  · exact absurd hpart (by decide +kernel)
  · exact absurd hclose (by decide)

theorem isPath_withoutArrays_iff {name : List Char} :
    isPath (withoutArrays name) = true ↔
      ∃ path n, IsPath path ∧ name = path ++ arrays n := by
  constructor
  · intro h
    obtain ⟨n, hname⟩ := exists_arrays name
    exact ⟨_, n, isPath_eq_true_iff.1 h, hname⟩
  · rintro ⟨path, n, hpath, rfl⟩
    rw [withoutArrays_append_arrays, hpath.withoutArrays_eq]
    exact isPath_eq_true_iff.2 hpath

inductive Spells : Payload → List Char → Prop where
  | member {name tail : List Char} {parameters : Option (List Char)}
      (hname : Name.isIdentifier name = true) (htail : Tail parameters tail) :
      Spells (.member name parameters) ('#' :: (name ++ tail))
  | qualified {owner name tail : List Char} {parameters : Option (List Char)}
      (howner : IsPath owner) (hname : Name.isIdentifier name = true)
      (htail : Tail parameters tail) :
      Spells (.qualified owner name parameters) (owner ++ '#' :: (name ++ tail))
  | plain {path tail : List Char} {parameters : Option (List Char)} (hpath : IsPath path)
      (dimensions : Nat) (htail : Tail parameters tail) (wildcard : Bool) :
      Spells (.plain (path ++ arrays dimensions) parameters wildcard)
        (path ++ arrays dimensions ++ tail ++ star wildcard)

theorem plain?_append_hash {owner : List Char}
    (howner : ∀ c ∈ owner, (c != '(' && c != '*') = true) (rest : List Char) :
    plain? (owner ++ '#' :: rest) = none := by
  have htake : '#' ∈ (owner ++ '#' :: rest).takeWhile fun c => c != '(' && c != '*' := by
    rw [List.takeWhile_append_of_pos howner]
    simp
  rw [plain?, if_neg]
  intro hpath
  exact not_mem_of_isPath_withoutArrays (by decide +kernel) hpath
    (Text.mem_trimEnd (by decide) htake)

theorem qualified?_or_plain?_eq_none (cs : List Char) :
    qualified? cs = none ∨ plain? cs = none := by
  cases hqualified : qualified? cs with
  | none => exact .inl rfl
  | some p =>
    right
    obtain ⟨owner, -, -, rest, -, rfl, hpath, -⟩ := qualified?_eq_some_iff.1 hqualified
    apply plain?_append_hash
    intro c hc
    rw [Bool.and_eq_true, bne_iff_ne, bne_iff_ne]
    exact ⟨ne_of_mem_of_not_mem hc (not_mem_of_isPath (by decide +kernel) hpath),
      ne_of_mem_of_not_mem hc (not_mem_of_isPath (by decide +kernel) hpath)⟩

theorem qualified?_hash (rest : List Char) : qualified? ('#' :: rest) = none := by
  have hpath : isPath [] = false := by decide
  simp [qualified?, hpath]

theorem IsPath.exists_cons {path : List Char} (h : IsPath path) :
    ∃ c rest, path = c :: rest ∧ Name.isStart c = true := by
  have hidentifier {name : List Char} (hname : Name.isIdentifier name = true) :
      ∃ c rest, name = c :: rest ∧ Name.isStart c = true := by
    cases name with
    | nil => cases hname
    | cons c rest =>
      rw [Name.isIdentifier, Bool.and_eq_true] at hname
      exact ⟨c, rest, rfl, hname.1⟩
  induction h with
  | segment h =>
    cases h with
    | bare hname => exact hidentifier hname
    | generic hname _ =>
      obtain ⟨c, rest, rfl, hc⟩ := hidentifier hname
      exact ⟨c, _, rfl, hc⟩
  | dot _ _ ih =>
    obtain ⟨c, rest, rfl, hc⟩ := ih
    exact ⟨c, _, rfl, hc⟩

theorem Spells.qualified? {owner name cs : List Char} {parameters : Option (List Char)}
    (h : Spells (.qualified owner name parameters) cs) :
    Payload.qualified? cs = some (.qualified owner name parameters) := by
  cases h with
  | qualified howner hname htail =>
    exact qualified?_eq_some_iff.2 ⟨owner, name, parameters, _, rfl, rfl,
      isPath_eq_true_iff.2 howner, member?_eq_some_iff.2 ⟨hname, _, htail, rfl⟩⟩

theorem Spells.plain? {name cs : List Char} {parameters : Option (List Char)} {wildcard : Bool}
    (h : Spells (.plain name parameters wildcard) cs) :
    Payload.plain? cs = some (.plain name parameters wildcard) := by
  cases h with
  | plain hpath dimensions htail =>
    exact plain?_eq_some_iff.2 ⟨_, parameters, wildcard, _, rfl,
      isPath_withoutArrays_iff.2 ⟨_, dimensions, hpath, rfl⟩, htail, rfl⟩

theorem Spells.exists_cons {p : Payload} {cs : List Char} (h : Spells p cs) :
    ∃ c rest, cs = c :: rest ∧ Text.isBlank c = false ∧
      (c = '#' ↔ ∃ name parameters, p = .member name parameters) := by
  have hstart {c : Char} (hc : Name.isStart c = true) : Text.isBlank c = false ∧ c ≠ '#' := by
    refine ⟨Name.isBlank_of_isPart (Name.isPart_of_isStart hc), ?_⟩
    rintro rfl
    exact absurd hc (by decide +kernel)
  cases h with
  | member _ _ => exact ⟨'#', _, rfl, by decide, by simp⟩
  | qualified howner _ _ =>
    obtain ⟨c, rest, rfl, hc⟩ := howner.exists_cons
    exact ⟨c, _, rfl, (hstart hc).1, by simp [(hstart hc).2]⟩
  | plain hpath _ _ _ =>
    obtain ⟨c, rest, rfl, hc⟩ := hpath.exists_cons
    exact ⟨c, _, rfl, (hstart hc).1, by simp [(hstart hc).2]⟩

/-- What is read is what the text spells, blanks around it aside. -/
theorem ofText?_eq_some_iff {cs : List Char} {p : Payload} :
    ofText? cs = some p ↔ Spells p (Text.trimBoth cs) := by
  rw [ofText?]
  split
  · rename_i rest htext
    rw [htext, Option.map_eq_some_iff]
    constructor
    · rintro ⟨⟨name, parameters⟩, hmember, rfl⟩
      obtain ⟨hname, tail, htail, rfl⟩ := member?_eq_some_iff.1 hmember
      exact .member hname htail
    · intro h
      obtain ⟨c, _, heq, -, hhash⟩ := h.exists_cons
      obtain ⟨name, parameters, rfl⟩ := hhash.1 (List.cons.inj heq).1.symm
      cases h with
      | member hname htail =>
        exact ⟨(name, parameters), member?_eq_some_iff.2 ⟨hname, _, htail, rfl⟩, rfl⟩
  · rename_i hhash
    generalize Text.trimBoth cs = text at hhash
    constructor
    · intro h
      rcases Option.or_eq_some_iff.1 h with h | ⟨-, h⟩
      · obtain ⟨owner, name, parameters, rest, rfl, rfl, howner, hmember⟩ :=
          qualified?_eq_some_iff.1 h
        obtain ⟨hname, tail, htail, rfl⟩ := member?_eq_some_iff.1 hmember
        exact .qualified (isPath_eq_true_iff.1 howner) hname htail
      · obtain ⟨name, parameters, wildcard, tail, rfl, hname, htail, rfl⟩ := plain?_eq_some_iff.1 h
        obtain ⟨path, dimensions, hpath, rfl⟩ := isPath_withoutArrays_iff.1 hname
        exact .plain hpath dimensions htail wildcard
    · intro h
      cases p with
      | member name parameters =>
        obtain ⟨c, rest, rfl, -, hc⟩ := h.exists_cons
        obtain rfl := hc.2 ⟨_, _, rfl⟩
        exact absurd rfl (hhash rest)
      | qualified owner name parameters => rw [h.qualified?, Option.some_or]
      | plain name parameters wildcard =>
        -- A `#` among the parameters does not make the payload a qualified one.
        rcases qualified?_or_plain?_eq_none text with hnone | hnone
        · rw [hnone, Option.none_or, h.plain?]
        · rw [h.plain?] at hnone
          cases hnone

theorem trimEnd_append_identifier {name : List Char} (hname : Name.isIdentifier name = true)
    (front : List Char) : Text.trimEnd (front ++ name) = front ++ name := by
  rcases List.eq_nil_or_concat name with rfl | ⟨most, c, rfl⟩
  · cases hname
  · have hc := Name.isPart_of_isIdentifier hname (c := c) (by simp)
    rw [List.concat_eq_append, ← List.append_assoc, Text.trimEnd_concat (Name.isBlank_of_isPart hc)]

theorem Tail.trimEnd {tail : List Char} {parameters : Option (List Char)}
    (h : Tail parameters tail) {front : List Char} (hfront : Text.trimEnd front = front) :
    ∃ kept, Tail parameters kept ∧ Text.trimEnd (front ++ tail) = front ++ kept := by
  cases h with
  | bare hblanks =>
    refine ⟨[], .bare (by simp), ?_⟩
    rw [Text.trimEnd_append_blanks hblanks, hfront, List.append_nil]
  | @list blanks inner hblanks hopen hclose =>
    refine ⟨_, .list hblanks hopen hclose, ?_⟩
    rw [← List.append_assoc, Text.trimEnd_concat (by decide)]

theorem Spells.trimEnd {p : Payload} {cs : List Char} (h : Spells p cs) :
    Spells p (Text.trimEnd cs) := by
  cases h with
  | member hname htail =>
    obtain ⟨kept, hkept, htrim⟩ := htail.trimEnd (trimEnd_append_identifier hname ['#'])
    change Spells _ (Text.trimEnd (['#'] ++ _ ++ _))
    rw [htrim]
    exact .member hname hkept
  | @qualified owner name tail parameters howner hname htail =>
    obtain ⟨kept, hkept, htrim⟩ := htail.trimEnd (trimEnd_append_identifier hname (owner ++ ['#']))
    have hsplit (xs : List Char) : owner ++ '#' :: (name ++ xs) = owner ++ ['#'] ++ name ++ xs := by
      simp
    rw [hsplit, htrim, ← hsplit]
    exact .qualified howner hname hkept
  | plain hpath dimensions htail wildcard =>
    cases wildcard with
    | false =>
      have hname := trimEnd_of_isPath_withoutArrays
        (isPath_withoutArrays_iff.2 ⟨_, dimensions, hpath, rfl⟩)
      obtain ⟨kept, hkept, htrim⟩ := htail.trimEnd hname
      rw [star, if_neg (by decide), List.append_nil, htrim]
      simpa [star] using Spells.plain hpath dimensions hkept false
    | true =>
      rw [star, if_pos rfl, Text.trimEnd_concat (by decide)]
      exact .plain hpath dimensions htail true

theorem Spells.trimBoth {p : Payload} {cs : List Char} (h : Spells p cs) :
    Spells p (Text.trimBoth cs) := by
  have hstart : Text.trimStart cs = cs := by
    obtain ⟨c, rest, rfl, hc, -⟩ := h.exists_cons
    simp [Text.trimStart, hc]
  rw [Text.trimBoth, hstart]
  exact h.trimEnd

/-- A payload can be told from its text. The readers exclude one another, and no text spells two
    payloads; what is read is what the text spells without the blanks around it, and a text that is
    put together from the pieces of a payload is read as these pieces. -/
theorem read_exactly_as_spelled (cs : List Char) :
    (cs.head? = some '#' → qualified? cs = none ∧ plain? cs = none) ∧
      (qualified? cs = none ∨ plain? cs = none) ∧
      (∀ p q, Spells p cs → Spells q cs → p = q) ∧
      (∀ p, ofText? cs = some p ↔ Spells p (Text.trimBoth cs)) ∧
      ∀ p, Spells p cs → ofText? cs = some p := by
  have hread {p : Payload} (hp : Spells p cs) : ofText? cs = some p :=
    ofText?_eq_some_iff.2 hp.trimBoth
  refine ⟨?_, qualified?_or_plain?_eq_none cs, ?_, fun p => ofText?_eq_some_iff, fun p => hread⟩
  · intro hhash
    obtain ⟨rest, rfl⟩ := List.head?_eq_some_iff.1 hhash
    exact ⟨qualified?_hash rest, plain?_append_hash (List.forall_mem_nil _) rest⟩
  · intro p q hp hq
    rw [← Option.some.injEq, ← hread hp, hread hq]

/-- Arguments that hold a path of their own, and parameters that look like other payloads. -/
theorem read_exactly_as_spelled_with_all_pieces :
    let text := "Map<a.K, ?>.Entry[] ( B#c, <x>* )*".toList
    let p : Payload := .plain "Map<a.K, ?>.Entry[]".toList (some "B#c, <x>*".toList) true
    Spells p text ∧ ofText? text = some p := by
  intro text p
  have hpath : IsPath "Map<a.K, ?>.Entry".toList := isPath_eq_true_iff.1 (by decide +kernel)
  have hblank : ∀ c ∈ [' '], Text.isBlank c = true := List.forall_mem_singleton.2 (by decide)
  have hopen : '(' ∉ " B#c, <x>* ".toList := by decide
  have htail : Tail (some "B#c, <x>*".toList) " ( B#c, <x>* )".toList :=
    .list hblank hopen (by decide)
  have hspells : Spells p text := .plain hpath 1 htail true
  exact ⟨hspells, (read_exactly_as_spelled text).2.2.2.2 p hspells⟩

end Payload

end Crosslink
