import Crosslink.Payload
import Crosslink.Proofs.Blanks

set_option autoImplicit false

namespace Crosslink

namespace Payload

theorem foldl_next_dead (cs : List Char) :
    cs.foldl PathState.next ⟨false, none⟩ = ⟨false, none⟩ := by
  induction cs with
  | nil => rfl
  | cons c cs ih => simpa [PathState.next] using ih

theorem next_of_not_isArgument {c : Char} (hc : isArgument c = false) (s : PathState) :
    s.next c = ⟨false, none⟩ := by
  have hclasses := hc
  rw [isArgument, Bool.or_eq_false_iff, Bool.or_eq_false_iff] at hclasses
  obtain ⟨⟨hword, -⟩, hother⟩ := hclasses
  have hne {d : Char} (hd : "$.,<>?[]".toList.contains d = true) : c ≠ d := by
    rintro rfl
    rw [hd] at hother
    cases hother
  have hpart : Name.isPart c = false := by
    simp [Name.isPart, hword, hne (d := '$') (by decide)]
  have hstart : Name.isStart c = false := by
    cases h : Name.isStart c with
    | false => rfl
    | true => rw [← hpart, Name.isPart_of_isStart h]
  have hplace (p : Place) : p.next c = none := by
    cases p with
    | before => simp [Place.next, hstart]
    | inside => simp [Place.next, hpart, hne (d := '.') (by decide)]
    | closed => simp [Place.next, hne (d := '.') (by decide)]
  have hopen := hne (d := '<') (by decide)
  have hclose := hne (d := '>') (by decide)
  obtain ⟨arguments, place⟩ := s
  cases place <;> simp [PathState.next, hc, hplace, hopen, hclose]

theorem not_mem_of_isPath {c : Char} (hc : isArgument c = false) {cs : List Char}
    (h : isPath cs = true) : c ∉ cs := by
  intro hmem
  obtain ⟨before, after, rfl⟩ := List.append_of_mem hmem
  rw [isPath, List.foldl_append, List.foldl_cons, next_of_not_isArgument hc, foldl_next_dead] at h
  exact absurd h (by decide)

/-- The text read so far may be a whole path: a segment ends with it. -/
def PathState.Ends (s : PathState) : Prop := s.place = some .inside ∨ s.place = some .closed

theorem isPath_iff_ends {cs : List Char} :
    isPath cs = true ↔ (cs.foldl PathState.next ⟨false, some .before⟩).Ends := by
  simp [isPath, PathState.Ends]

/-- How a state comes to stand outside angle brackets. -/
theorem PathState.place_next_cases {s : PathState} {c : Char} {q : Place}
    (h : (s.next c).place = some q) :
    (q = .before ∧ c = '.' ∧ s.Ends) ∨
      (q = .inside ∧ (s.place = some .before ∧ Name.isStart c = true ∨
        s.place = some .inside ∧ Name.isPart c = true)) ∨
      (q = .closed ∧ c = '>' ∧ s.arguments = true) := by
  simp only [PathState.next] at h
  split at h
  · rename_i hclose
    simp only [Bool.and_eq_true, beq_iff_eq] at hclose
    cases h
    exact .inr (.inr ⟨rfl, hclose.2, hclose.1⟩)
  · obtain ⟨place, hplace, hnext⟩ := Option.bind_eq_some_iff.1 h
    rw [PathState.Ends, hplace]
    cases place with
    | before =>
      simp only [Place.next] at hnext
      grind
    | inside =>
      simp only [Place.next] at hnext
      grind
    | closed =>
      simp only [Place.next] at hnext
      grind

theorem last_of_isPath {cs : List Char} {c : Char} (h : isPath (cs ++ [c]) = true) :
    Name.isPart c = true ∨ c = '>' := by
  rw [isPath_iff_ends, List.foldl_append, List.foldl_cons, List.foldl_nil] at h
  rcases h with hinside | hclosed
  · obtain ⟨hq, -⟩ | ⟨-, ⟨-, hc⟩ | ⟨-, hc⟩⟩ | ⟨hq, -⟩ := PathState.place_next_cases hinside
    · cases hq
    · exact .inl (Name.isPart_of_isStart hc)
    · exact .inl hc
    · cases hq
  · obtain ⟨hq, -⟩ | ⟨hq, -⟩ | ⟨-, hc, -⟩ := PathState.place_next_cases hclosed
    · cases hq
    · cases hq
    · exact .inr hc

theorem mem_withoutArrays {c : Char} (hopen : c ≠ '[') (hclose : c ≠ ']') {cs : List Char}
    (h : c ∈ cs) : c ∈ withoutArrays cs := by
  induction cs with
  | nil => cases h
  | cons d cs ih =>
    rw [withoutArrays]
    rcases List.mem_cons.1 h with rfl | h
    · split
      · exact List.mem_cons_self
      · rw [if_neg hopen]
        exact List.mem_cons_self
      · exact List.mem_cons_self
    · have hrest := ih h
      split
      · rename_i hnil
        simp [hnil] at hrest
      · rename_i hbracket
        simp [hbracket, hclose] at hrest
      · exact List.mem_cons_of_mem d hrest

theorem withoutArrays_eq_self {cs : List Char} (h : cs.getLast? ≠ some ']') :
    withoutArrays cs = cs := by
  induction cs with
  | nil => rfl
  | cons c cs ih =>
    cases cs with
    | nil => rfl
    | cons d cs =>
      rw [List.getLast?_cons_cons] at h
      rw [withoutArrays, ih h]
      split
      · rename_i hnil
        cases hnil
      · rename_i hbracket
        simp [hbracket] at h
      · rfl

/-- What may follow a name: blanks, and then nothing or parameters in parentheses. -/
inductive Tail : Option (List Char) → List Char → Prop where
  | bare {blanks : List Char} (hblanks : ∀ c ∈ blanks, Text.isBlank c = true) : Tail none blanks
  | list {blanks inner : List Char} (hblanks : ∀ c ∈ blanks, Text.isBlank c = true)
      (hopen : '(' ∉ inner) (hclose : ')' ∉ inner) :
      Tail (some (Text.trimBoth inner)) (blanks ++ '(' :: inner ++ [')'])

theorem parenthesised?_eq_some_iff {cs inner rest : List Char} :
    parenthesised? cs = some (inner, rest) ↔
      ('(' ∉ inner ∧ ')' ∉ inner) ∧ cs = '(' :: inner ++ ')' :: rest := by
  constructor
  · intro h
    have hcs := parenthesised?_eq_some h
    refine ⟨?_, hcs⟩
    rw [hcs, List.cons_append, parenthesised?] at h
    split at h
    · simp only [Option.some.injEq, Prod.mk.injEq] at h
      rw [← h.1]
      constructor
      · intro hmem
        simpa using List.mem_takeWhile_imp hmem
      · intro hmem
        simpa using List.mem_takeWhile_imp hmem
    · cases h
  · rintro ⟨⟨hopen, hclose⟩, rfl⟩
    have hinner : ∀ c ∈ inner, (c != '(' && c != ')') = true := by
      intro c hc
      simp only [Bool.and_eq_true, bne_iff_ne]
      exact ⟨ne_of_mem_of_not_mem hc hopen, ne_of_mem_of_not_mem hc hclose⟩
    rw [List.cons_append, parenthesised?, List.dropWhile_append_of_pos hinner,
      List.takeWhile_append_of_pos hinner]
    simp

theorem Tail.isPart_head? {parameters : Option (List Char)} {tail : List Char}
    (h : Tail parameters tail) {c : Char} (hc : c ∈ tail.head?) : Name.isPart c = false := by
  have hblank {blanks : List Char} (hblanks : ∀ c ∈ blanks, Text.isBlank c = true)
      (hc : c ∈ blanks.head?) : Name.isPart c = false := by
    cases hpart : Name.isPart c with
    | false => rfl
    | true => rw [← Name.isBlank_of_isPart hpart, hblanks c (List.mem_of_mem_head? hc)]
  cases h with
  | bare hblanks => exact hblank hblanks hc
  | @list blanks inner hblanks _ _ =>
    cases blanks with
    | nil =>
      cases hc
      decide +kernel
    | cons b blanks => exact hblank hblanks hc

theorem member?_eq_some_iff {cs name : List Char} {parameters : Option (List Char)} :
    member? cs = some (name, parameters) ↔
      Name.isIdentifier name = true ∧ ∃ tail, Tail parameters tail ∧ cs = name ++ tail := by
  constructor
  · intro h
    have hcs := (List.takeWhile_append_dropWhile (p := Name.isPart) (l := cs)).symm
    have hrest := (List.takeWhile_append_dropWhile (p := Text.isBlank)
      (l := cs.dropWhile Name.isPart)).symm
    have hblanks : ∀ c ∈ (cs.dropWhile Name.isPart).takeWhile Text.isBlank,
        Text.isBlank c = true := fun c hc => List.mem_takeWhile_imp hc
    rw [← Text.trimStart] at hrest
    simp only [member?] at h
    split at h
    · rename_i hidentifier
      split at h
      · rename_i hnil
        cases h
        rw [hnil, List.append_nil] at hrest
        exact ⟨hidentifier, _, .bare (hrest ▸ hblanks), hcs⟩
      · split at h
        · rename_i inner hinner
          cases h
          obtain ⟨⟨hopen, hclose⟩, hlist⟩ := parenthesised?_eq_some_iff.1 hinner
          refine ⟨hidentifier, _, .list hblanks hopen hclose, ?_⟩
          rw [List.append_assoc, ← hlist, ← hrest, ← hcs]
        · cases h
    · cases h
  · rintro ⟨hidentifier, tail, htail, rfl⟩
    have hpart : ∀ c ∈ name, Name.isPart c = true :=
      fun c => Name.isPart_of_isIdentifier hidentifier
    have hstop : tail.takeWhile Name.isPart = [] ∧ tail.dropWhile Name.isPart = tail := by
      cases tail with
      | nil => exact ⟨rfl, rfl⟩
      | cons c tail => simp [htail.isPart_head? (c := c) rfl]
    rw [member?, List.takeWhile_append_of_pos hpart, List.dropWhile_append_of_pos hpart, hstop.1,
      hstop.2, List.append_nil]
    simp only [hidentifier, if_true]
    cases htail with
    | bare hblanks =>
      have hnil : Text.trimStart tail = [] := List.dropWhile_eq_nil_iff.2 hblanks
      rw [hnil]
    | @list blanks inner hblanks hopen hclose =>
      have hlist : Text.trimStart (blanks ++ '(' :: inner ++ [')']) = '(' :: inner ++ [')'] := by
        rw [Text.trimStart, List.append_assoc, List.dropWhile_append_of_pos hblanks]
        rfl
      have hread : parenthesised? ('(' :: inner ++ [')']) = some (inner, []) :=
        parenthesised?_eq_some_iff.2 ⟨⟨hopen, hclose⟩, rfl⟩
      simp only [hlist, List.cons_append] at hread ⊢
      rw [hread]

theorem qualified?_eq_some_iff {cs : List Char} {p : Payload} :
    qualified? cs = some p ↔
      ∃ owner member parameters rest, p = .qualified owner member parameters ∧
        cs = owner ++ '#' :: rest ∧ isPath owner = true ∧
        member? rest = some (member, parameters) := by
  constructor
  · intro h
    have hcs := (List.takeWhile_append_dropWhile (p := (· != '#')) (l := cs)).symm
    unfold qualified? at h
    split at h
    · cases h
    · rename_i hash rest hdrop
      have hhash : hash = '#' := by
        have hstop := List.head?_dropWhile_not (· != '#') cs
        simpa [hdrop] using hstop
      split at h
      · rename_i hpath
        obtain ⟨⟨member, parameters⟩, hmember, rfl⟩ := Option.map_eq_some_iff.1 h
        rw [hdrop, hhash] at hcs
        exact ⟨_, member, parameters, rest, rfl, hcs, hpath, hmember⟩
      · cases h
  · rintro ⟨owner, member, parameters, rest, rfl, rfl, hpath, hmember⟩
    have hhash := not_mem_of_isPath (c := '#') (by decide +kernel) hpath
    have howner : ∀ c ∈ owner, (c != '#') = true := by
      intro c hc
      rw [bne_iff_ne]
      exact ne_of_mem_of_not_mem hc hhash
    rw [qualified?, List.takeWhile_append_of_pos howner, List.dropWhile_append_of_pos howner]
    simp [hpath, hmember]

def star (wildcard : Bool) : List Char := if wildcard then ['*'] else []

theorem not_mem_of_isPath_withoutArrays {c : Char} (hc : isArgument c = false) {cs : List Char}
    (h : isPath (withoutArrays cs) = true) : c ∉ cs := by
  intro hmem
  have hne {d : Char} (hd : isArgument d = true) : c ≠ d := by
    rintro rfl
    rw [hd] at hc
    cases hc
  exact not_mem_of_isPath hc h
    (mem_withoutArrays (hne (by decide +kernel)) (hne (by decide +kernel)) hmem)

theorem trimEnd_of_isPath_withoutArrays {name : List Char}
    (h : isPath (withoutArrays name) = true) : Text.trimEnd name = name := by
  rcases List.eq_nil_or_concat name with rfl | ⟨most, c, rfl⟩
  · rfl
  rw [List.concat_eq_append] at h ⊢
  apply Text.trimEnd_concat
  by_cases hbracket : c = ']'
  · rw [hbracket]
    decide
  · rw [withoutArrays_eq_self (by simpa using hbracket)] at h
    rcases last_of_isPath h with hpart | rfl
    · exact Name.isBlank_of_isPart hpart
    · decide

theorem span_name {name blanks : List Char} (hpath : isPath (withoutArrays name) = true)
    (hblanks : ∀ c ∈ blanks, Text.isBlank c = true) (rest : List Char)
    (hrest : rest.takeWhile (fun c => c != '(' && c != '*') = []) :
    Text.trimEnd ((name ++ blanks ++ rest).takeWhile fun c => c != '(' && c != '*') = name ∧
      (name ++ blanks ++ rest).dropWhile (fun c => c != '(' && c != '*') = rest := by
  have hfront : ∀ c ∈ name ++ blanks, (c != '(' && c != '*') = true := by
    intro c hc
    rw [Bool.and_eq_true, bne_iff_ne, bne_iff_ne]
    rcases List.mem_append.1 hc with hc | hc
    · exact ⟨ne_of_mem_of_not_mem hc (not_mem_of_isPath_withoutArrays (by decide +kernel) hpath),
        ne_of_mem_of_not_mem hc (not_mem_of_isPath_withoutArrays (by decide +kernel) hpath)⟩
    · have hblank := hblanks c hc
      constructor
      · rintro rfl
        exact absurd hblank (by decide)
      · rintro rfl
        exact absurd hblank (by decide)
  have hsplit := List.takeWhile_append_dropWhile (p := fun c => c != '(' && c != '*') (l := rest)
  rw [hrest, List.nil_append] at hsplit
  rw [List.takeWhile_append_of_pos hfront, List.dropWhile_append_of_pos hfront, hrest, hsplit,
    List.append_nil, Text.trimEnd_append_blanks hblanks, trimEnd_of_isPath_withoutArrays hpath]
  exact ⟨rfl, rfl⟩

/-- What is read as a plain payload: a path with array brackets, what may follow a name, and maybe
    a star. -/
theorem plain?_eq_some_iff {cs : List Char} {p : Payload} :
    plain? cs = some p ↔
      ∃ name parameters wildcard tail, p = .plain name parameters wildcard ∧
        isPath (withoutArrays name) = true ∧ Tail parameters tail ∧
        cs = name ++ tail ++ star wildcard := by
  constructor
  · intro h
    obtain ⟨blanks, hblanks, hname⟩ :=
      Text.exists_trimEnd (cs.takeWhile fun c => c != '(' && c != '*')
    have hcs := (List.takeWhile_append_dropWhile (p := fun c => c != '(' && c != '*')
      (l := cs)).symm
    rw [hname] at hcs
    simp only [plain?] at h
    split at h
    · rename_i hpath
      split at h
      · rename_i hdrop
        cases h
        rw [hdrop] at hcs
        exact ⟨_, none, false, blanks, rfl, hpath, .bare hblanks, hcs⟩
      · rename_i hdrop
        cases h
        rw [hdrop] at hcs
        exact ⟨_, none, true, blanks, rfl, hpath, .bare hblanks, hcs⟩
      · split at h
        · rename_i inner hinner
          cases h
          obtain ⟨⟨hopen, hclose⟩, hlist⟩ := parenthesised?_eq_some_iff.1 hinner
          rw [hlist] at hcs
          exact ⟨_, _, false, _, rfl, hpath, .list hblanks hopen hclose, by simpa [star] using hcs⟩
        · rename_i inner hinner
          cases h
          obtain ⟨⟨hopen, hclose⟩, hlist⟩ := parenthesised?_eq_some_iff.1 hinner
          rw [hlist] at hcs
          exact ⟨_, _, true, _, rfl, hpath, .list hblanks hopen hclose, by simpa [star] using hcs⟩
        · cases h
    · cases h
  · rintro ⟨name, parameters, wildcard, tail, rfl, hpath, htail, rfl⟩
    cases htail with
    | bare hblanks =>
      obtain ⟨hname, hrest⟩ := span_name hpath hblanks (star wildcard)
        (by cases wildcard <;> decide)
      rw [plain?, hname, hrest, if_pos hpath]
      cases wildcard <;> rfl
    | @list blanks inner hblanks hopen hclose =>
      obtain ⟨hname, hrest⟩ := span_name hpath hblanks ('(' :: (inner ++ ')' :: star wildcard))
        (by simp)
      have hlist : parenthesised? ('(' :: (inner ++ ')' :: star wildcard)) =
          some (inner, star wildcard) := parenthesised?_eq_some_iff.2 ⟨⟨hopen, hclose⟩, rfl⟩
      have hassoc : name ++ (blanks ++ '(' :: inner ++ [')']) ++ star wildcard =
          name ++ blanks ++ '(' :: (inner ++ ')' :: star wildcard) := by
        simp
      rw [hassoc, plain?, hname, hrest, if_pos hpath]
      split
      · rename_i hnil
        cases hnil
      · rename_i hstar
        simp at hstar
      · rw [hlist]
        cases wildcard <;> rfl

theorem ofText?_trimBoth (cs : List Char) : ofText? (Text.trimBoth cs) = ofText? cs := by
  rw [ofText?, Text.trimBoth_trimBoth, ofText?]

theorem not_mem_of_plain? {cs name : List Char} {wildcard : Bool}
    (h : plain? cs = some (.plain name none wildcard)) : '#' ∉ cs := by
  obtain ⟨_, _, _, tail, heq, hpath, htail, rfl⟩ := plain?_eq_some_iff.1 h
  cases heq
  cases htail with
  | bare hblanks =>
    have hname := not_mem_of_isPath_withoutArrays (c := '#') (by decide +kernel) hpath
    have htail : '#' ∉ tail := fun hmem => absurd (hblanks '#' hmem) (by decide)
    have hstar : '#' ∉ star wildcard := by cases wildcard <;> decide
    simp [hname, htail, hstar]

theorem qualified_of_ofText? {cs owner member : List Char} {parameters : Option (List Char)}
    (h : ofText? cs = some (.qualified owner member parameters)) :
    ∃ rest, Text.trimBoth cs = owner ++ '#' :: rest ∧ member? rest = some (member, parameters) := by
  unfold ofText? at h
  split at h
  · obtain ⟨_, _, heq⟩ := Option.map_eq_some_iff.1 h
    cases heq
  · rcases Option.or_eq_some_iff.1 h with h | ⟨_, h⟩
    · obtain ⟨_, _, _, rest, heq, htext, _, hmember⟩ := qualified?_eq_some_iff.1 h
      cases heq
      exact ⟨rest, htext, hmember⟩
    · obtain ⟨_, _, _, _, heq, _⟩ := plain?_eq_some_iff.1 h
      cases heq

theorem not_mem_of_qualified {cs owner member : List Char} {parameters : Option (List Char)}
    (h : ofText? cs = some (.qualified owner member parameters)) {c : Char}
    (hc : Name.isPart c = false) : c ∉ member := by
  obtain ⟨_, _, hmember⟩ := qualified_of_ofText? h
  obtain ⟨hidentifier, -⟩ := member?_eq_some_iff.1 hmember
  intro hmem
  rw [Name.isPart_of_isIdentifier hidentifier hmem] at hc
  cases hc

theorem trimBoth_of_qualified {cs owner member : List Char}
    (h : ofText? cs = some (.qualified owner member none)) :
    Text.trimBoth cs = owner ++ '#' :: member := by
  obtain ⟨rest, htext, hmember⟩ := qualified_of_ofText? h
  obtain ⟨-, blanks, htail, hrest⟩ := member?_eq_some_iff.1 hmember
  cases htail with
  | bare hblanks =>
    rcases List.eq_nil_or_concat blanks with hnil | ⟨most, c, hlast⟩
    · rw [htext, hrest, hnil, List.append_nil]
    · have hend : Text.trimEnd (Text.trimStart cs) = (owner ++ '#' :: (member ++ most)) ++ [c] := by
        rw [← Text.trimBoth, htext, hrest, hlast]
        simp
      have hblank := hblanks c (by simp [hlast])
      rw [Text.isBlank_getLast_trimEnd hend] at hblank
      cases hblank

theorem getLast?_of_qualified {cs owner member inner : List Char}
    (h : ofText? cs = some (.qualified owner member (some inner))) :
    (Text.trimBoth cs).getLast? = some ')' := by
  obtain ⟨rest, htext, hmember⟩ := qualified_of_ofText? h
  obtain ⟨-, tail, htail, rfl⟩ := member?_eq_some_iff.1 hmember
  cases htail with
  | list _ _ _ => simp [htext, List.getLast?_append, List.getLast?_cons]

theorem not_mem_of_plain {cs name : List Char} {wildcard : Bool}
    (h : ofText? cs = some (.plain name none wildcard)) : '#' ∉ Text.trimBoth cs := by
  unfold ofText? at h
  split at h
  · obtain ⟨_, _, heq⟩ := Option.map_eq_some_iff.1 h
    cases heq
  · rcases Option.or_eq_some_iff.1 h with h | ⟨_, h⟩
    · obtain ⟨_, _, _, _, heq, _⟩ := qualified?_eq_some_iff.1 h
      cases heq
    · exact not_mem_of_plain? h

end Payload

end Crosslink
