import Crosslink.Tag
import Mathlib.Data.List.TakeWhile

set_option autoImplicit false

/-!
Reading tags back. `read?` finds a tag exactly where a readable one is written, and the tags of a
text can be replaced by other readable ones without any tag appearing, vanishing or moving: no
opening that stands between two tags can be completed by what is written behind it.
-/

namespace Crosslink.Text

theorem dropStart?_eq_some_iff {start cs rest : List Char} :
    dropStart? start cs = some rest ↔ cs = start ++ rest := by
  refine ⟨dropStart?_eq_some, ?_⟩
  rintro rfl
  induction start with
  | nil => simp [dropStart?]
  | cons s start ih => simpa [dropStart?] using ih

theorem dropStart?_append {start xs : List Char} (ys : List Char) (h : start.length ≤ xs.length) :
    dropStart? start (xs ++ ys) = (dropStart? start xs).map (· ++ ys) := by
  induction start generalizing xs with
  | nil => simp [dropStart?]
  | cons s start ih =>
    cases xs with
    | nil => simp at h
    | cons x xs =>
      have hle : start.length ≤ xs.length := by simpa using h
      by_cases hs : s = x
      · simpa [dropStart?, hs] using ih hle
      · simp [dropStart?, hs]

theorem length_le_of_cutAt? {mark cs before rest : List Char}
    (h : cutAt? mark cs = some (before, rest)) : mark.length ≤ cs.length := by
  rw [cutAt?_eq_some h]
  simp only [List.length_append]
  omega

theorem cutAt?_append {mark cs before rest : List Char} (ys : List Char)
    (h : cutAt? mark cs = some (before, rest)) :
    cutAt? mark (cs ++ ys) = some (before, rest ++ ys) := by
  induction cs generalizing before with
  | nil =>
    have hm : mark = [] := by simpa using length_le_of_cutAt? h
    subst hm
    simp only [cutAt?, List.isEmpty_nil, if_true, Option.some.injEq, Prod.mk.injEq] at h
    obtain ⟨rfl, rfl⟩ := h
    cases ys <;> simp [cutAt?, dropStart?]
  | cons c cs ih =>
    have hlen := length_le_of_cutAt? h
    rw [cutAt?] at h
    rw [List.cons_append, cutAt?, ← List.cons_append, dropStart?_append ys hlen]
    split at h
    · rename_i found
      simp only [Option.some.injEq, Prod.mk.injEq] at h
      obtain ⟨rfl, rfl⟩ := h
      simp [found]
    · rename_i missed
      obtain ⟨⟨before', rest'⟩, found, heq⟩ := Option.map_eq_some_iff.1 h
      simp only [Prod.mk.injEq] at heq
      obtain ⟨rfl, rfl⟩ := heq
      simp [missed, ih found]

theorem cutAt?_before {mark cs before rest : List Char}
    (h : cutAt? mark cs = some (before, rest)) :
    cutAt? mark (before ++ mark) = some (before, []) := by
  induction cs generalizing before with
  | nil =>
    have hm : mark = [] := by simpa using length_le_of_cutAt? h
    subst hm
    simp only [cutAt?, List.isEmpty_nil, if_true, Option.some.injEq, Prod.mk.injEq] at h
    obtain ⟨rfl, rfl⟩ := h
    simp [cutAt?]
  | cons c cs ih =>
    rw [cutAt?] at h
    split at h
    · simp only [Option.some.injEq, Prod.mk.injEq] at h
      obtain ⟨rfl, rfl⟩ := h
      have whole : dropStart? mark mark = some [] := dropStart?_eq_some_iff.2 (by simp)
      cases mark with
      | nil => simp [cutAt?]
      | cons m mark => simp [cutAt?, whole]
    · rename_i missed
      obtain ⟨⟨before', rest'⟩, found, heq⟩ := Option.map_eq_some_iff.1 h
      simp only [Prod.mk.injEq] at heq
      obtain ⟨rfl, rfl⟩ := heq
      have hcs := cutAt?_eq_some found
      rw [hcs, ← List.cons_append, ← List.cons_append,
        dropStart?_append rest' (by simp; omega), Option.map_eq_none_iff] at missed
      rw [List.cons_append, cutAt?, ← List.cons_append, missed]
      simp [ih found]

theorem exists_cutAt? (mark xs ys : List Char) :
    ∃ before rest, cutAt? mark (xs ++ (mark ++ ys)) = some (before, rest) := by
  induction xs with
  | nil =>
    have whole : dropStart? mark (mark ++ ys) = some ys := dropStart?_eq_some_iff.2 rfl
    cases hm : mark ++ ys with
    | nil => simp_all [cutAt?]
    | cons m more =>
      rw [hm] at whole
      exact ⟨[], ys, by simp [cutAt?, whole]⟩
  | cons x xs ih =>
    obtain ⟨before, rest, found⟩ := ih
    rw [List.cons_append, cutAt?]
    cases hx : dropStart? mark (x :: (xs ++ (mark ++ ys))) with
    | some after => exact ⟨[], after, rfl⟩
    | none => exact ⟨x :: before, rest, by simp [found]⟩

end Crosslink.Text

namespace Crosslink.Tag

theorem upTo?_eq_some_iff {stop : Char} {cs before rest : List Char} :
    upTo? stop cs = some (before, rest) ↔ stop ∉ before ∧ cs = before ++ stop :: rest := by
  induction cs generalizing before with
  | nil => simp [upTo?]
  | cons c cs ih =>
    rw [upTo?]
    by_cases hc : c = stop
    · subst hc
      cases before with
      | nil => simp
      | cons b before =>
        simp only [if_true, Option.some.injEq, Prod.mk.injEq, List.cons_append, List.cons.injEq]
        grind
    · cases before with
      | nil => simp [hc]
      | cons b before =>
        simp only [hc, if_false, Option.map_eq_some_iff, Prod.mk.injEq, List.cons_append,
          List.mem_cons, not_or, List.cons.injEq]
        constructor
        · rintro ⟨⟨before', rest'⟩, found, ⟨rfl, rfl⟩, rfl⟩
          obtain ⟨hmem, hcs⟩ := ih.1 found
          exact ⟨⟨Ne.symm hc, hmem⟩, rfl, hcs⟩
        · rintro ⟨⟨_, hmem⟩, rfl, hcs⟩
          exact ⟨(before, rest), ih.2 ⟨hmem, hcs⟩, ⟨rfl, rfl⟩, rfl⟩

theorem exists_upTo? (stop : Char) (xs ys : List Char) :
    ∃ before more, upTo? stop (xs ++ stop :: ys) = some (before, more ++ ys) := by
  induction xs with
  | nil => exact ⟨[], [], by simp [upTo?]⟩
  | cons x xs ih =>
    obtain ⟨before, more, found⟩ := ih
    by_cases hx : x = stop
    · exact ⟨[], xs ++ [stop], by simp [upTo?, hx]⟩
    · exact ⟨x :: before, more, by simp [upTo?, hx, found]⟩

/-- What a tag has to be so that `read?` finds its parts where they were written. -/
structure IsReadable (name : List Char) (t : Tag) : Prop where
  gap_ne_nil : t.gap ≠ []
  gap_blank : ∀ c ∈ t.gap, Text.isBlank c = true
  uid : '"' ∉ t.uid
  attributes : '>' ∉ t.attributes
  label : Text.cutAt? (closing name) (t.label ++ closing name) = some (t.label, [])

theorem takeWhile_gap {gap : List Char} (blank : ∀ c ∈ gap, Text.isBlank c = true)
    (cs : List Char) :
    (gap ++ (uidStart ++ cs)).takeWhile Text.isBlank = gap ∧
      (gap ++ (uidStart ++ cs)).dropWhile Text.isBlank = uidStart ++ cs := by
  have hu : Text.isBlank 'u' = false := by decide
  rw [List.takeWhile_append_of_pos blank, List.dropWhile_append_of_pos blank]
  simp [uidStart, hu]

theorem read?_eq_some_iff {name cs rest : List Char} {t : Tag} :
    read? name cs = some (t, rest) ↔ t.IsReadable name ∧ cs = t.toText name ++ rest := by
  constructor
  · intro h
    refine ⟨?_, read?_eq_some h⟩
    simp only [read?, Option.bind_eq_bind, Option.bind_eq_some_iff] at h
    obtain ⟨afterName, hname, h⟩ := h
    split at h
    · cases h
    · rename_i hgap
      obtain ⟨afterStart, hstart, ⟨uid, afterUid⟩, huid, ⟨attributes, afterOpening⟩, hattributes,
        ⟨label, rest'⟩, hlabel, h⟩ := by
        simpa only [Option.bind_eq_some_iff] using h
      simp only [Option.some.injEq, Prod.mk.injEq] at h
      obtain ⟨rfl, rfl⟩ := h
      exact
        { gap_ne_nil := by simpa using hgap
          gap_blank := fun c hc => List.mem_takeWhile_imp hc
          uid := (upTo?_eq_some_iff.1 huid).1
          attributes := (upTo?_eq_some_iff.1 hattributes).1
          label := Text.cutAt?_before hlabel }
  · rintro ⟨ht, rfl⟩
    have hname : Text.dropStart? ('<' :: name) (t.toText name ++ rest) =
        some (t.gap ++ (uidStart ++ (t.uid ++ '"' :: (t.attributes ++ '>' ::
          (t.label ++ closing name ++ rest))))) :=
      Text.dropStart?_eq_some_iff.2 (by simp [toText])
    have huid : upTo? '"' (t.uid ++ '"' :: (t.attributes ++ '>' ::
        (t.label ++ closing name ++ rest))) = some (t.uid, _) :=
      upTo?_eq_some_iff.2 ⟨ht.uid, rfl⟩
    have hattributes : upTo? '>' (t.attributes ++ '>' :: (t.label ++ closing name ++ rest)) =
        some (t.attributes, _) :=
      upTo?_eq_some_iff.2 ⟨ht.attributes, rfl⟩
    have hlabel := Text.cutAt?_append rest ht.label
    have hstart (cs : List Char) : Text.dropStart? uidStart (uidStart ++ cs) = some cs :=
      Text.dropStart?_eq_some_iff.2 rfl
    simp only [read?, hname, Option.bind_eq_bind, Option.bind_some, takeWhile_gap ht.gap_blank,
      List.isEmpty_iff, ht.gap_ne_nil, if_false, hstart, huid, hattributes, hlabel,
      List.nil_append]

theorem pieces_of_read? {name cs rest : List Char} {t : Tag} (h : read? name cs = some (t, rest)) :
    pieces name cs = .tag t :: pieces name rest := by
  rw [pieces]
  split
  · rename_i found
    rw [h, Option.some.injEq, Prod.mk.injEq] at found
    obtain ⟨rfl, rfl⟩ := found
    rfl
  · rename_i missed
    rw [h] at missed
    cases missed

theorem pieces_of_not_read? {name cs : List Char} {c : Char} (h : read? name (c :: cs) = none) :
    pieces name (c :: cs) = .char c :: pieces name cs := by
  rw [pieces]
  split
  · rename_i found
    rw [h] at found
    cases found
  · rfl

theorem pieces_nil (name : List Char) : pieces name [] = [] := by
  rw [pieces]
  split
  · rename_i found
    have h := read?_eq_some found
    exact absurd h.symm (by simp [toText])
  · rfl

theorem ofPieces_pieces (name cs : List Char) : ofPieces name (pieces name cs) = cs := by
  fun_induction pieces name cs with
  | case1 cs t rest h _ ih =>
    change t.toText name ++ ofPieces name (pieces name rest) = cs
    rw [ih, ← read?_eq_some h]
  | case2 => rfl
  | case3 c cs _ ih => exact congrArg (c :: ·) ih

theorem isReadable_of_mem_pieces {name cs : List Char} {t : Tag} (h : .tag t ∈ pieces name cs) :
    t.IsReadable name := by
  fun_induction pieces name cs with
  | case1 cs t' rest found _ ih =>
    rcases List.mem_cons.1 h with h | h
    · cases h
      exact (read?_eq_some_iff.1 found).1
    · exact ih h
  | case2 => cases h
  | case3 c cs _ ih =>
    rcases List.mem_cons.1 h with h | h
    · cases h
    · exact ih h

def opening (name gap : List Char) : List Char := '<' :: (name ++ gap ++ uidStart)

theorem toText_eq (name : List Char) (t : Tag) :
    t.toText name = opening name t.gap ++
      (t.uid ++ '"' :: (t.attributes ++ '>' :: (t.label ++ closing name))) := by
  simp [toText, opening]

/-- An opening with a whole tag somewhere behind it is the start of a tag: the quote, the angle and
    the closing tag that it needs are those of the tag behind it at the latest. -/
theorem exists_read?_of_opening {name gap : List Char} (hgap : gap ≠ [])
    (blank : ∀ c ∈ gap, Text.isBlank c = true) (between rest : List Char) (t : Tag) :
    ∃ t' rest', read? name (opening name gap ++ (between ++ (t.toText name ++ rest))) =
      some (t', rest') := by
  obtain ⟨uid, more, huid⟩ := exists_upTo? '"'
    (between ++ ('<' :: name ++ t.gap ++ ['u', 'i', 'd', '=']))
    (t.uid ++ '"' :: (t.attributes ++ '>' :: (t.label ++ (closing name ++ rest))))
  obtain ⟨attributes, more', hattributes⟩ := exists_upTo? '>'
    (more ++ t.uid ++ '"' :: t.attributes) (t.label ++ (closing name ++ rest))
  obtain ⟨label, rest', hlabel⟩ := Text.exists_cutAt? (closing name) (more' ++ t.label) rest
  refine ⟨⟨gap, uid, attributes, label⟩, rest', read?_eq_some_iff.2 ⟨?_, ?_⟩⟩
  · exact ⟨hgap, blank, (upTo?_eq_some_iff.1 huid).1, (upTo?_eq_some_iff.1 hattributes).1,
      Text.cutAt?_before hlabel⟩
  · have hu := (upTo?_eq_some_iff.1 huid).2
    have ha := (upTo?_eq_some_iff.1 hattributes).2
    have hl := Text.cutAt?_eq_some hlabel
    simp only [toText, opening, uidStart, List.append_assoc, List.cons_append,
      List.nil_append] at hu ha hl ⊢
    rw [hu, ha, hl]

theorem exists_of_append_eq_append {xs rest ys zs : List Char} {a : Char}
    (h : xs ++ rest = ys ++ a :: zs) (ha : a ∉ xs) :
    ∃ middle, ys = xs ++ middle ∧ rest = middle ++ a :: zs := by
  rcases List.append_eq_append_iff.1 h with ⟨middle, hys, hrest⟩ | ⟨middle, hxs, hzs⟩
  · exact ⟨middle, hys, hrest⟩
  · cases middle with
    | nil => exact ⟨[], by simpa using hxs.symm, hzs.symm⟩
    | cons b middle =>
      have hb : a = b := by simpa using congrArg List.head? hzs
      subst hb
      exact absurd (hxs ▸ List.mem_append_right ys List.mem_cons_self) ha

theorem opening_before_tag {name gap rest before after : List Char} {c : Char} {t : Tag}
    (hname : '<' ∉ name) (blank : ∀ c ∈ gap, Text.isBlank c = true)
    (h : opening name gap ++ rest = c :: (before ++ (t.toText name ++ after))) :
    ∃ middle, c :: before = opening name gap ++ middle := by
  have hgap : '<' ∉ gap := fun hmem => absurd (blank '<' hmem) (by decide)
  have hrest : '<' ∉ name ++ gap ++ uidStart := by simp [hname, hgap, uidStart]
  rw [toText_eq] at h
  simp only [opening, List.cons_append, List.cons.injEq] at h
  obtain ⟨middle, hbefore, _⟩ := exists_of_append_eq_append h.2 hrest
  exact ⟨middle, by rw [hbefore, ← h.1]; rfl⟩

def Piece.map (f : Tag → Tag) : Piece → Piece
  | char c => char c
  | tag t => tag (f t)

theorem exists_first_tag (ps : List Piece) :
    (∃ cs : List Char, ps = cs.map .char) ∨
      ∃ (cs : List Char) (t : Tag) (qs : List Piece), ps = cs.map .char ++ .tag t :: qs := by
  induction ps with
  | nil => exact .inl ⟨[], rfl⟩
  | cons p ps ih =>
    cases p with
    | tag t => exact .inr ⟨[], t, ps, rfl⟩
    | char c =>
      rcases ih with ⟨cs, rfl⟩ | ⟨cs, t, qs, rfl⟩
      · exact .inl ⟨c :: cs, rfl⟩
      · exact .inr ⟨c :: cs, t, qs, rfl⟩

theorem ofPieces_append (name : List Char) (ps qs : List Piece) :
    ofPieces name (ps ++ qs) = ofPieces name ps ++ ofPieces name qs := by
  simp [ofPieces]

theorem ofPieces_chars (name cs : List Char) : ofPieces name (cs.map .char) = cs := by
  induction cs with
  | nil => rfl
  | cons c cs ih => exact congrArg (c :: ·) ih

theorem ofPieces_tag (name : List Char) (t : Tag) (ps : List Piece) :
    ofPieces name (.tag t :: ps) = t.toText name ++ ofPieces name ps := rfl

theorem map_chars (f : Tag → Tag) (cs : List Char) :
    (cs.map Piece.char).map (Piece.map f) = cs.map .char := by
  rw [List.map_map]
  rfl

/-- Where no tag starts, none starts after the tags further on are replaced. -/
theorem read?_map_eq_none {name : List Char} (hname : '<' ∉ name) (f : Tag → Tag) {c : Char}
    {ps : List Piece} (h : read? name (c :: ofPieces name ps) = none) :
    read? name (c :: ofPieces name (ps.map (Piece.map f))) = none := by
  rcases exists_first_tag ps with ⟨cs, rfl⟩ | ⟨cs, t, qs, rfl⟩
  · rwa [map_chars]
  · by_contra hsome
    obtain ⟨⟨t', rest'⟩, found⟩ := Option.ne_none_iff_exists'.1 hsome
    obtain ⟨readable, htext⟩ := read?_eq_some_iff.1 found
    rw [List.map_append, map_chars, ofPieces_append, ofPieces_chars, toText_eq,
      List.append_assoc] at htext
    obtain ⟨middle, hmiddle⟩ := opening_before_tag hname readable.gap_blank htext.symm
    obtain ⟨t'', rest'', hread⟩ := exists_read?_of_opening readable.gap_ne_nil
      readable.gap_blank middle (ofPieces name qs) t
    rw [ofPieces_append, ofPieces_chars, ofPieces_tag, ← List.cons_append, hmiddle,
      List.append_assoc, hread] at h
    cases h

/-- Replacing the tags of a text by readable ones keeps its pieces in place: reading the new text
    gives the same characters between the new tags. -/
theorem pieces_ofPieces_map {name : List Char} (hname : '<' ∉ name) (f : Tag → Tag)
    (cs : List Char) (hf : ∀ t, .tag t ∈ pieces name cs → (f t).IsReadable name) :
    pieces name (ofPieces name ((pieces name cs).map (Piece.map f))) =
      (pieces name cs).map (Piece.map f) := by
  fun_induction pieces name cs with
  | case1 cs t rest _ _ ih =>
    have ht := hf t List.mem_cons_self
    have hrest := ih fun t' ht' => hf t' (List.mem_cons_of_mem _ ht')
    rw [List.map_cons, Piece.map, ofPieces_tag, pieces_of_read? (read?_eq_some_iff.2 ⟨ht, rfl⟩),
      hrest]
  | case2 => exact pieces_nil name
  | case3 c cs missed ih =>
    have hrest := ih fun t' ht' => hf t' (List.mem_cons_of_mem _ ht')
    have hnone := read?_map_eq_none hname f ((ofPieces_pieces name cs).symm ▸ missed)
    change pieces name (c :: ofPieces name ((pieces name cs).map (Piece.map f))) = _
    rw [pieces_of_not_read? hnone, hrest]
    rfl

end Crosslink.Tag
