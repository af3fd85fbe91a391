import Crosslink.Proofs.RewriteAgain
import Mathlib.Data.List.Perm.Basic
import Mathlib.Data.List.Perm.Lattice

set_option autoImplicit false

/-!
Markdown links between tags. A link that becomes a tag is found by the scan for tags, and takes
nothing away from it, where it stands apart: no opening of a tag is left unfinished before it, none
is in its label, and its target has no quote. Otherwise a tag around the link, an opening before it
or a tag in its label swallows one of the two, which is then neither resolved nor reported.
-/

namespace Crosslink

theorem Text.cutAt?_append_mark {first : Char} {mark : List Char} (hfirst : first ∉ mark)
    {cs : List Char} (h : cutAt? (first :: mark) cs = none) (rest : List Char) :
    cutAt? (first :: mark) (cs ++ (first :: mark ++ rest)) = some (cs, rest) := by
  induction cs with
  | nil =>
    have hmark : dropStart? (first :: mark) (first :: mark ++ rest) = some rest :=
      dropStart?_eq_some_iff.2 rfl
    rw [List.nil_append, List.cons_append, cutAt?, ← List.cons_append, hmark]
  | cons c cs ih =>
    rw [cutAt?] at h
    cases hstart : dropStart? (first :: mark) (c :: cs) with
    | some after => simp [hstart] at h
    | none =>
      rw [hstart, Option.map_eq_none_iff] at h
      have hmissed : dropStart? (first :: mark) (c :: (cs ++ (first :: mark ++ rest))) = none := by
        by_contra hsome
        obtain ⟨after, hafter⟩ := Option.ne_none_iff_exists'.1 hsome
        have htext : c :: (cs ++ first :: (mark ++ rest)) = first :: (mark ++ after) :=
          dropStart?_eq_some hafter
        rw [List.cons.injEq] at htext
        -- The mark starts with a character it has only there, so it cannot overlap itself.
        obtain ⟨middle, hcs, _⟩ := Tag.exists_of_append_eq_append htext.2.symm hfirst
        have hfound : dropStart? (first :: mark) (c :: cs) = some middle :=
          dropStart?_eq_some_iff.2 (by rw [hcs, htext.1]; rfl)
        rw [hstart] at hfound
        cases hfound
      rw [List.cons_append, cutAt?, hmissed, ih h]
      rfl

namespace Tag

def opens (name cs : List Char) : Bool :=
  match Text.dropStart? ('<' :: name) cs with
  | none => false
  | some after =>
    !(after.takeWhile Text.isBlank).isEmpty &&
      (Text.dropStart? uidStart (after.dropWhile Text.isBlank)).isSome

def openless (name : List Char) : List Char → Bool
  | [] => true
  | c :: cs => !opens name (c :: cs) && openless name cs

def settled (name : List Char) : List Piece → Bool
  | [] => true
  | .tag _ :: ps => settled name ps
  | .char c :: ps => !opens name (c :: ofPieces name ps) && settled name ps

theorem opens_iff {name cs : List Char} :
    opens name cs = true ↔ ∃ gap rest, gap ≠ [] ∧ (∀ c ∈ gap, Text.isBlank c = true) ∧
      cs = opening name gap ++ rest := by
  constructor
  · intro h
    unfold opens at h
    split at h
    · cases h
    · rename_i after hname
      rw [Bool.and_eq_true, Option.isSome_iff_exists] at h
      obtain ⟨hgap, rest, hstart⟩ := h
      refine ⟨after.takeWhile Text.isBlank, rest, by simpa using hgap,
        fun c hc => List.mem_takeWhile_imp hc, ?_⟩
      have hafter := (List.takeWhile_append_dropWhile (p := Text.isBlank) (l := after)).symm
      rw [Text.dropStart?_eq_some hstart] at hafter
      rw [Text.dropStart?_eq_some hname]
      conv => lhs; rw [hafter]
      simp [opening]
  · rintro ⟨gap, rest, hgap, blank, rfl⟩
    have hname : Text.dropStart? ('<' :: name) (opening name gap ++ rest) =
        some (gap ++ (uidStart ++ rest)) :=
      Text.dropStart?_eq_some_iff.2 (by simp [opening])
    have hstart : Text.dropStart? uidStart (uidStart ++ rest) = some rest :=
      Text.dropStart?_eq_some_iff.2 rfl
    simp [opens, hname, takeWhile_gap blank, hgap, hstart]

theorem opens_of_read? {name cs rest : List Char} {t : Tag} (h : read? name cs = some (t, rest)) :
    opens name cs = true := by
  obtain ⟨readable, htext⟩ := read?_eq_some_iff.1 h
  rw [toText_eq, List.append_assoc] at htext
  exact opens_iff.2 ⟨t.gap, _, readable.gap_ne_nil, readable.gap_blank, htext⟩

theorem read?_eq_none_of_opens {name cs : List Char} (h : opens name cs = false) :
    read? name cs = none := by
  by_contra hsome
  obtain ⟨⟨t, rest⟩, found⟩ := Option.ne_none_iff_exists'.1 hsome
  rw [opens_of_read? found] at h
  cases h

theorem opens_cons_of_ne {c : Char} (h : c ≠ '<') (name cs : List Char) :
    opens name (c :: cs) = false := by
  rw [Bool.eq_false_iff, ne_eq, opens_iff]
  rintro ⟨gap, rest, _, _, htext⟩
  rw [opening, List.cons_append, List.cons.injEq] at htext
  exact h htext.1

theorem openless_of_not_mem {name cs : List Char} (h : '"' ∉ cs) : openless name cs = true := by
  induction cs with
  | nil => rfl
  | cons c cs ih =>
    have hopens : opens name (c :: cs) = false := by
      rw [Bool.eq_false_iff, ne_eq, opens_iff]
      rintro ⟨gap, rest, _, _, htext⟩
      rw [htext] at h
      simp [opening, uidStart] at h
    rw [openless, hopens, ih fun hmem => h (List.mem_cons_of_mem c hmem)]
    rfl

theorem openless_right {name : List Char} (xs : List Char) {ys : List Char}
    (h : openless name (xs ++ ys) = true) : openless name ys = true := by
  induction xs with
  | nil => exact h
  | cons x xs ih =>
    rw [List.cons_append, openless, Bool.and_eq_true] at h
    exact ih h.2

theorem pieces_of_openless {name cs : List Char} (h : openless name cs = true) :
    pieces name cs = cs.map .char := by
  induction cs with
  | nil => exact pieces_nil name
  | cons c cs ih =>
    rw [openless, Bool.and_eq_true, Bool.not_eq_true'] at h
    rw [pieces_of_not_read? (read?_eq_none_of_opens h.1), ih h.2, List.map_cons]

theorem settled_of_openless {name cs : List Char} (h : openless name cs = true) :
    settled name (pieces name cs) = true := by
  rw [pieces_of_openless h]
  induction cs with
  | nil => rfl
  | cons c cs ih =>
    rw [openless, Bool.and_eq_true] at h
    rw [List.map_cons, settled, ofPieces_chars, h.1, ih h.2]
    rfl

def breaks (c : Char) : Bool :=
  !Settings.isNameChar c && !Text.isBlank c && !uidStart.contains c

section

variable {name : List Char} (hname : ∀ c ∈ name, Settings.isNameChar c = true)

include hname

theorem read?_append_of_breaks {c d : Char} (hc : breaks c = true) {xs : List Char}
    (h : opens name (d :: xs) = false) (ys : List Char) :
    read? name (d :: (xs ++ c :: ys)) = none := by
  by_contra hsome
  obtain ⟨⟨t, rest⟩, found⟩ := Option.ne_none_iff_exists'.1 hsome
  obtain ⟨readable, htext⟩ := read?_eq_some_iff.1 found
  simp only [breaks, Bool.and_eq_true, Bool.not_eq_true', List.contains_eq_mem,
    decide_eq_false_iff_not] at hc
  obtain ⟨⟨hnameChar, hblank⟩, hstart⟩ := hc
  have hnot : c ∉ name ++ t.gap ++ uidStart := by
    intro hmem
    rcases List.mem_append.1 hmem with hmem | hmem
    · rcases List.mem_append.1 hmem with hmem | hmem
      · rw [hname c hmem] at hnameChar
        cases hnameChar
      · rw [readable.gap_blank c hmem] at hblank
        cases hblank
    · exact hstart hmem
  rw [toText_eq, List.append_assoc, opening, List.cons_append, List.cons.injEq] at htext
  obtain ⟨hd, htext⟩ := htext
  -- The opening ends before `c`, so it is whole in `d :: xs`.
  obtain ⟨middle, hxs, _⟩ := exists_of_append_eq_append htext.symm hnot
  have hopens : opens name (d :: xs) = true :=
    opens_iff.2 ⟨t.gap, middle, readable.gap_ne_nil, readable.gap_blank, by rw [hd, hxs]; rfl⟩
  rw [h] at hopens
  cases hopens

theorem pieces_append {xs : List Char} (h : settled name (pieces name xs) = true) {c : Char}
    (hc : breaks c = true) (ys : List Char) :
    pieces name (xs ++ c :: ys) = pieces name xs ++ pieces name (c :: ys) := by
  fun_induction pieces name xs with
  | case1 xs t rest found _ ih =>
    obtain ⟨readable, htext⟩ := read?_eq_some_iff.1 found
    have hread : read? name (xs ++ c :: ys) = some (t, rest ++ c :: ys) :=
      read?_eq_some_iff.2 ⟨readable, by rw [htext, List.append_assoc]⟩
    rw [pieces_of_read? hread, ih h]
    rfl
  | case2 => rfl
  | case3 d xs missed ih =>
    -- `d` starts no opening, so what follows cannot finish one.
    rw [settled, ofPieces_pieces, Bool.and_eq_true, Bool.not_eq_true'] at h
    rw [List.cons_append, pieces_of_not_read? (read?_append_of_breaks hname hc h.1 ys), ih h.2]
    rfl

theorem all_append {xs : List Char} (h : settled name (pieces name xs) = true) {c : Char}
    (hc : breaks c = true) (ys : List Char) :
    all name (xs ++ c :: ys) = all name xs ++ all name (c :: ys) := by
  rw [all, pieces_append hname h hc, List.filterMap_append]
  rfl

omit hname in
theorem all_cons_of_ne {c : Char} (h : c ≠ '<') (cs : List Char) :
    all name (c :: cs) = all name cs := by
  rw [all, pieces_of_not_read? (read?_eq_none_of_opens (opens_cons_of_ne h name cs))]
  rfl

theorem all_append_of_openless {xs : List Char} (h : openless name xs = true) {c : Char}
    (hc : breaks c = true) (ys : List Char) : all name (xs ++ c :: ys) = all name (c :: ys) := by
  have hnone : all name xs = [] := by
    rw [all, pieces_of_openless h, List.filterMap_map, List.filterMap_eq_nil_iff]
    intro c _
    rfl
  rw [all_append hname (settled_of_openless h) hc, hnone, List.nil_append]

theorem all_skip {xs : List Char} (h : openless name xs = true) {c : Char} (hc : breaks c = true)
    (hne : c ≠ '<') (ys : List Char) : all name (xs ++ c :: ys) = all name ys := by
  rw [all_append_of_openless hname h hc, all_cons_of_ne hne]

theorem not_mem_name {c : Char} (hc : Settings.isNameChar c = false) : c ∉ name := by
  intro hmem
  rw [hname c hmem] at hc
  cases hc

theorem all_closing_append (rest : List Char) :
    all name (closing name ++ rest) = all name rest := by
  have hquote : '"' ∉ '<' :: '/' :: name := by
    simp [not_mem_name hname (show Settings.isNameChar '"' = false by decide)]
  have htext : closing name ++ rest = ('<' :: '/' :: name) ++ '>' :: rest := by simp [closing]
  rw [htext, all_skip hname (openless_of_not_mem hquote) (by decide) (by decide)]

/-- A link written as a tag is found first. Its label may end early, but what is left of it then
    holds no other tag. -/
theorem map_uid_all_link {uid label : List Char} (huid : '"' ∉ uid)
    (hlabel : openless name label = true) (rest : List Char) :
    (all name (toText name { uid := uid, label := label } ++ rest)).map Tag.uid =
      uid :: (all name rest).map Tag.uid := by
  obtain ⟨before, after, hcut⟩ := Text.exists_cutAt? (closing name) label rest
  have hread : read? name (toText name { uid := uid, label := label } ++ rest) =
      some ({ uid := uid, label := before }, after) := by
    refine read?_eq_some_iff.2 ⟨⟨by simp, ?_, huid, by simp, Text.cutAt?_before hcut⟩, ?_⟩
    · intro c hc
      rw [List.mem_singleton.1 hc]
      decide
    · have htext := Text.cutAt?_eq_some hcut
      simp only [toText, List.append_assoc, List.cons_append, List.nil_append] at htext ⊢
      rw [htext]
  have hafter : all name after = all name rest := by
    cases hwithin : Text.cutAt? (closing name) label with
    | none =>
      have hslash : '<' ∉ '/' :: (name ++ ['>']) := by
        simp [not_mem_name hname (show Settings.isNameChar '<' = false by decide)]
      have hwhole := Text.cutAt?_append_mark hslash hwithin rest
      rw [show '<' :: '/' :: (name ++ ['>']) = closing name from rfl, hcut] at hwhole
      cases hwhole
      rfl
    | some cut =>
      obtain ⟨start, left⟩ := cut
      have hwhole := Text.cutAt?_append (closing name ++ rest) hwithin
      rw [hcut] at hwhole
      cases hwhole
      have hleft : openless name left = true := by
        rw [Text.cutAt?_eq_some hwithin] at hlabel
        exact openless_right _ hlabel
      have hclosing : all name (left ++ (closing name ++ rest)) = all name (closing name ++ rest) :=
        all_append_of_openless hname hleft (show breaks '<' = true by decide) _
      rw [hclosing, all_closing_append hname]
  rw [all, pieces_of_read? hread]
  simp only [List.filterMap_cons, Piece.tag?, List.map_cons]
  rw [← hafter]
  rfl

end

end Tag

namespace Markdown

def converted (text : String) : List Link :=
  (pieces text.toList).filterMap fun
    | .char _ => none
    | .link l => if l.isSymbol then some l else none

/-- The links among some pieces that become tags, each with the text since the one before it, and
    the text behind the last. `gap` is the text read so far. -/
def spans (gap : List Char) : List Piece → List (List Char × Link) × List Char
  | [] => ([], gap)
  | .char c :: ps => spans (gap ++ [c]) ps
  | .link l :: ps =>
    if l.isSymbol then ((gap, l) :: (spans [] ps).1, (spans [] ps).2)
    else spans (gap ++ l.toText) ps

def Link.Apart (name gap : List Char) (l : Link) : Prop :=
  '"' ∉ l.target ∧ Tag.openless name l.label = true ∧
    Tag.settled name (Tag.pieces name gap) = true

instance (name gap : List Char) (l : Link) : Decidable (l.Apart name gap) :=
  inferInstanceAs (Decidable (_ ∧ _ ∧ _))

/-- Every link of the text that becomes a tag stands apart from the tags of the text. -/
def LinksApart (name : List Char) (text : String) : Prop :=
  ∀ x ∈ (spans [] (pieces text.toList)).1, x.2.Apart name x.1

instance (name : List Char) (text : String) : Decidable (LinksApart name text) :=
  inferInstanceAs (Decidable (∀ x ∈ (spans [] (pieces text.toList)).1, _))

def Piece.write (f : Link → List Char) : Piece → List Char
  | char c => [c]
  | link l => if l.isSymbol then f l else l.toText

theorem spans_write (f : Link → List Char) (gap : List Char) (ps : List Piece) :
    gap ++ ps.flatMap (Piece.write f) =
      ((spans gap ps).1.flatMap fun x => x.1 ++ f x.2) ++ (spans gap ps).2 := by
  induction ps generalizing gap with
  | nil => simp [spans]
  | cons p ps ih =>
    cases p with
    | char c => rw [List.flatMap_cons, ← List.append_assoc, spans, ← ih, Piece.write]
    | link l =>
      rw [List.flatMap_cons, spans, Piece.write]
      split
      · have hrest := ih []
        rw [List.nil_append] at hrest
        simp only [List.flatMap_cons, List.append_assoc, hrest]
      · rw [← List.append_assoc, ← ih]

theorem map_snd_spans (gap : List Char) (ps : List Piece) :
    (spans gap ps).1.map Prod.snd = ps.filterMap fun
      | .char _ => none
      | .link l => if l.isSymbol then some l else none := by
  induction ps generalizing gap with
  | nil => rfl
  | cons p ps ih =>
    cases p with
    | char c => rw [spans, ih]; rfl
    | link l =>
      rw [spans, List.filterMap_cons]
      split
      · rename_i hsymbol
        simp [hsymbol, ih]
      · rename_i hplain
        simp [hplain, ih]

theorem toList_eq_spans (text : String) :
    text.toList = ((spans [] (pieces text.toList)).1.flatMap fun x => x.1 ++ x.2.toText) ++
      (spans [] (pieces text.toList)).2 := by
  rw [← spans_write, List.nil_append]
  conv => lhs; rw [← flatMap_toText_pieces text.toList]
  congr 1
  funext p
  cases p with
  | char c => rfl
  | link l => simp [Piece.write, Piece.toText]

theorem normalize_eq_spans (s : Settings) (text : String) :
    (normalize s text).toList = ((spans [] (pieces text.toList)).1.flatMap fun x =>
        x.1 ++ s.link (Text.trimBoth x.2.target) x.2.label) ++
      (spans [] (pieces text.toList)).2 := by
  rw [← spans_write fun l => s.link (Text.trimBoth l.target) l.label, List.nil_append, normalize,
    String.toList_ofList]
  congr 1

section

variable {name : List Char} (hname : ∀ c ∈ name, Settings.isNameChar c = true)

include hname

theorem all_toText {l : Link} (htarget : '"' ∉ l.target)
    (hlabel : Tag.openless name l.label = true) (rest : List Char) :
    Tag.all name (l.toText ++ rest) = Tag.all name rest := by
  have hbody : Tag.all name ('[' :: (l.label ++ ']' :: '(' :: (l.target ++ ')' :: rest))) =
      Tag.all name rest := by
    rw [Tag.all_cons_of_ne (by decide), Tag.all_skip hname hlabel (by decide) (by decide),
      Tag.all_cons_of_ne (by decide),
      Tag.all_skip hname (Tag.openless_of_not_mem htarget) (by decide) (by decide)]
  have htext : l.toText ++ rest = (if l.image then ['!'] else []) ++
      '[' :: (l.label ++ ']' :: '(' :: (l.target ++ ')' :: rest)) := by
    simp [Link.toText]
  rw [htext]
  cases l.image with
  | false => exact hbody
  | true => exact (Tag.all_cons_of_ne (by decide) _).trans hbody

theorem all_spans_toText {links : List (List Char × Link)} (h : ∀ x ∈ links, x.2.Apart name x.1)
    (rest : List Char) :
    Tag.all name ((links.flatMap fun x => x.1 ++ x.2.toText) ++ rest) =
      (links.flatMap fun x => Tag.all name x.1) ++ Tag.all name rest := by
  induction links with
  | nil => rfl
  | cons x links ih =>
    obtain ⟨htarget, hlabel, hgap⟩ := h x List.mem_cons_self
    have hrest := ih fun y hy => h y (List.mem_cons_of_mem x hy)
    have hlink := all_toText hname htarget hlabel
      ((links.flatMap fun x => x.1 ++ x.2.toText) ++ rest)
    obtain ⟨c, cs, hstart, hc⟩ : ∃ c cs, x.2.toText = c :: cs ∧ Tag.breaks c = true := by
      unfold Link.toText
      cases x.2.image with
      | false => exact ⟨'[', _, rfl, by decide⟩
      | true => exact ⟨'!', _, rfl, by decide⟩
    rw [List.flatMap_cons, List.flatMap_cons, List.append_assoc, List.append_assoc, hstart,
      List.cons_append, Tag.all_append hname hgap hc, ← List.cons_append, ← hstart, hlink, hrest,
      List.append_assoc]

theorem map_uid_all_spans_link {s : Settings} (hs : s.tagName.toList = name)
    {links : List (List Char × Link)} (h : ∀ x ∈ links, x.2.Apart name x.1) (rest : List Char) :
    (Tag.all name ((links.flatMap fun x =>
        x.1 ++ s.link (Text.trimBoth x.2.target) x.2.label) ++ rest)).map Tag.uid =
      (links.flatMap fun x => (Tag.all name x.1).map Tag.uid ++ [Text.trimBoth x.2.target]) ++
        (Tag.all name rest).map Tag.uid := by
  induction links with
  | nil => rfl
  | cons x links ih =>
    obtain ⟨htarget, hlabel, hgap⟩ := h x List.mem_cons_self
    have hrest := ih fun y hy => h y (List.mem_cons_of_mem x hy)
    have huid : '"' ∉ Text.trimBoth x.2.target :=
      fun hmem => htarget (Text.mem_of_mem_trimBoth hmem)
    have hlink := Tag.map_uid_all_link hname huid hlabel ((links.flatMap fun x =>
      x.1 ++ s.link (Text.trimBoth x.2.target) x.2.label) ++ rest)
    rw [hrest] at hlink
    have happend (ys : List Char) : Tag.all name (x.1 ++ (Tag.toText name
        { uid := Text.trimBoth x.2.target, label := x.2.label } ++ ys)) =
        Tag.all name x.1 ++ Tag.all name (Tag.toText name
          { uid := Text.trimBoth x.2.target, label := x.2.label } ++ ys) :=
      Tag.all_append hname hgap (show Tag.breaks '<' = true by decide) _
    rw [List.flatMap_cons, List.flatMap_cons, Settings.link, hs, List.append_assoc,
      List.append_assoc, happend, List.map_append, hlink]
    simp only [List.append_assoc, List.cons_append, List.nil_append]

end

theorem perm_map_uid_all_normalize {s : Settings} (hs : Settings.isName s.tagName = true)
    {text : String} (h : LinksApart s.tagName.toList text) :
    ((Tag.all s.tagName.toList (normalize s text).toList).map Tag.uid).Perm
      ((Tag.all s.tagName.toList text.toList).map Tag.uid ++
        (converted text).map fun l => Text.trimBoth l.target) := by
  have hname : ∀ c ∈ s.tagName.toList, Settings.isNameChar c = true := by
    simp only [Settings.isName, Bool.and_eq_true, List.all_eq_true] at hs
    exact hs.2
  let links := (spans [] (pieces text.toList)).1
  let rest := (spans [] (pieces text.toList)).2
  have htext : Tag.all s.tagName.toList text.toList =
      (links.flatMap fun x => Tag.all s.tagName.toList x.1) ++ Tag.all s.tagName.toList rest := by
    conv => lhs; rw [toList_eq_spans text]
    exact all_spans_toText hname h rest
  have hconverted : (converted text).map (fun l => Text.trimBoth l.target) =
      links.flatMap fun x => [Text.trimBoth x.2.target] := by
    rw [converted, ← map_snd_spans [], List.map_map, List.map_eq_flatMap]
    rfl
  rw [normalize_eq_spans, map_uid_all_spans_link hname rfl h rest, htext, hconverted,
    List.map_append, List.map_flatMap, List.append_assoc]
  have hlinks := (List.flatMap_append_perm links
    (fun x => (Tag.all s.tagName.toList x.1).map Tag.uid)
    fun x => [Text.trimBoth x.2.target]).symm
  refine (hlinks.append_right _).trans ?_
  rw [List.append_assoc]
  exact List.perm_append_comm.append_left _

end Markdown

/-- Where the links of a text stand apart from its tags, none of either is lost: the normalized text
    has the targets of both, and rewriting it resolves or reports each of them. -/
theorem normalize_loses_no_link {toml : String} {s : Settings} (hs : Settings.ofToml toml = .ok s)
    {text : String} (h : Markdown.LinksApart s.tagName.toList text) (scope : Scope)
    (package : String) :
    let targets := (Tag.all s.tagName.toList text.toList).map Tag.uid ++
      (Markdown.converted text).map fun l => Text.trimBoth l.target
    let resolves := fun target => (scope.judge package.toList target).isResolved
    let written := scope.rewrite s package (Markdown.normalize s text)
    ((Tag.all s.tagName.toList (Markdown.normalize s text).toList).map Tag.uid).Perm targets ∧
      written.resolved = targets.countP resolves ∧
      (written.findings.map Finding.payload).Perm
        ((targets.filter fun target => !resolves target).map fun target =>
          String.ofList (Text.trimBoth target)) := by
  intro targets resolves written
  obtain ⟨_, htag, _⟩ := Settings.ofToml_eq_ok_iff.1 hs
  have hperm := Markdown.perm_map_uid_all_normalize htag h
  let tags := Tag.all s.tagName.toList (Markdown.normalize s text).toList
  have hresolved : written.resolved = (tags.map Tag.uid).countP resolves := by
    rw [List.countP_map]
    rfl
  have hfindings : written.findings.map Finding.payload =
      ((tags.map Tag.uid).filter fun target => !resolves target).map fun target =>
        String.ofList (Text.trimBoth target) := by
    have hreported := Tag.filterMap_finding? scope.document
      (fun t => scope.judge package.toList t.uid) tags
    change List.map Finding.payload (tags.filterMap fun t => _) = _
    rw [hreported, List.filter_map, List.map_map, List.map_map]
    apply List.map_congr_left
    intro t _
    change Finding.payload (if _ then _ else _) = _
    split <;> rfl
  refine ⟨hperm, ?_, ?_⟩
  · rw [hresolved]
    exact hperm.countP_eq resolves
  · rw [hfindings]
    exact (hperm.filter _).map _

theorem normalize_loses_no_link_between_tags :
    let text := "[b</link>](B(int)) <link uid=\"A\">a</link> [c](C) <link uid=\""
    let scope := (Index.ofDocuments [{ id := "d", entities := [{ uid := "A" }] }]).scope "d"
    let written := scope.rewrite {} "" (Markdown.normalize {} text)
    Markdown.converted text =
        [⟨false, "b</link>".toList, "B(int)".toList⟩, ⟨false, ['c'], ['C']⟩] ∧
      written.resolved = 1 ∧ (written.findings.map Finding.payload).Perm ["B(int)", "C"] := by
  intro text scope written
  have hs : Settings.ofToml "" = .ok {} := Settings.ofToml_eq_ok_iff.2 (by decide +kernel)
  have hapart : Markdown.LinksApart ({} : Settings).tagName.toList text := by decide +kernel
  obtain ⟨_, hresolved, hfindings⟩ := normalize_loses_no_link hs hapart scope ""
  exact ⟨by decide +kernel, hresolved.trans (by decide +kernel),
    hfindings.trans (.of_eq (by decide +kernel))⟩

theorem normalize_loses_link_in_label :
    ¬∀ (toml : String) (s : Settings) (text : String), Settings.ofToml toml = .ok s →
      ((Tag.all s.tagName.toList (Markdown.normalize s text).toList).map Tag.uid).Perm
        ((Tag.all s.tagName.toList text.toList).map Tag.uid ++
          (Markdown.converted text).map fun l => Text.trimBoth l.target) := by
  intro h
  have hs : Settings.ofToml "" = .ok {} := Settings.ofToml_eq_ok_iff.2 (by decide +kernel)
  have hlength := (h "" {} "<link uid=\"Foo\">[x](Bar)</link>" hs).length_eq
  exact absurd hlength (by decide +kernel)

end Crosslink
