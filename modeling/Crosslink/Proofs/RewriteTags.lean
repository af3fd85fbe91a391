import Crosslink.Proofs.TagScan
import Crosslink.Rewrite
import Crosslink.Toml.Settings

set_option autoImplicit false

namespace Crosslink

namespace Settings

theorem ofToml_eq_ok_iff {toml : String} {s : Settings} :
    ofToml toml = .ok s ↔ (Toml.read? toml).bind Toml.settings? = some s ∧
      isName s.tagName = true ∧ isName s.unresolvedAttribute = true := by
  unfold ofToml
  cases hread : (Toml.read? toml).bind Toml.settings? with
  | none => simp
  | some given =>
    simp only [checked, Option.some.injEq]
    constructor
    · intro h
      split at h
      · cases h
      · rename_i htag
        split at h
        · cases h
        · rename_i hattribute
          cases h
          exact ⟨rfl, by simpa using htag, by simpa using hattribute⟩
    · rintro ⟨rfl, htag, hattribute⟩
      simp [htag, hattribute]

theorem not_mem_of_isName {s : String} {c : Char} (h : isName s = true)
    (hc : isNameChar c = false) : c ∉ s.toList := by
  intro hmem
  simp only [isName, Bool.and_eq_true, List.all_eq_true] at h
  exact absurd (h.2 c hmem) (by simp [hc])

theorem not_mem_flag {s : Settings} (h : isName s.unresolvedAttribute = true) :
    '>' ∉ s.flag := by
  have hname := not_mem_of_isName h (show isNameChar '>' = false by decide)
  simp [flag, hname]

end Settings

namespace Tag

theorem afterValue?_suffix {key cs rest : List Char} (h : afterValue? key cs = some rest) :
    rest <:+ cs := by
  simp only [afterValue?, Option.bind_eq_bind, Option.bind_eq_some_iff] at h
  obtain ⟨value, hvalue, ⟨before, after⟩, hafter, h⟩ := h
  simp only [Option.some.injEq] at h
  subst h
  rw [Text.dropStart?_eq_some hvalue, upTo?_eq_some hafter]
  exact ⟨key ++ ['=', '"'] ++ before ++ ['"'], by simp⟩

theorem afterAttribute?_suffix {key cs rest : List Char} (h : afterAttribute? key cs = some rest) :
    rest <:+ cs := by
  induction cs with
  | nil => simp [afterAttribute?] at h
  | cons c cs ih =>
    rw [afterAttribute?] at h
    split at h
    · rcases Option.or_eq_some_iff.1 h with h | ⟨_, h⟩
      · exact (ih h).trans (List.suffix_cons c cs)
      · exact (afterValue?_suffix h).trans (List.suffix_cons c cs)
    · cases h

theorem mem_of_mem_withoutAttribute {key cs : List Char} {c : Char}
    (h : c ∈ withoutAttribute key cs) : c ∈ cs := by
  fun_induction withoutAttribute key cs with
  | case1 cs rest found _ ih => exact (afterAttribute?_suffix found).subset (ih h)
  | case2 => exact h
  | case3 d cs _ ih =>
    rcases List.mem_cons.1 h with h | h
    · exact h ▸ List.mem_cons_self
    · exact List.mem_cons_of_mem d (ih h)

theorem settle_label (s : Settings) (t : Tag) (v : Verdict) : (t.settle s v).label = t.label := by
  cases v <;> rfl

def payload (t : Tag) : String := String.ofList (Text.trimBoth t.uid)

theorem filterMap_finding? (document : String) (verdict : Tag → Verdict) (tags : List Tag) :
    (tags.filterMap fun t => t.finding? document (verdict t)) =
      (tags.filter fun t => !(verdict t).isResolved).map fun t =>
        if verdict t = .malformed then .malformed document t.payload
        else .unresolved document t.payload := by
  induction tags with
  | nil => rfl
  | cons t tags ih =>
    rw [List.filterMap_cons, List.filter_cons, ih]
    cases hverdict : verdict t with
    | resolved uid => simp [finding?, Verdict.isResolved]
    | unresolved => simp [finding?, Verdict.isResolved, hverdict, payload]
    | malformed => simp [finding?, Verdict.isResolved, hverdict, payload]

theorem settle_isReadable {s : Settings} (hs : Settings.isName s.unresolvedAttribute = true)
    {name : List Char} {t : Tag} (ht : t.IsReadable name) {v : Verdict}
    (hv : ∀ uid, v = .resolved uid → '"' ∉ uid.toList) : (t.settle s v).IsReadable name := by
  have hkept : '>' ∉ withoutAttribute s.unresolvedAttribute.toList t.attributes :=
    fun h => ht.attributes (mem_of_mem_withoutAttribute h)
  have hflagged : '>' ∉ s.flag ++ withoutAttribute s.unresolvedAttribute.toList t.attributes := by
    simp [Settings.not_mem_flag hs, hkept]
  have hblank : ∀ c ∈ [' '], Text.isBlank c = true := by
    intro c hc
    rw [List.mem_singleton.1 hc]
    rfl
  cases v with
  | resolved uid => exact ⟨by simp [settle], hblank, hv uid rfl, hkept, ht.label⟩
  | unresolved => exact ⟨by simp [settle], hblank, by simp [settle], hflagged, ht.label⟩
  | malformed => exact ⟨by simp [settle], hblank, ht.uid, hflagged, ht.label⟩

def gaps : List Piece → List (List Char)
  | [] => [[]]
  | .tag _ :: ps => [] :: gaps ps
  | .char c :: ps =>
    match gaps ps with
    | [] => [[c]]
    | gap :: more => (c :: gap) :: more

def around (name cs : List Char) : List (List Char) := gaps (pieces name cs)

theorem gaps_map (f : Tag → Tag) (ps : List Piece) : gaps (ps.map (Piece.map f)) = gaps ps := by
  induction ps with
  | nil => rfl
  | cons p ps ih =>
    cases p with
    | tag t => exact congrArg ([] :: ·) ih
    | char c => simp only [List.map_cons, Piece.map, gaps, ih]

theorem filterMap_tag?_map (f : Tag → Tag) (ps : List Piece) :
    (ps.map (Piece.map f)).filterMap Piece.tag? = (ps.filterMap Piece.tag?).map f := by
  induction ps with
  | nil => rfl
  | cons p ps ih =>
    cases p with
    | tag t => exact congrArg (f t :: ·) ih
    | char c => exact ih

theorem mem_all_iff {name cs : List Char} {t : Tag} :
    t ∈ all name cs ↔ .tag t ∈ pieces name cs := by
  simp only [all, List.mem_filterMap]
  constructor
  · rintro ⟨p, hp, heq⟩
    cases p with
    | tag t' =>
      cases heq
      exact hp
    | char c => cases heq
  · intro h
    exact ⟨.tag t, h, rfl⟩

end Tag

def Verdict.quoteFree : Verdict → Bool
  | resolved uid => !uid.toList.contains '"'
  | _ => true

namespace Scope

/-- The tag that rewriting writes in place of `t`. -/
def settle (scope : Scope) (s : Settings) (package : String) (t : Tag) : Tag :=
  t.settle s (scope.judge package.toList t.uid)

/-- No tag of the text resolves to an identifier with a quote in it. -/
def QuoteFree (scope : Scope) (s : Settings) (package text : String) : Prop :=
  ∀ t ∈ Tag.all s.tagName.toList text.toList, ∀ uid,
    scope.judge package.toList t.uid = .resolved uid → '"' ∉ uid.toList

theorem quoteFree_iff (scope : Scope) (s : Settings) (package text : String) :
    scope.QuoteFree s package text ↔ ∀ t ∈ Tag.all s.tagName.toList text.toList,
      (scope.judge package.toList t.uid).quoteFree = true := by
  apply forall₂_congr
  intro t _
  cases scope.judge package.toList t.uid with
  | resolved uid => simp [Verdict.quoteFree]
  | unresolved => simp [Verdict.quoteFree]
  | malformed => simp [Verdict.quoteFree]

instance (scope : Scope) (s : Settings) (package text : String) :
    Decidable (scope.QuoteFree s package text) :=
  decidable_of_iff _ (quoteFree_iff scope s package text).symm

theorem toList_rewrite_text (scope : Scope) (s : Settings) (package text : String) :
    (scope.rewrite s package text).text.toList = Tag.ofPieces s.tagName.toList
      ((Tag.pieces s.tagName.toList text.toList).map (Tag.Piece.map (scope.settle s package))) := by
  simp only [rewrite, String.toList_ofList, Tag.ofPieces, List.flatMap_map]
  congr 1
  funext p
  cases p <;> rfl

/-- Reading a rewritten text gives the pieces of the text, each tag being the one written for it. -/
theorem pieces_rewrite {s : Settings} (htag : Settings.isName s.tagName = true)
    (hattribute : Settings.isName s.unresolvedAttribute = true) (scope : Scope)
    (package text : String) (hquote : scope.QuoteFree s package text) :
    Tag.pieces s.tagName.toList (scope.rewrite s package text).text.toList =
      (Tag.pieces s.tagName.toList text.toList).map (Tag.Piece.map (scope.settle s package)) := by
  rw [toList_rewrite_text]
  apply Tag.pieces_ofPieces_map
  · exact Settings.not_mem_of_isName htag (by decide)
  · intro t ht
    exact Tag.settle_isReadable hattribute (Tag.isReadable_of_mem_pieces ht)
      (hquote t (Tag.mem_all_iff.2 ht))

theorem all_rewrite {s : Settings} (htag : Settings.isName s.tagName = true)
    (hattribute : Settings.isName s.unresolvedAttribute = true) (scope : Scope)
    (package text : String) (hquote : scope.QuoteFree s package text) :
    Tag.all s.tagName.toList (scope.rewrite s package text).text.toList =
      (Tag.all s.tagName.toList text.toList).map (scope.settle s package) := by
  rw [Tag.all, pieces_rewrite htag hattribute scope package text hquote, Tag.filterMap_tag?_map]
  rfl

/-- Rewriting neither makes nor loses a tag: the rewritten text has the tags written for those of
    the text, with their labels, and the same texts around them. -/
theorem rewrite_keeps_tags {toml : String} {s : Settings} (hs : Settings.ofToml toml = .ok s)
    (scope : Scope) (package text : String) (hquote : scope.QuoteFree s package text) :
    let name := s.tagName.toList
    let output := (scope.rewrite s package text).text.toList
    Tag.all name output = (Tag.all name text.toList).map (scope.settle s package) ∧
      (Tag.all name output).map Tag.label = (Tag.all name text.toList).map Tag.label ∧
      Tag.around name output = Tag.around name text.toList := by
  obtain ⟨_, htag, hattribute⟩ := Settings.ofToml_eq_ok_iff.1 hs
  have hall := all_rewrite htag hattribute scope package text hquote
  refine ⟨hall, ?_, ?_⟩
  · rw [hall, List.map_map]
    apply List.map_congr_left
    intro t _
    exact Tag.settle_label s t _
  · rw [Tag.around, pieces_rewrite htag hattribute scope package text hquote, Tag.gaps_map]
    rfl

theorem rewrite_keeps_tags_between_openings :
    let s : Settings := { tagName := "xref" }
    let entity : Entity := { uid := "a.Foo", nameWithType := "Foo" }
    let scope := (Index.ofDocuments [{ id := "d", entities := [entity] }]).scope "d"
    let text := "a < b <xref uid=\"Foo\" k=\"1\">one</xref> \" > <xref uid=\"<xref uid=\"Nope\">two"
      ++ "</xref> <xref uid=\""
    let tags := Tag.all s.tagName.toList text.toList
    Settings.ofToml "tag_name = \"xref\"" = .ok s ∧ tags.length = 2 ∧
      Tag.all s.tagName.toList (scope.rewrite s "" text).text.toList =
        tags.map (scope.settle s "") := by
  intro s entity scope text tags
  have hs : Settings.ofToml "tag_name = \"xref\"" = .ok s :=
    Settings.ofToml_eq_ok_iff.2 (by decide +kernel)
  have hquote : scope.QuoteFree s "" text := by decide +kernel
  exact ⟨hs, by decide +kernel, (rewrite_keeps_tags hs scope "" text hquote).1⟩

end Scope

end Crosslink
