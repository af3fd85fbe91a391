import Crosslink.Proofs.Blanks
import Crosslink.Proofs.RewriteTags

set_option autoImplicit false

/-!
Texts that stay as they are. A text without links to symbols is its own normal form, and rewriting
leaves a text alone exactly when it leaves each tag alone. For a text that was rewritten before,
this comes down to what the first rewriting saw: a resolved target has to stand for itself now, and
taking the mark out of the attributes must not have made another one.
-/

namespace Crosslink

namespace Markdown

def Piece.toText : Piece → List Char
  | char c => [c]
  | link l => l.toText

theorem flatMap_toText_pieces (cs : List Char) : (pieces cs).flatMap Piece.toText = cs := by
  fun_induction pieces cs with
  | case1 cs l rest found _ ih =>
    rw [List.flatMap_cons, ih]
    exact (read?_eq_some found).symm
  | case2 => rfl
  | case3 c cs _ ih =>
    rw [List.flatMap_cons, ih]
    rfl

theorem Piece.normalize_eq_toText (s : Settings) {p : Piece} (h : p.isSymbol = false) :
    p.normalize s = p.toText := by
  cases p with
  | char c => rfl
  | link l =>
    rw [normalize, if_neg (by simpa [isSymbol] using h)]
    rfl

theorem normalize_eq_self (s : Settings) {text : String} (h : symbolLinks text = 0) :
    normalize s text = text := by
  have hpieces : (pieces text.toList).map (Piece.normalize s) =
      (pieces text.toList).map Piece.toText := by
    apply List.map_congr_left
    intro p hp
    apply Piece.normalize_eq_toText
    have hnone := List.countP_eq_zero.1 h p hp
    simpa using hnone
  rw [normalize, List.flatMap_def, hpieces, ← List.flatMap_def, flatMap_toText_pieces,
    String.ofList_toList]

end Markdown

namespace Scope

theorem judge_nil (scope : Scope) (package : List Char) :
    scope.judge package [] = .unresolved := rfl

theorem judge_eq_malformed_iff (scope : Scope) (package target : List Char) :
    scope.judge package target = .malformed ↔
      Text.trimBoth target ≠ [] ∧ Payload.ofText? (Text.trimBoth target) = none := by
  simp only [judge]
  split
  · rename_i hpayload
    simpa using hpayload
  · rename_i hpayload
    split <;> simpa using hpayload

theorem ne_nil_of_judge {scope : Scope} {package target : List Char} {uid : String}
    (h : scope.judge package target = .resolved uid) : uid.toList ≠ [] := by
  simp only [judge] at h
  split at h
  · cases h
  · split at h
    · cases h
    · rename_i hempty
      cases h
      simpa using hempty

end Scope

namespace Tag

theorem afterAttribute?_flag {s : Settings} (hs : Settings.isName s.unresolvedAttribute = true)
    (cs : List Char) : afterAttribute? s.unresolvedAttribute.toList (s.flag ++ cs) = some cs := by
  have hvalue : afterValue? s.unresolvedAttribute.toList
      (s.unresolvedAttribute.toList ++ "=\"false\"".toList ++ cs) = some cs := by
    have hsplit : s.unresolvedAttribute.toList ++ "=\"false\"".toList ++ cs =
        (s.unresolvedAttribute.toList ++ ['=', '"']) ++ ("false\"".toList ++ cs) := by
      simp
    rw [afterValue?, Text.dropStart?_eq_some_iff.2 hsplit]
    rfl
  have hnone : afterAttribute? s.unresolvedAttribute.toList
      (s.unresolvedAttribute.toList ++ "=\"false\"".toList ++ cs) = none := by
    cases hname : s.unresolvedAttribute.toList with
    | nil => simp [Settings.isName, hname] at hs
    | cons c key =>
      have hc : Text.isBlank c = false := by
        simp only [Settings.isName, hname, Bool.and_eq_true, List.all_cons] at hs
        exact Settings.isBlank_of_isNameChar hs.2.1
      simp [afterAttribute?, hc]
  have hflag : s.flag ++ cs =
      ' ' :: (s.unresolvedAttribute.toList ++ "=\"false\"".toList ++ cs) := rfl
  rw [hflag, afterAttribute?, if_pos (by decide), hnone, hvalue]
  rfl

theorem withoutAttribute_flag {s : Settings} (hs : Settings.isName s.unresolvedAttribute = true)
    (cs : List Char) : withoutAttribute s.unresolvedAttribute.toList (s.flag ++ cs) =
      withoutAttribute s.unresolvedAttribute.toList cs := by
  rw [withoutAttribute]
  split
  · rename_i rest found
    rw [afterAttribute?_flag hs] at found
    cases found
    rfl
  · rename_i found
    rw [afterAttribute?_flag hs] at found
    cases found

/-- The tag written for `t` in the first scope is written the same way in the second. A resolved
    target then stands for itself, and no mark is left to take out of the attributes. A target that
    is no payload is marked the second time, so that the attributes have to start with the mark. -/
def Stays (s : Settings) (first second : Scope) (package : String) (t : Tag) : Prop :=
  let key := s.unresolvedAttribute.toList
  let kept := withoutAttribute key t.attributes
  match first.judge package.toList t.uid with
  | .resolved uid =>
    (second.judge package.toList uid.toList = .resolved uid ∧ withoutAttribute key kept = kept) ∨
    (second.judge package.toList uid.toList = .malformed ∧
      s.flag ++ withoutAttribute key kept = kept)
  | _ => withoutAttribute key kept = kept

theorem settle_settle_iff {s : Settings} (hs : Settings.isName s.unresolvedAttribute = true)
    (first second : Scope) (package : String) (t : Tag) :
    second.settle s package (first.settle s package t) = first.settle s package t ↔
      t.Stays s first second package := by
  simp only [Scope.settle, Stays]
  cases hfirst : first.judge package.toList t.uid with
  | resolved uid =>
    simp only [settle]
    cases hsecond : second.judge package.toList uid.toList with
    | resolved again => simp [String.toList_inj]
    | unresolved =>
      have hne := Scope.ne_nil_of_judge hfirst
      simp [hne.symm]
    | malformed => simp
  | unresolved => simp [settle, Scope.judge_nil, withoutAttribute_flag hs]
  | malformed =>
    have hsecond : second.judge package.toList t.uid = .malformed := by
      rw [Scope.judge_eq_malformed_iff] at hfirst ⊢
      exact hfirst
    simp [settle, hsecond, withoutAttribute_flag hs]

theorem map_eq_self_iff (f : Tag → Tag) (ps : List Piece) :
    ps.map (Piece.map f) = ps ↔ ∀ t, .tag t ∈ ps → f t = t := by
  induction ps with
  | nil => simp
  | cons p ps ih =>
    rw [List.map_cons, List.cons.injEq, ih]
    cases p with
    | char c => simp [Piece.map]
    | tag t => simp [Piece.map]

end Tag

namespace Scope

/-- Rewriting leaves a text alone exactly when it leaves each of its tags alone. -/
theorem rewrite_eq_self_iff {s : Settings} (htag : Settings.isName s.tagName = true)
    (hattribute : Settings.isName s.unresolvedAttribute = true) (scope : Scope)
    (package text : String) (hquote : scope.QuoteFree s package text) :
    (scope.rewrite s package text).text = text ↔
      ∀ t ∈ Tag.all s.tagName.toList text.toList, scope.settle s package t = t := by
  simp only [Tag.mem_all_iff, ← Tag.map_eq_self_iff]
  constructor
  · intro h
    have hpieces := pieces_rewrite htag hattribute scope package text hquote
    rw [h] at hpieces
    exact hpieces.symm
  · intro h
    apply String.toList_injective
    rw [toList_rewrite_text, h, Tag.ofPieces_pieces]

theorem rewrite_rewrite_iff {s : Settings} (htag : Settings.isName s.tagName = true)
    (hattribute : Settings.isName s.unresolvedAttribute = true) (first second : Scope)
    (package text : String) (hfirst : first.QuoteFree s package text)
    (hsecond : second.QuoteFree s package (first.rewrite s package text).text) :
    (second.rewrite s package (first.rewrite s package text).text).text =
        (first.rewrite s package text).text ↔
      ∀ t ∈ Tag.all s.tagName.toList text.toList, t.Stays s first second package := by
  rw [rewrite_eq_self_iff htag hattribute second package _ hsecond,
    all_rewrite htag hattribute first package text hfirst, List.forall_mem_map]
  simp only [Tag.settle_settle_iff hattribute]

end Scope

end Crosslink
