import Crosslink.Proofs.SignatureParts
import Crosslink.Proofs.Spellings

set_option autoImplicit false

namespace Crosslink

namespace Text

theorem intercalate_splitOn (sep : Char) (cs : List Char) :
    [sep].intercalate (splitOn sep cs) = cs := by
  induction cs with
  | nil => rfl
  | cons c cs ih =>
    obtain ⟨piece, pieces, hpieces⟩ := List.exists_cons_of_ne_nil (splitOn_ne_nil sep cs)
    rw [hpieces] at ih
    rw [splitOn, hpieces]
    simp only
    split
    · rename_i hsep
      rw [List.intercalate_cons_cons, ih, hsep]
      rfl
    · rw [List.intercalate_cons_cons_left, ih]

theorem of_mem_splitOn {sep : Char} {cs piece : List Char} (h : piece ∈ splitOn sep cs) :
    sep ∉ piece ∧ piece ⊆ cs := by
  induction cs generalizing piece with
  | nil =>
    rw [List.mem_singleton.1 h]
    exact ⟨List.not_mem_nil, List.Subset.refl []⟩
  | cons c cs ih =>
    obtain ⟨first, pieces, hpieces⟩ := List.exists_cons_of_ne_nil (splitOn_ne_nil sep cs)
    rw [hpieces] at ih
    rw [splitOn, hpieces] at h
    simp only at h
    split at h
    · rcases List.mem_cons.1 h with rfl | h
      · exact ⟨List.not_mem_nil, List.nil_subset _⟩
      · exact ⟨(ih h).1, List.subset_cons_of_subset c (ih h).2⟩
    · rename_i hsep
      rcases List.mem_cons.1 h with rfl | h
      · obtain ⟨hnot, hsubset⟩ := ih List.mem_cons_self
        exact ⟨by simp [Ne.symm hsep, hnot], List.cons_subset_cons c hsubset⟩
      · obtain ⟨hnot, hsubset⟩ := ih (List.mem_cons_of_mem first h)
        exact ⟨hnot, List.subset_cons_of_subset c hsubset⟩

theorem intercalate_append (sep : Char) (xs : List (List Char)) {ys : List (List Char)}
    (h : ys ≠ []) :
    [sep].intercalate (xs ++ ys) = xs.flatMap (· ++ [sep]) ++ [sep].intercalate ys := by
  induction xs with
  | nil => rfl
  | cons x xs ih =>
    obtain ⟨y, more, hmore⟩ := List.exists_cons_of_ne_nil (List.append_ne_nil_of_right_ne_nil xs h)
    rw [hmore] at ih
    rw [List.cons_append, hmore, List.intercalate_cons_cons, ih, List.flatMap_cons]
    simp only [List.append_assoc]

end Text

namespace Signature

/-- The path of an identifier: what stands before its first parenthesis and before any `<` there. -/
def path (cs : List Char) : List Char := (cs.takeWhile (· != '(')).takeWhile (· != '<')

def segments (cs : List Char) : List (List Char) := Text.splitOn '.' (path cs)

def startsUpper (segment : List Char) : Bool := segment.head?.any Text.isUppercase

/-- The leading segments that do not start in upper case, each with its dot. -/
def package (cs : List Char) : List Char :=
  ((segments cs).takeWhile (!startsUpper ·)).flatMap (· ++ ['.'])

theorem fromClass?_false_append {xs : List Char} (hdot : '.' ∉ xs) (hangle : '<' ∉ xs)
    (ys : List Char) : fromClass? false (xs ++ ys) = fromClass? false ys := by
  induction xs with
  | nil => rfl
  | cons x xs ih =>
    rw [List.mem_cons, not_or] at hdot hangle
    have hstate : (x == '.') = false := by simpa using Ne.symm hdot.1
    rw [List.cons_append, fromClass?, if_neg (by simp), if_neg (Ne.symm hangle.1), hstate,
      ih hdot.2 hangle.2]

theorem fromClass?_append {segment : List Char} (hdot : '.' ∉ segment) (hangle : '<' ∉ segment)
    {ys : List Char} (hys : ∀ c ∈ ys.head?, Text.isUppercase c = false) :
    fromClass? true (segment ++ ys) =
      if startsUpper segment then some (segment ++ ys) else fromClass? false ys := by
  cases segment with
  | nil =>
    cases ys with
    | nil => rfl
    | cons y ys => simp [fromClass?, startsUpper, hys y rfl]
  | cons c segment =>
    rw [List.mem_cons, not_or] at hdot hangle
    have hstate : (c == '.') = false := by simpa using Ne.symm hdot.1
    rw [List.cons_append, fromClass?, if_neg (Ne.symm hangle.1), hstate,
      fromClass?_false_append hdot.2 hangle.2]
    cases hupper : Text.isUppercase c <;> simp [startsUpper, hupper]

theorem fromClass?_intercalate {pieces : List (List Char)} (hne : pieces ≠ [])
    (h : ∀ piece ∈ pieces, '.' ∉ piece ∧ '<' ∉ piece) {generics : List Char}
    (hgenerics : ∀ c ∈ generics.head?, c = '<') :
    fromClass? true (['.'].intercalate pieces ++ generics) =
      if pieces.dropWhile (!startsUpper ·) = [] then none
      else some (['.'].intercalate (pieces.dropWhile (!startsUpper ·)) ++ generics) := by
  induction pieces with
  | nil => exact absurd rfl hne
  | cons piece pieces ih =>
    obtain ⟨⟨hdot, hangle⟩, hmore⟩ := List.forall_mem_cons.1 h
    cases pieces with
    | nil =>
      have hnone : fromClass? false generics = none := by
        cases generics with
        | nil => rfl
        | cons c generics => simp [fromClass?, hgenerics c rfl]
      have hlower : ∀ c ∈ generics.head?, Text.isUppercase c = false := by
        intro c hc
        rw [hgenerics c hc]
        decide +kernel
      rw [List.intercalate_singleton, fromClass?_append hdot hangle hlower, hnone]
      cases hupper : startsUpper piece <;> simp [hupper, List.intercalate_singleton]
    | cons second pieces =>
      have hlower : ∀ c ∈ ('.' :: (['.'].intercalate (second :: pieces) ++ generics)).head?,
          Text.isUppercase c = false := by
        rintro c ⟨⟩
        decide +kernel
      have hnext (rest : List Char) : fromClass? false ('.' :: rest) = fromClass? true rest := by
        simp [fromClass?]
      have hrest := ih (List.cons_ne_nil _ _) hmore
      have hjoined : ['.'].intercalate (piece :: second :: pieces) ++ generics =
          piece ++ '.' :: (['.'].intercalate (second :: pieces) ++ generics) := by
        simp [List.intercalate_cons_cons]
      rw [hjoined, fromClass?_append hdot hangle hlower, hnext, hrest]
      cases hupper : startsUpper piece with
      | false =>
        have hdrop := List.dropWhile_cons_of_pos (p := (!startsUpper ·)) (a := piece)
          (l := second :: pieces) (by simp [hupper])
        rw [hdrop]
        rfl
      | true =>
        have hdrop := List.dropWhile_cons_of_neg (p := (!startsUpper ·)) (a := piece)
          (l := second :: pieces) (by simp [hupper])
        rw [hdrop, if_neg (List.cons_ne_nil _ _), hjoined]
        rfl

theorem path_append {head : List Char} (h : '(' ∉ head) (body : List Char) :
    path (head ++ '(' :: body) = path head := by
  rw [path, path, List.takeWhile_append_of_pos (bne_of_not_mem h),
    List.takeWhile_eq_self_iff.2 (bne_of_not_mem h)]
  simp

/-- A head has no segment in upper case, or else its class starts with the first one. -/
theorem class_cases {head : List Char} (h : '(' ∉ head) :
    ((∀ segment ∈ segments head, startsUpper segment = false) ∧ fromClass? true head = none) ∨
    ∃ first more, (segments head).find? startsUpper = some first ∧
      head = package head ++ (first ++ more) ∧ fromClass? true head = some (first ++ more) := by
  have hpath : path head = head.takeWhile (· != '<') := by
    rw [path, List.takeWhile_eq_self_iff.2 (bne_of_not_mem h)]
  have hhead : ['.'].intercalate (segments head) ++ head.dropWhile (· != '<') = head := by
    rw [segments, Text.intercalate_splitOn, hpath, List.takeWhile_append_dropWhile]
  have hplain : ∀ piece ∈ segments head, '.' ∉ piece ∧ '<' ∉ piece := by
    intro piece hpiece
    obtain ⟨hdot, hsubset⟩ := Text.of_mem_splitOn hpiece
    refine ⟨hdot, fun hangle => ?_⟩
    have hin := hsubset hangle
    rw [hpath] at hin
    exact absurd (List.mem_takeWhile_imp hin) (by decide)
  have hgenerics : ∀ c ∈ (head.dropWhile (· != '<')).head?, c = '<' := by
    intro c hc
    have hstop := List.head?_dropWhile_not (· != '<') head
    rw [hc] at hstop
    simpa using hstop
  have hsegments : segments head ≠ [] := Text.splitOn_ne_nil '.' (path head)
  have hclass := fromClass?_intercalate hsegments hplain hgenerics
  rw [hhead] at hclass
  rcases hdrop : (segments head).dropWhile (!startsUpper ·) with _ | ⟨first, others⟩
  · rw [hdrop, if_pos rfl] at hclass
    refine .inl ⟨fun segment hsegment => ?_, hclass⟩
    simpa using List.dropWhile_eq_nil_iff.1 hdrop segment hsegment
  · rw [hdrop, if_neg (List.cons_ne_nil _ _)] at hclass
    have hparts : ['.'].intercalate (segments head) =
        package head ++ ['.'].intercalate (first :: others) := by
      rw [package, ← hdrop, ← Text.intercalate_append '.' _ (by simp [hdrop]),
        List.takeWhile_append_dropWhile]
    obtain ⟨more, hmore⟩ : ∃ more, ['.'].intercalate (first :: others) = first ++ more := by
      cases others with
      | nil => exact ⟨[], by simp [List.intercalate_singleton]⟩
      | cons second others => exact ⟨_, by rw [List.intercalate_cons_cons, List.append_assoc]⟩
    refine .inr ⟨first, more ++ head.dropWhile (· != '<'), ?_, ?_, ?_⟩
    · rw [List.find?_eq_head?_dropWhile_not, hdrop]
      rfl
    · conv => lhs; rw [← hhead, hparts, hmore]
      simp only [List.append_assoc]
    · rw [hclass, hmore, List.append_assoc]

theorem mapParameters_id_eq (body : List Char) :
    mapParameters id body = if toClose? 0 body = none then body ++ [')'] else body := by
  rw [mapParameters]
  cases hclose : toClose? 0 body with
  | none => rfl
  | some p => exact (toClose?_eq_some hclose).1.symm

/-- The package is looked for in the head; what follows the head is kept and closed. -/
theorem withoutPackage_eq (cs : List Char) :
    ∃ head after closing, '(' ∉ head ∧ cs = head ++ after ∧ path cs = path head ∧
      (Unclosed cs → closing = [')']) ∧ (¬Unclosed cs → closing = []) ∧
      withoutPackage cs =
        match fromClass? true head with
        | some rest => rest ++ after ++ closing
        | none => cs := by
  rcases exists_head cs with hplain | ⟨head, body, hhead, rfl⟩
  · refine ⟨cs, [], [], hplain, (List.append_nil cs).symm, rfl, ?_, fun _ => rfl, ?_⟩
    · exact fun hopen => absurd hopen (not_unclosed_of_not_mem hplain)
    · rw [withoutPackage_of_not_mem hplain]
      cases fromClass? true cs <;> simp
  · refine ⟨head, '(' :: body, if toClose? 0 body = none then [')'] else [], hhead, rfl,
      path_append hhead body, ?_, ?_, ?_⟩
    · rw [unclosed_iff hhead]
      exact fun hnone => if_pos hnone
    · rw [unclosed_iff hhead]
      exact fun hsome => if_neg hsome
    · rw [withoutPackage_append hhead, mapParameters_id_eq]
      cases fromClass? true head with
      | none => rfl
      | some rest =>
        simp only
        split <;> simp

/-- Without a segment in upper case nothing is dropped. Otherwise the package is, and the rest is
    kept from the first such segment on, with one more parenthesis if the first one stays open. -/
theorem package_dropped_exactly (cs : List Char) :
    ((∀ segment ∈ segments cs, startsUpper segment = false) → withoutPackage cs = cs) ∧
    ((∃ segment ∈ segments cs, startsUpper segment = true) →
      ∃ first more, (segments cs).find? startsUpper = some first ∧
        cs = package cs ++ (first ++ more) ∧
        (Unclosed cs → withoutPackage cs = first ++ more ++ [')']) ∧
        (¬Unclosed cs → withoutPackage cs = first ++ more)) := by
  obtain ⟨head, after, closing, hhead, hcs, hpath, hopen, hclosed, hkept⟩ := withoutPackage_eq cs
  have hsegments : segments cs = segments head := by rw [segments, hpath, segments]
  have hpackage : package cs = package head := by rw [package, hsegments, package]
  rw [hsegments, hpackage]
  rcases class_cases hhead with ⟨hlower, hnone⟩ | ⟨first, more, hfind, hparts, hsome⟩
  · rw [hnone] at hkept
    refine ⟨fun _ => hkept, ?_⟩
    rintro ⟨segment, hsegment, hupper⟩
    rw [hlower segment hsegment] at hupper
    cases hupper
  · rw [hsome] at hkept
    refine ⟨fun hlower => ?_, fun _ => ⟨first, more ++ after, hfind, ?_, ?_, ?_⟩⟩
    · have hupper := List.find?_some hfind
      rw [hlower first (List.mem_of_find?_eq_some hfind)] at hupper
      cases hupper
    · conv => lhs; rw [hcs, hparts]
      simp only [List.append_assoc]
    · intro hunclosed
      rw [hkept, hopen hunclosed]
      simp only [List.append_assoc]
    · intro hmatched
      rw [hkept, hclosed hmatched]
      simp only [List.append_assoc, List.append_nil]

theorem package_dropped_exactly_unclosed :
    let cs := "a..b.Map<x.Y>.f(z.W(".toList
    (∃ segment ∈ segments cs, startsUpper segment = true) ∧ package cs = "a..b.".toList ∧
      Unclosed cs ∧ withoutPackage cs = "Map<x.Y>.f(z.W()".toList := by
  intro cs
  have hupper : ∃ segment ∈ segments cs, startsUpper segment = true :=
    ⟨"Map".toList, by decide +kernel, by decide +kernel⟩
  have hpackage : package cs = "a..b.".toList := by decide +kernel
  have hcs : cs = "a..b.Map<x.Y>.f".toList ++ '(' :: "z.W(".toList := by decide +kernel
  have hopen : Unclosed cs := by
    rw [hcs, unclosed_iff (by decide +kernel)]
    decide +kernel
  obtain ⟨first, more, -, hparts, hkept, -⟩ := (package_dropped_exactly cs).2 hupper
  have hrest : first ++ more = "Map<x.Y>.f(z.W(".toList := by
    have hwhole : cs = "a..b.".toList ++ "Map<x.Y>.f(z.W(".toList := by decide +kernel
    rw [hpackage, hwhole] at hparts
    exact (List.append_cancel_left hparts).symm
  refine ⟨hupper, hpackage, hopen, ?_⟩
  rw [hkept hopen, hrest]
  decide +kernel

end Signature

end Crosslink
