import Crosslink.Proofs.TomlStrings
import Crosslink.Toml.Settings

set_option autoImplicit false

namespace Crosslink

namespace Toml

theorem Quoting.exists_write_eq_cons (n : Quoting) (cs : List Char) :
    ∃ q w, n.write cs = q :: w ∧ (q = '"' ∨ q = '\x27') := by
  cases n with
  | basic => exact ⟨'"', _, rfl, .inl rfl⟩
  | literal => exact ⟨'\x27', _, rfl, .inr rfl⟩
  | basicLines => exact ⟨'"', _, rfl, .inl rfl⟩
  | literalLines => exact ⟨'\x27', _, rfl, .inr rfl⟩

theorem value?_writeString (fuel depth : Nat) (s : String) (rest : List Char) :
    value? (fuel + 1) depth ((writeString s).toList ++ '\n' :: rest) =
      some (.string s, '\n' :: rest) := by
  have hread := string?_writeString s rest
  obtain ⟨q, w, hwritten, hq⟩ := (Quoting.choose s.toList).exists_write_eq_cons s.toList
  rw [writeString, String.toList_ofList, hwritten, List.cons_append] at hread ⊢
  rcases hq with rfl | rfl
  · rw [value?, hread]
    simp
  · rw [value?, hread]
    simp

theorem value?_writeFlag (fuel depth : Nat) (b : Bool) (rest : List Char) :
    value? (fuel + 1) depth ((writeFlag b).toList ++ '\n' :: rest) =
      some (.boolean b, '\n' :: rest) := by
  cases b <;> cases depth <;> rfl

theorem ne_of_isBareChar {c d : Char} (hc : isBareChar c = true) (hd : isBareChar d = false) :
    c ≠ d := by
  rintro rfl
  rw [hc] at hd
  cases hd

theorem isSpace_of_isBareChar {c : Char} (h : isBareChar c = true) : isSpace c = false := by
  simp [isSpace, ne_of_isBareChar h (show isBareChar ' ' = false by decide),
    ne_of_isBareChar h (show isBareChar '\t' = false by decide)]

theorem skipSpaces_of_head? {cs : List Char} (h : ∀ c ∈ cs.head?, isSpace c = false) :
    skipSpaces cs = cs := by
  cases cs with
  | nil => rfl
  | cons c cs => exact List.dropWhile_cons_of_neg (by simp [h c rfl])

/-- A line that gives a bare key its value: the value is read back from what is written for it. -/
structure Line where
  key : String
  written : List Char
  value : Value
  key_ne_nil : key.toList ≠ []
  isBareChar_key : ∀ c ∈ key.toList, isBareChar c = true
  isSpace_written : ∀ c ∈ written.head?, isSpace c = false
  value?_written : ∀ fuel depth rest,
    value? (fuel + 1) depth (written ++ '\n' :: rest) = some (value, '\n' :: rest)

namespace Line

variable (l : Line)

def text : List Char := l.key.toList ++ ' ' :: '=' :: ' ' :: (l.written ++ ['\n'])

def statement : Statement := .assign [] l.key l.value

theorem exists_text_eq_cons : ∃ c cs, l.text = c :: cs ∧ isBareChar c = true := by
  obtain ⟨c, cs, hkey⟩ := List.exists_cons_of_ne_nil l.key_ne_nil
  refine ⟨c, _, by rw [text, hkey, List.cons_append], l.isBareChar_key c ?_⟩
  rw [hkey]
  exact List.mem_cons_self

theorem simpleKey?_key (rest : List Char) :
    simpleKey? (l.key.toList ++ ' ' :: rest) = some (l.key, ' ' :: rest) := by
  have htake : (l.key.toList ++ ' ' :: rest).takeWhile isBareChar = l.key.toList := by
    rw [List.takeWhile_append_of_pos l.isBareChar_key, List.takeWhile_cons_of_neg (by decide),
      List.append_nil]
  have hdrop : (l.key.toList ++ ' ' :: rest).dropWhile isBareChar = ' ' :: rest := by
    rw [List.dropWhile_append_of_pos l.isBareChar_key, List.dropWhile_cons_of_neg (by decide)]
  rw [simpleKey?, htake, hdrop, if_neg (by simpa using l.key_ne_nil), String.ofList_toList]

theorem key?_key (fuel : Nat) (rest : List Char) :
    key? (fuel + 1) (l.key.toList ++ ' ' :: '=' :: rest) = some ([l.key], '=' :: rest) := by
  have hspaces : skipSpaces (l.key.toList ++ ' ' :: '=' :: rest) =
      l.key.toList ++ ' ' :: '=' :: rest := by
    obtain ⟨c, cs, hkey⟩ := List.exists_cons_of_ne_nil l.key_ne_nil
    rw [hkey]
    refine skipSpaces_of_head? ?_
    rintro d ⟨⟩
    exact isSpace_of_isBareChar (l.isBareChar_key c (by simp [hkey]))
  rw [key?, hspaces, simpleKey?_key]
  rfl

theorem assigned?_text (rest : List Char) :
    assigned? (l.text ++ rest) = some ([], l.key, l.written ++ '\n' :: rest) := by
  have hkey := l.key?_key 78 (' ' :: (l.written ++ '\n' :: rest))
  have htext : l.text ++ rest =
      l.key.toList ++ ' ' :: '=' :: ' ' :: (l.written ++ '\n' :: rest) := by
    simp [text]
  have hspaces : skipSpaces (' ' :: (l.written ++ '\n' :: rest)) = l.written ++ '\n' :: rest := by
    rw [skipSpaces, List.dropWhile_cons_of_pos (by decide)]
    refine skipSpaces_of_head? (mem_head?_append l.isSpace_written ?_)
    rintro c ⟨⟩
    decide
  rw [assigned?, htext, depthLimit, hkey]
  simp [hspaces]

theorem statement?_text (rest : List Char) :
    statement? (l.text ++ rest) = some (l.statement, '\n' :: rest) := by
  have hassigned := l.assigned?_text rest
  obtain ⟨c, cs, htext, hbare⟩ := l.exists_text_eq_cons
  rw [statement?, hassigned]
  · simp [l.value?_written, statement]
  · rw [htext]
    rintro more ⟨⟩
    exact absurd hbare (by decide)

end Line

theorem skipLines_bare {c : Char} (h : isBareChar c = true) (cs : List Char) :
    skipLines false (c :: cs) = c :: cs := by
  rw [skipLines.eq_6 c cs (ne_of_isBareChar h (by decide))
      (fun _ hc _ => ne_of_isBareChar h (by decide) hc) (ne_of_isBareChar h (by decide)),
    if_neg (by simp [isSpace_of_isBareChar h])]

theorem statements?_lines (lines : List Line) {fuel : Nat} (h : lines.length < fuel) :
    statements? fuel (lines.flatMap Line.text) = some (lines.map Line.statement) := by
  induction lines generalizing fuel with
  | nil =>
    obtain ⟨fuel, rfl⟩ := Nat.exists_eq_add_one_of_ne_zero (Nat.ne_zero_of_lt h)
    rfl
  | cons l lines ih =>
    obtain ⟨fuel, rfl⟩ := Nat.exists_eq_add_one_of_ne_zero (Nat.ne_zero_of_lt h)
    have hmore := ih (Nat.lt_of_succ_lt_succ h)
    have hstatement := l.statement?_text (lines.flatMap Line.text)
    obtain ⟨c, cs, htext, hbare⟩ := l.exists_text_eq_cons
    rw [htext, List.cons_append] at hstatement
    rw [List.flatMap_cons, htext, List.cons_append, statements?, skipLines_bare hbare]
    simp only [hstatement]
    change (statements? fuel (lines.flatMap Line.text)).map (l.statement :: ·) = _
    rw [hmore]
    rfl

theorem length_le_length_lines (lines : List Line) :
    lines.length ≤ (lines.flatMap Line.text).length := by
  induction lines with
  | nil => exact Nat.le_refl 0
  | cons l lines ih =>
    obtain ⟨c, cs, htext, -⟩ := l.exists_text_eq_cons
    rw [List.flatMap_cons, htext, List.length_append, List.length_cons, List.length_cons]
    omega

theorem dropMark_lines (lines : List Line) :
    dropMark (lines.flatMap Line.text) = lines.flatMap Line.text := by
  cases lines with
  | nil => rfl
  | cons l lines =>
    obtain ⟨c, cs, htext, hbare⟩ := l.exists_text_eq_cons
    rw [List.flatMap_cons, htext, List.cons_append, dropMark]
    rintro more ⟨⟩
    exact absurd hbare (by decide)

theorem read?_lines {text : String} {lines : List Line}
    (h : text.toList = lines.flatMap Line.text) :
    read? text = build [] [] (lines.map Line.statement) := by
  have hlength : lines.length < text.length + 1 := by
    rw [← String.length_toList, h]
    exact Nat.lt_succ_of_le (length_le_length_lines lines)
  rw [read?, h, dropMark_lines, statements?_lines lines hlength]
  rfl

def Line.ofString (key : String) (hne : key.toList ≠ [])
    (hkey : key.toList.all isBareChar = true) (s : String) : Line where
  key := key
  written := (writeString s).toList
  value := .string s
  key_ne_nil := hne
  isBareChar_key := List.all_eq_true.1 hkey
  isSpace_written := by
    obtain ⟨q, w, hwritten, hq⟩ := (Quoting.choose s.toList).exists_write_eq_cons s.toList
    rw [writeString, String.toList_ofList, hwritten]
    rintro c ⟨⟩
    rcases hq with rfl | rfl <;> decide
  value?_written := fun fuel depth => value?_writeString fuel depth s

def Line.ofFlag (key : String) (hne : key.toList ≠ [])
    (hkey : key.toList.all isBareChar = true) (b : Bool) : Line where
  key := key
  written := (writeFlag b).toList
  value := .boolean b
  key_ne_nil := hne
  isBareChar_key := List.all_eq_true.1 hkey
  isSpace_written := by
    have hhead : (writeFlag b).toList.head? = some (if b then 't' else 'f') := by
      cases b <;> decide +kernel
    rw [hhead]
    rintro c ⟨⟩
    cases b <;> decide
  value?_written := fun fuel depth => value?_writeFlag fuel depth b

end Toml

namespace Settings

open Toml

def lines (s : Settings) : List Line :=
  [.ofString "tag_name" (by decide +kernel) (by decide +kernel) s.tagName,
    .ofString "unresolved_attribute" (by decide +kernel) (by decide +kernel) s.unresolvedAttribute,
    .ofFlag "normalize_markdown_links" (by decide +kernel) (by decide +kernel)
      s.normalizeMarkdownLinks,
    .ofFlag "expand_generics" (by decide +kernel) (by decide +kernel) s.expandGenerics]

theorem toList_toToml (s : Settings) : s.toToml.toList = s.lines.flatMap Line.text := by
  have htag : "tag_name = ".toList = "tag_name".toList ++ [' ', '=', ' '] := by decide +kernel
  have hattribute : "unresolved_attribute = ".toList =
      "unresolved_attribute".toList ++ [' ', '=', ' '] := by decide +kernel
  have hlinks : "normalize_markdown_links = ".toList =
      "normalize_markdown_links".toList ++ [' ', '=', ' '] := by decide +kernel
  have hgenerics : "expand_generics = ".toList = "expand_generics".toList ++ [' ', '=', ' '] := by
    decide +kernel
  have hend : "\n".toList = ['\n'] := by decide +kernel
  generalize hlines : s.lines.flatMap Line.text = written
  simp only [lines, List.flatMap_cons, List.flatMap_nil, Line.text, Line.ofString, Line.ofFlag,
    List.append_assoc, List.cons_append, List.append_nil, List.nil_append] at hlines
  unfold toToml
  simp only [String.toList_append]
  rw [htag, hattribute, hlinks, hgenerics, hend, ← hlines]
  simp only [List.append_assoc, List.cons_append, List.nil_append]

theorem build_lines (s : Settings) :
    (build [] [] (s.lines.map Line.statement)).bind settings? = some s := by
  rfl

theorem read?_toToml (s : Settings) : (read? s.toToml).bind settings? = some s := by
  rw [read?_lines s.toList_toToml]
  exact s.build_lines

theorem ofToml_toToml (s : Settings) : ofToml s.toToml = s.checked := by
  rw [ofToml, read?_toToml]

def IsPlainName (name : String) : Prop :=
  name ≠ "" ∧ ∀ c ∈ name.toList, ('a' ≤ c ∧ c ≤ 'z') ∨ ('A' ≤ c ∧ c ≤ 'Z') ∨ ('0' ≤ c ∧ c ≤ '9') ∨
    c = '-' ∨ c = '_' ∨ c = ':'

theorem isName_iff (name : String) : isName name = true ↔ IsPlainName name := by
  have hchar (c : Char) : isNameChar c = true ↔ ('a' ≤ c ∧ c ≤ 'z') ∨ ('A' ≤ c ∧ c ≤ 'Z') ∨
      ('0' ≤ c ∧ c ≤ '9') ∨ c = '-' ∨ c = '_' ∨ c = ':' := by
    unfold isNameChar Char.isAlphanum Char.isAlpha Char.isUpper Char.isLower Char.isDigit
    simp only [Bool.or_eq_true, Bool.and_eq_true, decide_eq_true_eq, beq_iff_eq, Char.le_def]
    grind
  simp [isName, IsPlainName, hchar]

/-- Settings are stored without loss. Read back, they are the same if both names in them can be
    used, and else they are refused for the first name that cannot; no other settings come back. -/
theorem settings_stored_and_read (s : Settings) :
    (IsPlainName s.tagName ∧ IsPlainName s.unresolvedAttribute → ofToml s.toToml = .ok s) ∧
    (¬IsPlainName s.tagName →
      ofToml s.toToml =
        .error ⟨.config, "tag_name '" ++ s.tagName ++ "' is not a valid element name"⟩) ∧
    (IsPlainName s.tagName ∧ ¬IsPlainName s.unresolvedAttribute →
      ofToml s.toToml =
        .error ⟨.config, "unresolved_attribute '" ++ s.unresolvedAttribute ++
          "' is not a valid attribute name"⟩) ∧
    ∀ t, ofToml s.toToml = .ok t → t = s := by
  simp only [← isName_iff, ofToml_toToml, checked]
  refine ⟨?_, ?_, ?_, ?_⟩
  · rintro ⟨htag, hattribute⟩
    simp [htag, hattribute]
  · intro htag
    rw [if_pos (by simpa using htag)]
    rfl
  · rintro ⟨htag, hattribute⟩
    rw [if_neg (by simpa using htag), if_pos (by simpa using hattribute)]
    rfl
  · intro t ht
    split at ht
    · cases ht
    · split at ht
      · cases ht
      · exact (Except.ok.inj ht).symm

theorem settings_stored_and_read_with_quotes :
    let plain : Settings :=
      { tagName := "x:a", unresolvedAttribute := "_-9", expandGenerics := false }
    let quoted : Settings := { tagName := "\"\"\"\n'''\\" }
    IsPlainName plain.tagName ∧ IsPlainName plain.unresolvedAttribute ∧
      ofToml plain.toToml = .ok plain ∧ ¬IsPlainName quoted.tagName ∧
      ofToml quoted.toToml =
        .error ⟨.config, "tag_name '\"\"\"\n'''\\' is not a valid element name"⟩ := by
  intro plain quoted
  have htag : IsPlainName plain.tagName := (isName_iff _).1 (by decide +kernel)
  have hattribute : IsPlainName plain.unresolvedAttribute := (isName_iff _).1 (by decide +kernel)
  have hquoted : ¬IsPlainName quoted.tagName :=
    fun h => absurd ((isName_iff _).2 h) (by decide +kernel)
  have hread := (settings_stored_and_read plain).1 ⟨htag, hattribute⟩
  have hrefused := (settings_stored_and_read quoted).2.1 hquoted
  exact ⟨htag, hattribute, hread, hquoted, hrefused⟩

end Settings

end Crosslink
