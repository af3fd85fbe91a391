import Crosslink.Toml.Reader
import Crosslink.Toml.Writer
import Mathlib.Tactic.SplitIfs

set_option autoImplicit false

/-!
TOML strings, written and read back. A text is written character by character, and each character is
read back from what was written for it. In the notations over several lines, quotes that stand as
they are would be taken for the closing ones if there were three of them in a row; there are never
more than two.
-/

namespace Crosslink.Toml

theorem lineEnd_or_isTextChar {c : Char} (h : needsEscape c = false) :
    c = '\n' ∨ isTextChar c = true := by
  simp only [needsEscape, Bool.or_eq_false_iff, Bool.and_eq_false_iff, decide_eq_false_iff_not,
    Nat.not_lt, Decidable.not_not] at h
  simp only [isTextChar, Bool.or_eq_true, beq_iff_eq, Bool.and_eq_true, decide_eq_true_eq]
  obtain ⟨(h | h) | h, hdelete⟩ := h
  · exact .inr (.inr ⟨h, hdelete⟩)
  · exact .inr (.inl h)
  · exact .inl h

theorem isTextChar_of_not_needsEscape {c : Char} (h : needsEscape c = false) (hline : c ≠ '\n') :
    isTextChar c = true :=
  (lineEnd_or_isTextChar h).resolve_left hline

theorem ne_return {c : Char} (h : c = '\n' ∨ isTextChar c = true) : c ≠ '\r' := by
  rintro rfl
  exact absurd h (by decide)

theorem hexDigit?_upperHex : ∀ n < 16, hexDigit? (upperHex n) = some n := by
  decide

theorem codePoint?_upperHex {c : Char} (h : c.toNat < 256) :
    codePoint? ['0', '0', upperHex (c.toNat / 16), upperHex (c.toNat % 16)] = some c := by
  have hnumber := natOfHex?_pair (hexDigit?_upperHex (c.toNat / 16) (by omega))
    (hexDigit?_upperHex (c.toNat % 16) (by omega))
  have hvalid : c.toNat.isValidChar := c.valid
  rw [codePoint?, hnumber, Option.bind_some, charOfNat?, if_pos hvalid, Char.ofNat_toNat]

theorem escape?_cases (c : Char) :
    (∃ d, escape? c = some ['\\', d] ∧ escaped? d = some c) ∨
    (c.toNat < 256 ∧
      escape? c = some ['\\', 'u', '0', '0', upperHex (c.toNat / 16), upperHex (c.toNat % 16)]) ∨
    (escape? c = none ∧ c ≠ '\\' ∧ needsEscape c = false) := by
  unfold escape?
  split_ifs with hback htab hfeed hreturn hslash hescape
  · exact .inl ⟨'b', rfl, by rw [hback]; rfl⟩
  · exact .inl ⟨'t', rfl, by rw [htab]; rfl⟩
  · exact .inl ⟨'f', rfl, by rw [hfeed]; rfl⟩
  · exact .inl ⟨'r', rfl, by rw [hreturn]; rfl⟩
  · exact .inl ⟨'\\', rfl, by rw [hslash]; rfl⟩
  · refine .inr (.inl ⟨?_, rfl⟩)
    simp only [needsEscape, Bool.or_eq_true, Bool.and_eq_true, decide_eq_true_eq] at hescape
    omega
  · exact .inr (.inr ⟨rfl, hslash, by simpa using hescape⟩)

/-- What the two notations with escapes have in common: a reader behind the opening quotes takes
    characters as they are, letters of escapes and numbers of escapes. -/
structure ReadsEscapes (read : List Char → Option (List Char × List Char)) : Prop where
  char : ∀ c cs, c ≠ '"' → c ≠ '\\' → isTextChar c = true → read (c :: cs) = consChar c (read cs)
  letter : ∀ c d cs, escaped? d = some c → read ('\\' :: d :: cs) = consChar c (read cs)
  number : ∀ c x y z w cs, codePoint? [x, y, z, w] = some c →
    read ('\\' :: 'u' :: x :: y :: z :: w :: cs) = consChar c (read cs)

theorem ne_of_escaped? {c d : Char} (h : escaped? d = some c) {e : Char} (he : escaped? e = none) :
    d ≠ e := by
  rintro rfl
  rw [h] at he
  cases he

theorem readsEscapes_basicBody? : ReadsEscapes basicBody? where
  char := by
    intro c cs hquote hslash htext
    rw [basicBody?]
    · simp [hslash, htext]
    all_goals intros; contradiction
  letter := by
    intro c d cs h
    have hu := ne_of_escaped? h (show escaped? 'u' = none by decide)
    have hU := ne_of_escaped? h (show escaped? 'U' = none by decide)
    rw [basicBody?, h]
    · rfl
    all_goals intros; contradiction
  number := by
    intro c x y z w cs h
    rw [basicBody?, h]
    rfl

theorem endsLine_cons {c : Char} (hspace : isSpace c = false) (hline : c ≠ '\n')
    (hreturn : c ≠ '\r') (cs : List Char) : endsLine (c :: cs) = false := by
  rw [endsLine, skipSpaces, List.dropWhile_cons_of_neg (by simp [hspace]), afterLineEnd?]
  · rfl
  · rintro more ⟨⟩
    exact hline rfl
  · rintro more ⟨⟩
    exact hreturn rfl

theorem endsLine_of_escaped? {c d : Char} (h : escaped? d = some c) (cs : List Char) :
    endsLine (d :: cs) = false := by
  refine endsLine_cons ?_ (ne_of_escaped? h (by decide)) (ne_of_escaped? h (by decide)) cs
  simp only [isSpace, Bool.or_eq_false_iff, beq_eq_false_iff_ne]
  exact ⟨ne_of_escaped? h (by decide), ne_of_escaped? h (by decide)⟩

theorem linesBody?_char {c : Char} (hquote : c ≠ '"') (hslash : c ≠ '\\')
    (htext : c = '\n' ∨ isTextChar c = true) (cs : List Char) :
    linesBody? false (c :: cs) = consChar c (linesBody? false cs) := by
  have hreturn := ne_return htext
  rw [linesBody?]
  · simp [htext]
  all_goals intros; contradiction

theorem readsEscapes_linesBody? : ReadsEscapes (linesBody? false) where
  char := fun c cs hquote hslash htext => linesBody?_char hquote hslash (.inr htext) cs
  letter := by
    intro c d cs h
    have hu := ne_of_escaped? h (show escaped? 'u' = none by decide)
    have hU := ne_of_escaped? h (show escaped? 'U' = none by decide)
    rw [linesBody?, endsLine_of_escaped? h, h]
    · rfl
    all_goals intros; contradiction
  number := by
    intro c x y z w cs h
    rw [linesBody?, endsLine_cons (by decide) (by decide) (by decide), h]
    rfl

def writeChar (c : Char) : List Char := (escape? c).getD [c]

theorem ReadsEscapes.writeChar {read : List Char → Option (List Char × List Char)}
    (h : ReadsEscapes read) {c : Char} (hquote : c ≠ '"') (hline : c ≠ '\n') (cs : List Char) :
    read (writeChar c ++ cs) = consChar c (read cs) := by
  unfold Toml.writeChar
  rcases escape?_cases c with ⟨d, heq, hd⟩ | ⟨hsmall, heq⟩ | ⟨heq, hslash, hplain⟩
  · rw [heq]
    exact h.letter c d cs hd
  · rw [heq]
    exact h.number c _ _ _ _ cs (codePoint?_upperHex hsmall)
  · rw [heq]
    exact h.char c cs hquote hslash (isTextChar_of_not_needsEscape hplain hline)

theorem escapeText_cons {c : Char} (hquote : c ≠ '"') (hline : c ≠ '\n') (lines : Bool) (run : Nat)
    (cs : List Char) : escapeText lines run (c :: cs) = writeChar c ++ escapeText lines 0 cs := by
  rw [escapeText, if_neg hquote, if_neg hline, writeChar]
  cases escape? c <;> rfl

/-- A string on one line is read back up to its closing quote. -/
theorem basicBody?_escapeText (run : Nat) (cs rest : List Char) :
    basicBody? (escapeText false run cs ++ '"' :: rest) = some (cs, rest) := by
  have hreads := readsEscapes_basicBody?
  induction cs generalizing run with
  | nil => exact basicBody?.eq_2 rest
  | cons c cs ih =>
    by_cases hquote : c = '"'
    · rw [hquote, escapeText, if_pos rfl, if_neg (by simp), List.cons_append, List.cons_append,
        hreads.letter '"' '"' _ rfl, ih]
      rfl
    · by_cases hline : c = '\n'
      · rw [hline, escapeText, if_neg (by decide), if_pos rfl, if_neg Bool.false_ne_true,
          List.cons_append, List.cons_append, hreads.letter '\n' 'n' _ rfl, ih]
        rfl
      · rw [escapeText_cons hquote hline, List.append_assoc, hreads.writeChar hquote hline, ih]
        rfl

/-- What the two notations over several lines have in common: a reader behind the opening quotes `q`
    stops at three of them, up to two more belonging to the text, and takes fewer than three as they
    are. -/
structure ReadsQuotes (q : Char) (read : List Char → Option (List Char × List Char)) : Prop where
  five : ∀ cs, read (q :: q :: q :: q :: q :: cs) = some ([q, q], cs)
  four : ∀ cs, cs.head? ≠ some q → read (q :: q :: q :: q :: cs) = some ([q], cs)
  three : ∀ cs, cs.head? ≠ some q → read (q :: q :: q :: cs) = some ([], cs)
  quote : ∀ cs, (∀ more, cs ≠ q :: q :: more) → read (q :: cs) = consChar q (read cs)

theorem readsQuotes_linesBody? : ReadsQuotes '"' (linesBody? false) where
  five := fun cs => linesBody?.eq_4 false cs
  four := fun cs hcs => linesBody?.eq_5 false cs (by rintro more rfl; exact hcs rfl)
  three := fun cs hcs =>
    linesBody?.eq_6 false cs (by rintro more rfl; exact hcs rfl) (by rintro more rfl; exact hcs rfl)
  quote := by
    intro cs hcs
    rw [linesBody?]
    · simp [isTextChar]
    all_goals intros; simp_all

theorem readsQuotes_literalLinesBody? : ReadsQuotes '\x27' literalLinesBody? where
  five := fun cs => literalLinesBody?.eq_2 cs
  four := fun cs hcs => literalLinesBody?.eq_3 cs (by rintro more rfl; exact hcs rfl)
  three := fun cs hcs =>
    literalLinesBody?.eq_4 cs (by rintro more rfl; exact hcs rfl)
      (by rintro more rfl; exact hcs rfl)
  quote := by
    intro cs hcs
    rw [literalLinesBody?]
    · simp [isTextChar]
    all_goals intros; simp_all

/-- A text and what is written for it behind `run` quotes: quotes as they are, but never more than
    two in a row, and whatever is read back as some other character. -/
inductive Spells (q : Char) (read : List Char → Option (List Char × List Char)) :
    (run : Nat) → (written text : List Char) → Prop where
  | nil (run : Nat) : Spells q read run [] []
  | quote {run : Nat} {written text : List Char} (hrun : run < 2)
      (h : Spells q read (run + 1) written text) : Spells q read run (q :: written) (q :: text)
  | char {run : Nat} {c d : Char} {w written text : List Char} (hd : d ≠ q)
      (hread : ∀ cs, read (d :: w ++ cs) = consChar c (read cs))
      (h : Spells q read 0 written text) : Spells q read run (d :: w ++ written) (c :: text)

section

variable {q : Char} {read : List Char → Option (List Char × List Char)}

/-- Behind a quote, two more at the start of the rest are closing ones, or one of them is all that
    is left of the text. -/
theorem Spells.eq_of_two_quotes {run : Nat} {written text rest more : List Char}
    (h : Spells q read (run + 1) written text)
    (htwo : written ++ q :: q :: q :: rest = q :: q :: more) :
    (written = [] ∧ text = []) ∨ (written = [q] ∧ text = [q]) := by
  cases h with
  | nil => exact .inl ⟨rfl, rfl⟩
  | quote hrun h =>
    cases h with
    | nil => exact .inr ⟨rfl, rfl⟩
    | quote hrun => omega
    | char hd =>
      simp only [List.cons_append, List.cons.injEq] at htwo
      exact absurd htwo.2.1 hd
  | char hd =>
    simp only [List.cons_append, List.cons.injEq] at htwo
    exact absurd htwo.1 hd

/-- What is written for a text is read back up to the closing quotes. -/
theorem ReadsQuotes.spells (hread : ReadsQuotes q read) {run : Nat} {written text rest : List Char}
    (h : Spells q read run written text) (hrest : rest.head? ≠ some q) :
    read (written ++ q :: q :: q :: rest) = some (text, rest) := by
  induction h with
  | nil => exact hread.three rest hrest
  | @quote run written text hrun h ih =>
    by_cases hone : ∃ more, written ++ q :: q :: q :: rest = q :: q :: more
    · -- The reader meets the closing quotes together with those of the text.
      obtain ⟨more, htwo⟩ := hone
      rcases h.eq_of_two_quotes htwo with ⟨rfl, rfl⟩ | ⟨rfl, rfl⟩
      · exact hread.four rest hrest
      · exact hread.five rest
    · rw [List.cons_append, hread.quote _ fun more htwo => hone ⟨more, htwo⟩, ih]
      rfl
  | char _ hc _ ih =>
    rw [List.append_assoc, hc, ih]
    rfl

end

theorem exists_writeChar_eq_cons {c : Char} (hquote : c ≠ '"') (hline : c ≠ '\n') :
    ∃ d w, writeChar c = d :: w ∧ d ≠ '"' ∧ isTextChar d = true := by
  unfold writeChar
  rcases escape?_cases c with ⟨d, heq, -⟩ | ⟨-, heq⟩ | ⟨heq, -, hplain⟩
  · exact ⟨'\\', [d], by rw [heq]; rfl, by decide, by decide⟩
  · exact ⟨'\\', _, by rw [heq]; rfl, by decide, by decide⟩
  · exact ⟨c, [], by rw [heq]; rfl, hquote, isTextChar_of_not_needsEscape hplain hline⟩

theorem spells_escapeText (run : Nat) (cs : List Char) :
    Spells '"' (linesBody? false) run (escapeText true run cs) cs := by
  have hreads := readsEscapes_linesBody?
  induction cs generalizing run with
  | nil => exact .nil run
  | cons c cs ih =>
    by_cases hquote : c = '"'
    · rw [hquote, escapeText, if_pos rfl, if_pos rfl]
      split
      · rename_i hrun
        exact .quote hrun (ih (run + 1))
      · exact .char (w := ['"']) (by decide) (fun more => hreads.letter '"' '"' more rfl) (ih 0)
    · by_cases hline : c = '\n'
      · rw [hline, escapeText, if_neg (by decide), if_pos rfl, if_pos rfl]
        have hread := linesBody?_char (c := '\n') (by decide) (by decide) (.inl rfl)
        exact .char (w := []) (by decide) hread (ih 0)
      · obtain ⟨d, w, hwritten, hd, -⟩ := exists_writeChar_eq_cons hquote hline
        have hread (more : List Char) : linesBody? false (d :: w ++ more) =
            consChar c (linesBody? false more) := by
          rw [← hwritten]
          exact hreads.writeChar hquote hline more
        rw [escapeText_cons hquote hline, hwritten]
        exact .char hd hread (ih 0)

theorem literalLinesBody?_char {c : Char} (hquote : c ≠ '\x27')
    (htext : c = '\n' ∨ isTextChar c = true) (cs : List Char) :
    literalLinesBody? (c :: cs) = consChar c (literalLinesBody? cs) := by
  have hreturn := ne_return htext
  rw [literalLinesBody?]
  · simp [htext]
  all_goals intros; contradiction

theorem le_longestRun (c : Char) (run : Nat) (cs : List Char) : run ≤ longestRun c run cs := by
  induction cs generalizing run with
  | nil => exact Nat.le_refl run
  | cons d cs ih =>
    rw [longestRun]
    split
    · exact Nat.le_of_succ_le (ih (run + 1))
    · exact Nat.le_max_left run _

theorem spells_self {run : Nat} {cs : List Char} (hrun : longestRun '\x27' run cs ≤ 2)
    (hplain : ∀ c ∈ cs, needsEscape c = false) : Spells '\x27' literalLinesBody? run cs cs := by
  induction cs generalizing run with
  | nil => exact .nil run
  | cons c cs ih =>
    obtain ⟨hc, hplain⟩ := List.forall_mem_cons.1 hplain
    rw [longestRun] at hrun
    split at hrun
    · rename_i hquote
      have hle := le_longestRun '\x27' (run + 1) cs
      rw [hquote]
      exact .quote (by omega) (ih hrun hplain)
    · rename_i hquote
      have hread := literalLinesBody?_char hquote (lineEnd_or_isTextChar hc)
      exact .char (w := []) hquote hread (ih (by omega) hplain)

theorem literalBody?_append {cs : List Char}
    (h : ∀ c ∈ cs, c ≠ '\x27' ∧ isTextChar c = true) (rest : List Char) :
    literalBody? (cs ++ '\x27' :: rest) = some (cs, rest) := by
  induction cs with
  | nil => exact literalBody?.eq_2 rest
  | cons c cs ih =>
    obtain ⟨⟨hquote, htext⟩, hmore⟩ := List.forall_mem_cons.1 h
    rw [List.cons_append, literalBody?.eq_3 c _ hquote, if_pos htext, ih hmore]
    rfl

theorem string?_line {q : Char} {cs : List Char} (h : ∀ more, cs ≠ q :: q :: more) :
    string? (q :: cs) = lineString? (q :: cs) := by
  apply string?.eq_3
  · rintro more ⟨⟩
    exact h more rfl
  · rintro more ⟨⟩
    exact h more rfl

theorem dropFirstLineEnd_start {cs body : List Char}
    (h : '\n' ∉ cs → ∀ c ∈ body.head?, isTextChar c = true) :
    dropFirstLineEnd ((if cs.contains '\n' then ['\n'] else []) ++ body) = body := by
  by_cases hline : '\n' ∈ cs
  · rw [if_pos (List.contains_iff_mem.2 hline)]
    rfl
  · rw [if_neg (by simpa using hline), List.nil_append, dropFirstLineEnd, afterLineEnd?]
    · rfl
    · rintro more rfl
      exact absurd (h hline _ rfl) (by decide)
    · rintro more rfl
      exact absurd (h hline _ rfl) (by decide)

theorem ne_of_mem_head?_escapeText (cs : List Char) :
    ∀ c ∈ (escapeText false 0 cs).head?, c ≠ '"' := by
  cases cs with
  | nil => simp [escapeText]
  | cons c cs =>
    by_cases hquote : c = '"'
    · simp [escapeText, hquote]
    · by_cases hline : c = '\n'
      · simp [escapeText, hline]
      · obtain ⟨d, w, hwritten, hd, -⟩ := exists_writeChar_eq_cons hquote hline
        rw [escapeText_cons hquote hline, hwritten]
        rintro e ⟨⟩
        exact hd

theorem isTextChar_of_mem_head?_escapeText {cs : List Char} (hline : '\n' ∉ cs) :
    ∀ c ∈ (escapeText true 0 cs).head?, isTextChar c = true := by
  cases cs with
  | nil => simp [escapeText]
  | cons c cs =>
    rw [List.mem_cons, not_or] at hline
    by_cases hquote : c = '"'
    · simp [escapeText, hquote, isTextChar]
    · obtain ⟨d, w, hwritten, -, hd⟩ := exists_writeChar_eq_cons hquote (Ne.symm hline.1)
      rw [escapeText_cons hquote (Ne.symm hline.1), hwritten]
      rintro e ⟨⟩
      exact hd

theorem mem_head?_append {xs ys : List Char} {p : Char → Prop} (hxs : ∀ c ∈ xs.head?, p c)
    (hys : ∀ c ∈ ys.head?, p c) : ∀ c ∈ (xs ++ ys).head?, p c := by
  cases xs with
  | nil => exact hys
  | cons x xs => exact hxs

theorem string?_write_basic (cs rest : List Char) :
    string? (Quoting.basic.write cs ++ '\n' :: rest) = some (cs, '\n' :: rest) := by
  have hread := basicBody?_escapeText 0 cs ('\n' :: rest)
  have hwrite : Quoting.basic.write cs ++ '\n' :: rest =
      '"' :: (escapeText false 0 cs ++ '"' :: '\n' :: rest) := by
    simp [Quoting.write]
  rw [hwrite, string?_line]
  · exact hread
  · intro more htwo
    have hhead := ne_of_mem_head?_escapeText cs
    cases hwritten : escapeText false 0 cs with
    | nil => simp [hwritten] at htwo
    | cons c w =>
      rw [hwritten] at htwo hhead
      exact hhead c rfl (List.cons.inj htwo).1

theorem string?_write_literal {cs : List Char} (hne : cs ≠ [])
    (h : ∀ c ∈ cs, c ≠ '\x27' ∧ isTextChar c = true) (rest : List Char) :
    string? (Quoting.literal.write cs ++ '\n' :: rest) = some (cs, '\n' :: rest) := by
  have hread := literalBody?_append h ('\n' :: rest)
  obtain ⟨c, more, rfl⟩ := List.exists_cons_of_ne_nil hne
  have hwrite : Quoting.literal.write (c :: more) ++ '\n' :: rest =
      '\x27' :: c :: (more ++ '\x27' :: '\n' :: rest) := by
    simp [Quoting.write]
  rw [hwrite, string?_line]
  · exact hread
  · intro after htwo
    exact (h c List.mem_cons_self).1 (List.cons.inj htwo).1

theorem string?_write_basicLines (cs rest : List Char) :
    string? (Quoting.basicLines.write cs ++ '\n' :: rest) = some (cs, '\n' :: rest) := by
  have hread := readsQuotes_linesBody?.spells (spells_escapeText 0 cs)
    (show ('\n' :: rest).head? ≠ some '"' by simp)
  have hwrite : Quoting.basicLines.write cs ++ '\n' :: rest =
      '"' :: '"' :: '"' :: ((if cs.contains '\n' then ['\n'] else []) ++
        (escapeText true 0 cs ++ '"' :: '"' :: '"' :: '\n' :: rest)) := by
    simp [Quoting.write]
  rw [hwrite, string?, dropFirstLineEnd_start, hread]
  intro hline
  refine mem_head?_append (isTextChar_of_mem_head?_escapeText hline) ?_
  rintro c ⟨⟩
  decide

theorem string?_write_literalLines {cs : List Char} (hrun : longestRun '\x27' 0 cs ≤ 2)
    (hplain : ∀ c ∈ cs, needsEscape c = false) (rest : List Char) :
    string? (Quoting.literalLines.write cs ++ '\n' :: rest) = some (cs, '\n' :: rest) := by
  have hread := readsQuotes_literalLinesBody?.spells (spells_self hrun hplain)
    (show ('\n' :: rest).head? ≠ some '\x27' by simp)
  have hwrite : Quoting.literalLines.write cs ++ '\n' :: rest =
      '\x27' :: '\x27' :: '\x27' :: ((if cs.contains '\n' then ['\n'] else []) ++
        (cs ++ '\x27' :: '\x27' :: '\x27' :: '\n' :: rest)) := by
    simp [Quoting.write]
  rw [hwrite, string?, dropFirstLineEnd_start, hread]
  intro hline
  refine mem_head?_append (fun c hc => ?_) ?_
  · have hmem : c ∈ cs := List.mem_of_mem_head? hc
    exact isTextChar_of_not_needsEscape (hplain c hmem) fun heq => hline (heq ▸ hmem)
  · rintro c ⟨⟩
    decide

theorem not_mem_of_longestRun {c : Char} {cs : List Char} (h : longestRun c 0 cs = 0) : c ∉ cs := by
  induction cs with
  | nil => exact List.not_mem_nil
  | cons d cs ih =>
    have hle := le_longestRun c (0 + 1) cs
    rw [longestRun] at h
    split at h
    · omega
    · rename_i hne
      rw [List.mem_cons, not_or]
      exact ⟨Ne.symm hne, ih (by omega)⟩

/-- A string is read back from the notation it is written in. -/
theorem string?_writeString (s : String) (rest : List Char) :
    string? ((writeString s).toList ++ '\n' :: rest) = some (s.toList, '\n' :: rest) := by
  rw [writeString, String.toList_ofList]
  generalize s.toList = cs
  unfold Quoting.choose
  simp only
  split_ifs with hbasic hliteral hbasicLines hliteralLines hlines
  · exact string?_write_basic cs rest
  · simp only [Bool.and_eq_true, Bool.not_eq_true', decide_eq_true_eq, List.any_eq_false,
      Bool.not_eq_true, List.contains_eq_mem, decide_eq_false_iff_not] at hliteral
    obtain ⟨⟨hplain, hrun⟩, hline⟩ := hliteral
    have hquote := not_mem_of_longestRun hrun
    apply string?_write_literal
    · rintro rfl
      exact hbasic rfl
    · intro c hc
      have htext := isTextChar_of_not_needsEscape (hplain c hc) fun heq => hline (heq ▸ hc)
      exact ⟨fun heq => hquote (heq ▸ hc), htext⟩
  · exact string?_write_basicLines cs rest
  · simp only [Bool.and_eq_true, Bool.not_eq_true', decide_eq_true_eq, List.any_eq_false,
      Bool.not_eq_true] at hliteralLines
    exact string?_write_literalLines hliteralLines.2 hliteralLines.1 rest
  · exact string?_write_basicLines cs rest
  · exact string?_write_basic cs rest

end Crosslink.Toml
