import Crosslink.Bundle
import Crosslink.Proofs.StoredDocuments
import Mathlib.Tactic.SplitIfs

set_option autoImplicit false

/-!
Bundles in JSON, written and read back. A string is read character by character, each from what was
written for it; a tree is read with as much fuel as its text has characters, since every step of the
reader stands at the start of a shorter text. The documents then come back by the fields they have.
-/

namespace Crosslink

namespace Json

theorem hexDigit?_hexChar : ∀ n < 16, hexDigit? (hexChar n) = some n := by
  decide

theorem natOfHex?_hexChar {n : Nat} (h : n < 0x20) :
    natOfHex? ['0', '0', hexChar (n / 16), hexChar (n % 16)] = some n :=
  natOfHex?_pair (hexDigit?_hexChar _ (by omega)) (hexDigit?_hexChar _ (by omega))

theorem stringBody?_of_natOfHex?_eq_none {a b c d : Char} (h : natOfHex? [a, b, c, d] = none)
    (cs : List Char) : stringBody? ('\\' :: 'u' :: a :: b :: c :: d :: cs) = none := by
  by_cases hpair : ∃ e f g i rest, cs = '\\' :: 'u' :: e :: f :: g :: i :: rest
  · obtain ⟨e, f, g, i, rest, rfl⟩ := hpair
    rw [stringBody?, h]
  · rw [stringBody?, h]
    intro e f g i rest heq
    exact hpair ⟨e, f, g, i, rest, heq⟩

theorem stringBody?_unit {a b c d : Char} {n : Nat} (hn : natOfHex? [a, b, c, d] = some n)
    (hhigh : isHighSurrogate n = false) (hlow : isLowSurrogate n = false) (cs : List Char) :
    stringBody? ('\\' :: 'u' :: a :: b :: c :: d :: cs) =
      consText (some (Char.ofNat n)) (stringBody? cs) := by
  by_cases hpair : ∃ e f g i rest, cs = '\\' :: 'u' :: e :: f :: g :: i :: rest
  · obtain ⟨e, f, g, i, rest, rfl⟩ := hpair
    rw [stringBody?, hn]
    cases hnext : natOfHex? [e, f, g, i] with
    | none => rw [stringBody?_of_natOfHex?_eq_none hnext]; rfl
    | some low => simp [hhigh, hlow]
  · rw [stringBody?, hn]
    · simp [hhigh, hlow]
    · intro e f g i rest heq
      exact hpair ⟨e, f, g, i, rest, heq⟩

theorem stringBody?_escaped {c d : Char} (h : escaped? c = some d) (cs : List Char) :
    stringBody? ('\\' :: c :: cs) = consText (some d) (stringBody? cs) := by
  have hu : c ≠ 'u' := by
    rintro rfl
    cases h
  rw [stringBody?, h]
  · intros; contradiction
  · intros; contradiction

theorem stringBody?_char {c : Char} (hquote : c ≠ '"') (hslash : c ≠ '\\') (hc : ¬c.toNat < 0x20)
    (cs : List Char) : stringBody? (c :: cs) = consText (some c) (stringBody? cs) := by
  rw [stringBody?]
  · simp [hslash, hc]
  all_goals intros; contradiction

theorem stringChar_cases (c : Char) :
    (∃ d, stringChar c = ['\\', d] ∧ escaped? d = some c) ∨
    (c.toNat < 0x20 ∧
      stringChar c = ['\\', 'u', '0', '0', hexChar (c.toNat / 16), hexChar (c.toNat % 16)]) ∨
    (c ≠ '"' ∧ c ≠ '\\' ∧ ¬c.toNat < 0x20 ∧ stringChar c = [c]) := by
  unfold stringChar
  split_ifs with hquote hslash hback hfeed hline hreturn htab hcontrol
  · exact .inl ⟨'"', rfl, by rw [hquote]; rfl⟩
  · exact .inl ⟨'\\', rfl, by rw [hslash]; rfl⟩
  · exact .inl ⟨'b', rfl, by rw [hback]; rfl⟩
  · exact .inl ⟨'f', rfl, by rw [hfeed]; rfl⟩
  · exact .inl ⟨'n', rfl, by rw [hline]; rfl⟩
  · exact .inl ⟨'r', rfl, by rw [hreturn]; rfl⟩
  · exact .inl ⟨'t', rfl, by rw [htab]; rfl⟩
  · exact .inr (.inl ⟨hcontrol, rfl⟩)
  · exact .inr (.inr ⟨hquote, hslash, hcontrol, rfl⟩)

theorem stringBody?_stringChar (c : Char) (cs : List Char) :
    stringBody? (stringChar c ++ cs) = consText (some c) (stringBody? cs) := by
  rcases stringChar_cases c with ⟨d, heq, hd⟩ | ⟨hcontrol, heq⟩ | ⟨hquote, hslash, hc, heq⟩
  · rw [heq]
    exact stringBody?_escaped hd cs
  · rw [heq]
    have hhigh : isHighSurrogate c.toNat = false := by simp [isHighSurrogate]; omega
    have hlow : isLowSurrogate c.toNat = false := by simp [isLowSurrogate]; omega
    have hunit := stringBody?_unit (natOfHex?_hexChar hcontrol) hhigh hlow cs
    rwa [Char.ofNat_toNat] at hunit
  · rw [heq]
    exact stringBody?_char hquote hslash hc cs

theorem stringBody?_flatMap_stringChar (cs rest : List Char) :
    stringBody? (cs.flatMap stringChar ++ '"' :: rest) = some (some cs, rest) := by
  induction cs with
  | nil => simp [stringBody?]
  | cons c cs ih =>
    rw [List.flatMap_cons, List.append_assoc, stringBody?_stringChar, ih]
    rfl

mutual

def ofTree : Tree → Value
  | .text s => .string (some s)
  | .flag b => .bool b
  | .list items => .array (ofItems items)
  | .record fields => .object (ofFields fields)

def ofItems : List Tree → List Value
  | [] => []
  | item :: items => ofTree item :: ofItems items

def ofFields : List (String × Tree) → List (Option String × Value)
  | [] => []
  | (name, value) :: fields => (some name, ofTree value) :: ofFields fields

end

theorem skipBlanks_newLine (level : Nat) (cs : List Char) :
    skipBlanks (newLine level ++ cs) = skipBlanks cs := by
  apply List.dropWhile_append_of_pos
  intro c hc
  rcases List.mem_cons.1 hc with rfl | hc
  · rfl
  · rw [List.eq_of_mem_replicate hc]
    rfl

theorem skipBlanks_of_not_isBlank {c : Char} (h : isBlank c = false) (cs : List Char) :
    skipBlanks (c :: cs) = c :: cs := by
  simp [skipBlanks, h]

theorem exists_write_eq_cons (level : Nat) (t : Tree) :
    ∃ c cs, write level t = c :: cs ∧ isBlank c = false ∧ c ≠ ']' := by
  cases t with
  | text s => exact ⟨'"', _, rfl, rfl, by decide⟩
  | flag b =>
    cases b with
    | true => exact ⟨'t', _, rfl, rfl, by decide⟩
    | false => exact ⟨'f', _, rfl, rfl, by decide⟩
  | list items =>
    cases items with
    | nil => exact ⟨'[', _, rfl, rfl, by decide⟩
    | cons item items => exact ⟨'[', _, rfl, rfl, by decide⟩
  | record fields =>
    cases fields with
    | nil => exact ⟨'\x7b', _, rfl, rfl, by decide⟩
    | cons field fields => exact ⟨'\x7b', _, rfl, rfl, by decide⟩

theorem skipBlanks_write (level : Nat) (t : Tree) (rest : List Char) :
    skipBlanks (write level t ++ rest) = write level t ++ rest := by
  obtain ⟨c, cs, hwrite, hblank, _⟩ := exists_write_eq_cons level t
  rw [hwrite, List.cons_append, skipBlanks_of_not_isBlank hblank]

theorem exists_writeField_eq_cons (level : Nat) (field : String × Tree) :
    ∃ cs, writeField level field = '"' :: cs := by
  obtain ⟨name, value⟩ := field
  exact ⟨_, rfl⟩

theorem skipBlanks_writeField (level : Nat) (field : String × Tree) (rest : List Char) :
    skipBlanks (writeField level field ++ rest) = writeField level field ++ rest := by
  obtain ⟨cs, hwrite⟩ := exists_writeField_eq_cons level field
  rw [hwrite, List.cons_append, skipBlanks_of_not_isBlank (by rfl)]

/-- With this fuel, every tree whose text is no longer than it is read back. -/
def ReadsValues (fuel : Nat) : Prop :=
  ∀ (t : Tree) (level : Nat) (rest : List Char), (write level t).length ≤ fuel →
    value? fuel (write level t ++ rest) = some (ofTree t, rest)

def ReadsItems (fuel : Nat) : Prop :=
  ∀ (item : Tree) (items : List Tree) (level outer : Nat) (rest : List Char),
    (write level item ++ writeItems level items).length < fuel →
      items? fuel (write level item ++ (writeItems level items ++ (newLine outer ++ ']' :: rest))) =
        some (ofItems (item :: items), rest)

def ReadsFields (fuel : Nat) : Prop :=
  ∀ (field : String × Tree) (fields : List (String × Tree)) (level outer : Nat) (rest : List Char),
    (writeField level field ++ writeFields level fields).length < fuel →
      fields? fuel
          (writeField level field ++
            (writeFields level fields ++ (newLine outer ++ '\x7d' :: rest))) =
        some (ofFields (field :: fields), rest)

theorem readsValues_succ {fuel : Nat} (hitems : ReadsItems fuel) (hfields : ReadsFields fuel) :
    ReadsValues (fuel + 1) := by
  intro t level rest h
  cases t with
  | text s =>
    simp only [write, writeString, List.cons_append, List.append_assoc, List.nil_append, value?,
      stringBody?_flatMap_stringChar]
    simp [ofTree, stringText]
  | flag b =>
    cases b with
    | true => rfl
    | false => rfl
  | list items =>
    cases items with
    | nil => rfl
    | cons item items =>
      obtain ⟨c, cs, hwrite, hblank, hclose⟩ := exists_write_eq_cons (level + 1) item
      have hread := hitems item items (level + 1) level rest (by
        simp [write, newLine] at h ⊢
        omega)
      simp only [write, List.cons_append, List.append_assoc, List.nil_append, value?,
        skipBlanks_newLine, skipBlanks_write]
      split
      · rename_i heq
        rw [hwrite, List.cons_append, List.cons.injEq] at heq
        exact absurd heq.1 hclose
      · rw [hread]
        rfl
  | record fields =>
    cases fields with
    | nil => rfl
    | cons field fields =>
      have hread := hfields field fields (level + 1) level rest (by
        simp [write, newLine] at h ⊢
        omega)
      obtain ⟨cs, hwrite⟩ := exists_writeField_eq_cons (level + 1) field
      simp only [write, List.cons_append, List.append_assoc, List.nil_append, value?,
        skipBlanks_newLine, skipBlanks_writeField]
      split
      · rename_i heq
        rw [hwrite, List.cons_append, List.cons.injEq] at heq
        exact absurd heq.1 (by decide)
      · rw [hread]
        rfl

theorem readsItems_succ {fuel : Nat} (hvalues : ReadsValues fuel) (hitems : ReadsItems fuel) :
    ReadsItems (fuel + 1) := by
  intro item items level outer rest h
  rw [List.length_append] at h
  rw [items?, hvalues item level _ (by omega)]
  cases items with
  | nil =>
    simp only [writeItems, List.nil_append, skipBlanks_newLine]
    rfl
  | cons next items =>
    have hread := hitems next items level outer rest (by
      simp [writeItems, newLine] at h ⊢
      omega)
    simp only [writeItems, List.cons_append, List.append_assoc]
    rw [skipBlanks_of_not_isBlank (by rfl)]
    simp only [skipBlanks_newLine, skipBlanks_write, hread]
    rfl

theorem readsFields_succ {fuel : Nat} (hvalues : ReadsValues fuel) (hfields : ReadsFields fuel) :
    ReadsFields (fuel + 1) := by
  intro field fields level outer rest h
  obtain ⟨name, value⟩ := field
  have hvalue := hvalues value level (writeFields level fields ++ (newLine outer ++ '\x7d' :: rest))
    (by
      simp [writeField] at h
      omega)
  have hcolon (cs : List Char) : skipBlanks (':' :: ' ' :: cs) = ':' :: ' ' :: cs := rfl
  have hspace (cs : List Char) : skipBlanks (' ' :: cs) = skipBlanks cs := rfl
  simp only [writeField, writeString, List.cons_append, List.append_assoc, List.nil_append, fields?,
    stringBody?_flatMap_stringChar, hcolon, hspace, skipBlanks_write, hvalue]
  cases fields with
  | nil =>
    simp only [writeFields, List.nil_append, skipBlanks_newLine]
    simp [skipBlanks, isBlank, stringText, ofFields]
  | cons next fields =>
    have hread := hfields next fields level outer rest (by
      simp [writeField, writeFields, newLine] at h ⊢
      omega)
    simp only [writeFields, List.cons_append, List.append_assoc]
    rw [skipBlanks_of_not_isBlank (by rfl)]
    simp only [skipBlanks_newLine, skipBlanks_writeField, hread]
    simp [stringText, ofFields]

theorem reads (fuel : Nat) : ReadsValues fuel ∧ ReadsItems fuel ∧ ReadsFields fuel := by
  induction fuel with
  | zero =>
    refine ⟨?_, ?_, ?_⟩
    · intro t level rest h
      obtain ⟨c, cs, hwrite, _⟩ := exists_write_eq_cons level t
      simp [hwrite] at h
    · intro item items level outer rest h
      omega
    · intro field fields level outer rest h
      omega
  | succ fuel ih =>
    obtain ⟨hvalues, hitems, hfields⟩ := ih
    exact ⟨readsValues_succ hitems hfields, readsItems_succ hvalues hitems,
      readsFields_succ hvalues hfields⟩

/-- Reading gives back the tree that was written. -/
theorem read?_write (t : Tree) : read? (write 0 t) = some (ofTree t) := by
  have hstart : skipBlanks (write 0 t) = write 0 t := by
    simpa using skipBlanks_write 0 t []
  have hread := (reads (2 * (write 0 t).length + 2)).1 t 0 [] (by omega)
  rw [List.append_nil] at hread
  rw [read?, hstart, hread]
  rfl

theorem ofItems_eq_map (items : List Tree) : ofItems items = items.map ofTree := by
  induction items with
  | nil => rfl
  | cons item items ih => rw [ofItems, ih, List.map_cons]

theorem knownFields?_ofFields {names : List String} {fields : List (String × Tree)}
    (hnodup : (fields.map Prod.fst).Nodup) (hnames : ∀ name ∈ fields.map Prod.fst, name ∈ names) :
    knownFields? names (ofFields fields) = some (fields.map (Prod.map id ofTree)) := by
  induction fields with
  | nil => rfl
  | cons field fields ih =>
    obtain ⟨name, t⟩ := field
    rw [List.map_cons, List.nodup_cons] at hnodup
    rw [List.map_cons, List.forall_mem_cons] at hnames
    have hnew : (fields.map (Prod.map id ofTree)).lookup name = none := by
      rw [List.lookup_eq_none_iff]
      intro field hfield
      obtain ⟨found, hfound, rfl⟩ := List.mem_map.1 hfield
      have hne : name ≠ found.1 := by
        intro heq
        exact hnodup.1 (List.mem_map.2 ⟨found, hfound, heq.symm⟩)
      simpa using hne
    simp [ofFields, knownFields?, ih hnodup.2 hnames.2, hnames.1, hnew]

theorem lookup_map_ofTree (name : String) (fields : List (String × Tree)) :
    (fields.map (Prod.map id ofTree)).lookup name = (fields.lookup name).map ofTree := by
  induction fields with
  | nil => rfl
  | cons field fields ih =>
    obtain ⟨key, t⟩ := field
    rw [List.map_cons, Prod.map_apply, List.lookup_cons, List.lookup_cons, ih, id]
    cases name == key <;> rfl

theorem source_reads : source.Reads ofTree where
  text _ := rfl
  flag _ := rfl
  present t := by
    cases t <;> rfl
  items items := congrArg some (ofItems_eq_map items)
  fields names {t fields} ht hnodup horder := by
    subst ht
    have hnames : ∀ name ∈ fields.map Prod.fst, name ∈ names := fun name hname =>
      List.Sublist.subset horder hname
    exact ⟨_, knownFields?_ofFields (List.Sublist.nodup horder hnodup) hnames,
      fun name => lookup_map_ofTree name fields⟩
  choice {names word} hword := if_pos hword

end Json

/-- A bundle in JSON is read as the documents that were written. -/
theorem Format.json_parse_render (documents : List Document) :
    json.parse (json.render documents) = .ok documents := by
  have hread : Json.readBundle? (Json.writeBundle documents) = some documents := by
    rw [Json.readBundle?, Json.writeBundle, String.toList_ofList, Json.read?_write,
      Option.bind_some, Json.source_reads.bundle]
  rw [render, parse, hread]
  rfl

end Crosslink
