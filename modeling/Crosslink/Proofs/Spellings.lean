import Crosslink.Proofs.CommaSpacing
import Crosslink.Proofs.Signatures
import Mathlib.Data.List.Basic

set_option autoImplicit false

namespace Crosslink

namespace Name

theorem isStart_of_not_isPart {c : Char} (h : isPart c = false) : isStart c = false := by
  cases hstart : isStart c with
  | false => rfl
  | true => rw [← h, isPart_of_isStart hstart]

theorem spanRest_part {c : Char} (h : isPart c = true) (cs : List Char) :
    spanRest (c :: cs) = (c :: (spanRest cs).1, (spanRest cs).2) := by
  have hdot : c ≠ '.' := by
    rintro rfl
    exact absurd h (by decide +kernel)
  rw [spanRest.eq_3 c cs fun _ _ hc _ => hdot hc, if_pos h]

theorem spanRest_other {c : Char} (h : isPart c = false) (hdot : c ≠ '.') (cs : List Char) :
    spanRest (c :: cs) = ([], c :: cs) := by
  rw [spanRest.eq_3 c cs fun _ _ hc _ => hdot hc, if_neg (by simp [h])]

theorem spanRest_append_cons {c : Char} (hpart : isPart c = false) (hdot : c ≠ '.')
    (xs ys : List Char) :
    spanRest (xs ++ c :: ys) = ((spanRest xs).1, (spanRest xs).2 ++ c :: ys) := by
  fun_induction spanRest xs with
  | case1 => exact spanRest_other hpart hdot ys
  | case2 d xs hd ih => simp [spanRest, hd, ih]
  | case3 d xs hd => simp [spanRest, hd]
  | case4 d xs hother hd ih => rw [List.cons_append, spanRest_part hd, ih]
  | case5 d xs hother hd =>
    by_cases hlast : d = '.'
    · cases xs with
      | nil => simp [hlast, spanRest, isStart_of_not_isPart hpart]
      | cons e xs => exact absurd rfl (hother e xs hlast)
    · exact spanRest_other (by simpa using hd) hlast (xs ++ c :: ys)

theorem mem_spanRest {c : Char} {cs : List Char} (h : c ∈ (spanRest cs).1) :
    isPart c = true ∨ c = '.' := by
  fun_induction spanRest cs with
  | case1 => cases h
  | case2 d cs hd ih =>
    rcases List.mem_cons.1 h with rfl | h
    · exact .inr rfl
    · rcases List.mem_cons.1 h with rfl | h
      · exact .inl (isPart_of_isStart hd)
      · exact ih h
  | case3 d cs hd => cases h
  | case4 d cs hother hd ih =>
    rcases List.mem_cons.1 h with rfl | h
    · exact .inl hd
    · exact ih h
  | case5 d cs hother hd => cases h

def KeepsEnd (f : List Char → List Char) : Prop :=
  ∀ name, (∀ c ∈ name, isPart c = true ∨ c = '.') → name ≠ [] → f name ≠ [] ∧ f name <:+ name

section

variable {f : List Char → List Char}

theorem mapDotted_start {c : Char} (h : isStart c = true) (cs : List Char) :
    mapDotted f (c :: cs) = f (c :: (spanRest cs).1) ++ mapDotted f (spanRest cs).2 := by
  rw [mapDotted, if_pos h]

theorem mapDotted_other {c : Char} (h : isStart c = false) (cs : List Char) :
    mapDotted f (c :: cs) = c :: mapDotted f cs := by
  rw [mapDotted, if_neg (by simp [h])]

theorem mapDotted_nil : mapDotted f [] = [] := by
  rw [mapDotted]

theorem mapDotted_append {c : Char} (hpart : isPart c = false) (hdot : c ≠ '.')
    (xs ys : List Char) :
    mapDotted f (xs ++ c :: ys) = mapDotted f xs ++ c :: mapDotted f ys := by
  induction xs using mapDotted.induct with
  | case1 => rw [List.nil_append, mapDotted_other (isStart_of_not_isPart hpart), mapDotted_nil]; rfl
  | case2 d xs hd ih =>
    rw [List.cons_append, mapDotted_start hd, mapDotted_start hd, spanRest_append_cons hpart hdot,
      ih, List.append_assoc]
  | case3 d xs hd ih =>
    have hd' : isStart d = false := by simpa using hd
    rw [List.cons_append, mapDotted_other hd', mapDotted_other hd', ih, List.cons_append]

theorem isPart_or_dot_of_mem_name {c d : Char} {cs : List Char} (hc : isStart c = true)
    (h : d ∈ c :: (spanRest cs).1) : isPart d = true ∨ d = '.' := by
  rcases List.mem_cons.1 h with rfl | h
  · exact .inl (isPart_of_isStart hc)
  · exact mem_spanRest h

theorem KeepsEnd.name (hf : KeepsEnd f) {c : Char} (hc : isStart c = true) (cs : List Char) :
    f (c :: (spanRest cs).1) ≠ [] ∧ f (c :: (spanRest cs).1) <:+ c :: (spanRest cs).1 :=
  hf _ (fun _ => isPart_or_dot_of_mem_name hc) (List.cons_ne_nil _ _)

theorem mem_of_mem_mapDotted (hf : KeepsEnd f) {c : Char} {cs : List Char}
    (h : c ∈ mapDotted f cs) : c ∈ cs := by
  induction cs using mapDotted.induct with
  | case1 =>
    rw [mapDotted_nil] at h
    cases h
  | case2 d cs hd ih =>
    rw [mapDotted_start hd] at h
    rw [← spanRest_append cs, ← List.cons_append, List.mem_append]
    rcases List.mem_append.1 h with h | h
    · exact .inl ((hf.name hd cs).2.subset h)
    · exact .inr (ih h)
  | case3 d cs hd ih =>
    rw [mapDotted_other (by simpa using hd)] at h
    rcases List.mem_cons.1 h with rfl | h
    · exact List.mem_cons_self
    · exact List.mem_cons_of_mem d (ih h)

theorem getLast?_mapDotted (hf : KeepsEnd f) (cs : List Char) :
    (mapDotted f cs).getLast? = cs.getLast? := by
  induction cs using mapDotted.induct with
  | case1 => rw [mapDotted_nil]
  | case2 d cs hd ih =>
    obtain ⟨hne, before, hend⟩ := hf.name hd cs
    have hlast := List.getLast?_append_of_ne_nil before hne
    rw [hend] at hlast
    rw [mapDotted_start hd, List.getLast?_append, ih, ← hlast, ← List.getLast?_append,
      List.cons_append, spanRest_append]
  | case3 d cs hd ih =>
    rw [mapDotted_other (by simpa using hd), List.getLast?_cons, ih, ← List.getLast?_cons]

theorem isPart_of_isBlank {c : Char} (h : Text.isBlank c = true) : isPart c = false := by
  cases hpart : isPart c with
  | false => rfl
  | true => rw [← h, isBlank_of_isPart hpart]

theorem mapDotted_blanks {blanks : List Char} (h : ∀ c ∈ blanks, Text.isBlank c = true) :
    mapDotted f blanks = blanks := by
  induction blanks with
  | nil => rw [mapDotted_nil]
  | cons c blanks ih =>
    obtain ⟨hc, hblanks⟩ := List.forall_mem_cons.1 h
    rw [mapDotted_other (isStart_of_not_isPart (isPart_of_isBlank hc)), ih hblanks]

theorem mapDotted_append_blanks {blanks : List Char} (h : ∀ c ∈ blanks, Text.isBlank c = true)
    (cs : List Char) : mapDotted f (cs ++ blanks) = mapDotted f cs ++ blanks := by
  cases blanks with
  | nil => simp
  | cons c blanks =>
    obtain ⟨hc, hblanks⟩ := List.forall_mem_cons.1 h
    rw [mapDotted_append (isPart_of_isBlank hc) (Text.ne_of_isBlank hc (by decide)),
      mapDotted_blanks hblanks]

theorem mapDotted_trimEnd (hf : KeepsEnd f) (cs : List Char) :
    mapDotted f (Text.trimEnd cs) = Text.trimEnd (mapDotted f cs) := by
  obtain ⟨blanks, hblanks, hcs⟩ := Text.exists_trimEnd cs
  conv => rhs; rw [hcs, mapDotted_append_blanks hblanks, Text.trimEnd_append_blanks hblanks]
  have hlast := getLast?_mapDotted hf (Text.trimEnd cs)
  rcases List.eq_nil_or_concat (mapDotted f (Text.trimEnd cs)) with hnil | ⟨most, last, hmost⟩
  · rw [hnil]
    rfl
  · rw [List.concat_eq_append] at hmost
    rw [hmost, List.getLast?_concat, eq_comm, List.getLast?_eq_some_iff] at hlast
    obtain ⟨before, hbefore⟩ := hlast
    rw [hmost, Text.trimEnd_concat (Text.isBlank_getLast_trimEnd hbefore)]

theorem isBlank_of_isPart_or_dot {c : Char} (h : isPart c = true ∨ c = '.') :
    Text.isBlank c = false := by
  rcases h with h | rfl
  · exact isBlank_of_isPart h
  · decide

theorem mapDotted_trimStart (hf : KeepsEnd f) (cs : List Char) :
    mapDotted f (Text.trimStart cs) = Text.trimStart (mapDotted f cs) := by
  induction cs with
  | nil => rw [mapDotted_nil]; exact mapDotted_nil
  | cons c cs ih =>
    by_cases hblank : Text.isBlank c = true
    · rw [mapDotted_other (isStart_of_not_isPart (isPart_of_isBlank hblank)), Text.trimStart,
        Text.trimStart, List.dropWhile_cons_of_pos hblank, List.dropWhile_cons_of_pos hblank]
      exact ih
    · rw [Text.trimStart, List.dropWhile_cons_of_neg hblank]
      by_cases hstart : isStart c = true
      · obtain ⟨hne, hend⟩ := hf.name hstart cs
        obtain ⟨d, more, hmore⟩ := List.exists_cons_of_ne_nil hne
        have hd : d ∈ c :: (spanRest cs).1 := hend.subset (by simp [hmore])
        have hkept := isBlank_of_isPart_or_dot (isPart_or_dot_of_mem_name hstart hd)
        rw [mapDotted_start hstart, hmore, List.cons_append, Text.trimStart,
          List.dropWhile_cons_of_neg (by simp [hkept])]
      · rw [mapDotted_other (by simpa using hstart), Text.trimStart,
          List.dropWhile_cons_of_neg hblank]

end

end Name

namespace Signature

theorem suffix_of_fromClass? {atSegment : Bool} {cs rest : List Char}
    (h : fromClass? atSegment cs = some rest) : rest ≠ [] ∧ rest <:+ cs := by
  induction cs generalizing atSegment with
  | nil => cases h
  | cons c cs ih =>
    rw [fromClass?] at h
    split at h
    · cases h
      exact ⟨List.cons_ne_nil c cs, List.suffix_refl _⟩
    · split at h
      · cases h
      · obtain ⟨hne, hend⟩ := ih h
        exact ⟨hne, hend.trans (List.suffix_cons c cs)⟩

theorem keepsEnd_withoutPackage : Name.KeepsEnd withoutPackage := by
  intro name hname hne
  have hparen : '(' ∉ name := by
    intro hmem
    rcases hname _ hmem with hpart | hdot
    · exact absurd hpart (by decide +kernel)
    · exact absurd hdot (by decide)
  rw [withoutPackage_of_not_mem hparen]
  cases hclass : fromClass? true name with
  | none => exact ⟨hne, List.suffix_refl _⟩
  | some rest => exact suffix_of_fromClass? hclass

theorem keepsParens_mapDotted : KeepsParens (Name.mapDotted withoutPackage) where
  nil := Name.mapDotted_nil
  divides := by
    rintro c (rfl | rfl) xs ys
    · exact Name.mapDotted_append (by decide +kernel) (by decide) xs ys
    · exact Name.mapDotted_append (by decide +kernel) (by decide) xs ys
  mem _ _ _ := Name.mem_of_mem_mapDotted keepsEnd_withoutPackage

theorem keepsParens_spacedCommas : KeepsParens spacedCommas where
  nil := withCommas_nil
  divides := by
    rintro c (rfl | rfl) xs ys
    · exact withCommas_append (by decide) (by decide) xs ys
    · exact withCommas_append (by decide) (by decide) xs ys
  mem := by
    rintro c (rfl | rfl) xs h
    · exact mem_of_mem_withCommas (by decide) h
    · exact mem_of_mem_withCommas (by decide) h

theorem spacedCommas_comma {first : List Char} (h : ',' ∉ first) (ys : List Char) :
    spacedCommas (first ++ ',' :: ys) =
      Text.trimEnd first ++ ',' :: ' ' :: spacedCommas (Text.trimStart ys) :=
  withCommas_comma h ys

theorem mapDotted_spacedCommas (cs : List Char) :
    Name.mapDotted withoutPackage (spacedCommas cs) =
      spacedCommas (Name.mapDotted withoutPackage cs) := by
  have hfirst {xs : List Char} (h : ',' ∉ xs) : ',' ∉ Name.mapDotted withoutPackage xs :=
    fun hmem => h (Name.mem_of_mem_mapDotted keepsEnd_withoutPackage hmem)
  induction cs using comma_induction with
  | plain cs hcs =>
    rw [spacedCommas, withCommas_of_not_mem hcs, spacedCommas, withCommas_of_not_mem (hfirst hcs)]
  | comma first ys hcomma ih =>
    have hspace : Name.mapDotted withoutPackage (' ' :: spacedCommas (Text.trimStart ys)) =
        ' ' :: Name.mapDotted withoutPackage (spacedCommas (Text.trimStart ys)) :=
      Name.mapDotted_other (by decide +kernel) _
    rw [spacedCommas_comma hcomma, Name.mapDotted_append (by decide +kernel) (by decide), hspace,
      ih, Name.mapDotted_append (by decide +kernel) (by decide), spacedCommas_comma (hfirst hcomma),
      Name.mapDotted_trimEnd keepsEnd_withoutPackage,
      Name.mapDotted_trimStart keepsEnd_withoutPackage]

theorem fromClass?_append_cons {c : Char} (hupper : Text.isUppercase c = false) (hangle : c ≠ '<')
    (hdot : c ≠ '.') (atSegment : Bool) (xs ys : List Char) :
    fromClass? atSegment (xs ++ c :: ys) =
      ((fromClass? atSegment xs).map (· ++ c :: ys)).or
        (if '<' ∈ xs then none else fromClass? false ys) := by
  have hstate : (c == '.') = false := by simpa using hdot
  induction xs generalizing atSegment with
  | nil => simp [fromClass?, hupper, hangle, hstate]
  | cons x xs ih =>
    rw [List.cons_append, fromClass?, fromClass?, ih]
    split
    · rfl
    · split
      · rename_i hx
        simp [hx]
      · rename_i hx
        simp [Ne.symm hx]

theorem isUppercase_of_isBlank {c : Char} (h : Text.isBlank c = true) :
    Text.isUppercase c = false := by
  cases hupper : Text.isUppercase c with
  | false => rfl
  | true => rw [← h, Text.isBlank_eq_false (by decide +kernel) hupper]

theorem fromClass?_blank {c : Char} (h : Text.isBlank c = true) (atSegment : Bool)
    (xs ys : List Char) :
    fromClass? atSegment (xs ++ c :: ys) =
      ((fromClass? atSegment xs).map (· ++ c :: ys)).or
        (if '<' ∈ xs then none else fromClass? false ys) :=
  fromClass?_append_cons (isUppercase_of_isBlank h) (Text.ne_of_isBlank h (by decide))
    (Text.ne_of_isBlank h (by decide)) atSegment xs ys

theorem fromClass?_trimStart (cs : List Char) :
    fromClass? false (Text.trimStart cs) = fromClass? false cs := by
  induction cs with
  | nil => rfl
  | cons c cs ih =>
    by_cases hblank : Text.isBlank c = true
    · have hskip := fromClass?_blank hblank false [] cs
      rw [Text.trimStart, List.dropWhile_cons_of_pos hblank]
      rw [Text.trimStart] at ih
      simpa [fromClass?, ih] using hskip.symm
    · rw [Text.trimStart, List.dropWhile_cons_of_neg hblank]

theorem fromClass?_append_blanks {blanks : List Char} (h : ∀ c ∈ blanks, Text.isBlank c = true)
    (atSegment : Bool) (cs : List Char) :
    fromClass? atSegment (cs ++ blanks) = (fromClass? atSegment cs).map (· ++ blanks) := by
  cases blanks with
  | nil => simp
  | cons c blanks =>
    obtain ⟨hc, hblanks⟩ := List.forall_mem_cons.1 h
    have hnone : fromClass? false blanks = none := by
      rw [← fromClass?_trimStart, Text.trimStart, List.dropWhile_eq_nil_iff.2 hblanks]
      rfl
    rw [fromClass?_blank hc, hnone, ite_self, Option.or_none]

/-- Blanks and commas start no segment in upper case, so that respacing commas keeps the first one
    that does. -/
theorem fromClass?_spacedCommas (atSegment : Bool) (cs : List Char) :
    fromClass? atSegment (spacedCommas cs) = (fromClass? atSegment cs).map spacedCommas := by
  induction cs using comma_induction generalizing atSegment with
  | plain cs hcs =>
    rw [spacedCommas, withCommas_of_not_mem hcs]
    cases hclass : fromClass? atSegment cs with
    | none => rfl
    | some rest =>
      have hrest : ',' ∉ rest := fun h => hcs ((suffix_of_fromClass? hclass).2.subset h)
      rw [Option.map_some, spacedCommas, withCommas_of_not_mem hrest]
  | comma first ys hfirst ih =>
    obtain ⟨blanks, hblanks, hkept⟩ := Text.exists_trimEnd first
    have hclass : fromClass? atSegment first =
        (fromClass? atSegment (Text.trimEnd first)).map (· ++ blanks) := by
      conv => lhs; rw [hkept]
      exact fromClass?_append_blanks hblanks atSegment _
    have hangle : '<' ∈ Text.trimEnd first ↔ '<' ∈ first :=
      ⟨Text.mem_of_mem_trimEnd, Text.mem_trimEnd (by decide)⟩
    have hbehind : fromClass? false (' ' :: spacedCommas (Text.trimStart ys)) =
        (fromClass? false ys).map spacedCommas := by
      have hspace :=
        fromClass?_blank (c := ' ') (by decide) false [] (spacedCommas (Text.trimStart ys))
      rw [ih, fromClass?_trimStart] at hspace
      simpa [fromClass?] using hspace
    have hcomma := fromClass?_append_cons (c := ',') (by decide +kernel) (by decide) (by decide)
    rw [spacedCommas_comma hfirst, hcomma, hcomma, hbehind]
    cases hfound : fromClass? atSegment (Text.trimEnd first) with
    | none =>
      rw [hfound, Option.map_none] at hclass
      rw [hclass]
      simp only [Option.map_none, Option.none_or, hangle]
      split <;> rfl
    | some rest =>
      rw [hfound, Option.map_some] at hclass
      have hrest : ',' ∉ rest ++ blanks :=
        fun h => hfirst ((suffix_of_fromClass? hclass).2.subset h)
      rw [hclass, Option.map_some, Option.map_some, Option.some_or, Option.some_or, Option.map_some,
        spacedCommas_comma hrest, Text.trimEnd_append_blanks hblanks,
        Text.trimEnd_of_suffix (suffix_of_fromClass? hfound).2]

theorem not_mem_withoutPackage {cs : List Char} (h : '(' ∉ cs) : '(' ∉ withoutPackage cs := by
  rw [withoutPackage_of_not_mem h]
  cases hclass : fromClass? true cs with
  | none => exact h
  | some rest => exact fun hmem => h ((suffix_of_fromClass? hclass).2.subset hmem)

theorem not_mem_spacedCommas {cs : List Char} (h : '(' ∉ cs) : '(' ∉ spacedCommas cs :=
  fun hmem => h (keepsParens_spacedCommas.mem _ (.inl rfl) cs hmem)

theorem withoutPackage_withoutParameterPackages (cs : List Char) :
    withoutPackage (withoutParameterPackages cs) =
      withoutParameterPackages (withoutPackage cs) := by
  rcases exists_head cs with hplain | ⟨head, body, hhead, rfl⟩
  · rw [withoutParameterPackages_of_not_mem hplain,
      withoutParameterPackages_of_not_mem (not_mem_withoutPackage hplain)]
  · rw [withoutParameterPackages_append hhead, withoutPackage_append hhead,
      withoutPackage_append hhead]
    cases hclass : fromClass? true head with
    | none => exact (withoutParameterPackages_append hhead body).symm
    | some path =>
      have hpath : '(' ∉ path := fun h => hhead ((suffix_of_fromClass? hclass).2.subset h)
      simp only
      rw [withoutParameterPackages_append hpath, keepsParens_mapDotted.mapParameters_id]

theorem withoutPackage_spacedCommas (cs : List Char) :
    withoutPackage (spacedCommas cs) = spacedCommas (withoutPackage cs) := by
  rcases exists_head cs with hplain | ⟨head, body, hhead, rfl⟩
  · rw [withoutPackage_of_not_mem hplain, withoutPackage_of_not_mem (not_mem_spacedCommas hplain),
      fromClass?_spacedCommas]
    cases fromClass? true cs <;> rfl
  · have hdivide := keepsParens_spacedCommas.divides _ (.inl rfl)
    rw [hdivide, withoutPackage_append (not_mem_spacedCommas hhead), withoutPackage_append hhead,
      fromClass?_spacedCommas]
    cases fromClass? true head with
    | none => exact (hdivide head body).symm
    | some path =>
      simp only [Option.map_some]
      rw [hdivide, keepsParens_spacedCommas.mapParameters_comm (f := id) fun _ => rfl]

theorem withoutParameterPackages_spacedCommas (cs : List Char) :
    withoutParameterPackages (spacedCommas cs) = spacedCommas (withoutParameterPackages cs) := by
  rcases exists_head cs with hplain | ⟨head, body, hhead, rfl⟩
  · rw [withoutParameterPackages_of_not_mem hplain,
      withoutParameterPackages_of_not_mem (not_mem_spacedCommas hplain)]
  · have hdivide := keepsParens_spacedCommas.divides _ (.inl rfl)
    rw [hdivide, withoutParameterPackages_append (not_mem_spacedCommas hhead),
      withoutParameterPackages_append hhead, hdivide,
      keepsParens_spacedCommas.mapParameters_comm fun xs => (mapDotted_spacedCommas xs).symm]

/-- Dropping the package, dropping the packages of parameters and respacing commas commute pairwise
    on every text. -/
theorem spellings_commute (cs : List Char) :
    withoutPackage (withoutParameterPackages cs) = withoutParameterPackages (withoutPackage cs) ∧
      withoutPackage (spacedCommas cs) = spacedCommas (withoutPackage cs) ∧
      withoutParameterPackages (spacedCommas cs) = spacedCommas (withoutParameterPackages cs) :=
  ⟨withoutPackage_withoutParameterPackages cs, withoutPackage_spacedCommas cs,
    withoutParameterPackages_spacedCommas cs⟩

end Signature

end Crosslink
