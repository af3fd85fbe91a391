import Crosslink.CommandLine

set_option autoImplicit false

/-!
What a run of the command leaves behind. An action that fails leaves all it has done before, so what
matters is the order of its steps: those that may fail late come behind steps that only read or log.
The run changes one file at most, as its last step.
-/

namespace Crosslink

section Steps

variable {ε α β : Type}

theorem bind_eq_ok_iff {x : Except ε α} {f : α → Except ε β} {b : β} :
    (x >>= f) = .ok b ↔ ∃ a, x = .ok a ∧ f a = .ok b := by
  cases x with
  | error e => simp [bind, Except.bind]
  | ok a => simp [bind, Except.bind]

end Steps

namespace FileStore

theorem get?_put_self {s : FileStore} {l : Location} (h : s.get? l ≠ some .directory)
    (e : FileEntry) : (s.put l e).get? l = some e := by
  unfold get? at h ⊢
  split at h
  · exact absurd rfl h
  · rename_i hnamed
    rw [if_neg hnamed]
    exact List.lookup_cons_self

theorem get?_put_of_ne {l l' : Location} (h : l' ≠ l) (s : FileStore) (e : FileEntry) :
    (s.put l e).get? l' = s.get? l' := by
  have hother : (l' == l) = false := by simpa using h
  simp [get?, put, List.lookup_cons, hother]

theorem follow_put_eq_ok_iff {s : FileStore} {l : Location} (h : s.get? l ≠ some .directory)
    (text : Option String) (start target : Location) (parts : List String) :
    (s.put l (.file text)).follow start parts = .ok target ↔ s.follow start parts = .ok target := by
  induction parts generalizing start with
  | nil => rfl
  | cons part parts ih =>
    rw [follow, follow]
    by_cases hl : start = l
    · -- A path that goes on from here fails before the write and after it: the file stands where
      -- there was no directory.
      subst hl
      rw [get?_put_self h]
      cases hentry : s.get? start with
      | none => simp
      | some entry =>
        cases entry with
        | directory => exact absurd hentry h
        | file _ => simp
    · rw [get?_put_of_ne hl]
      cases s.get? start with
      | none => simp
      | some entry =>
        cases entry with
        | directory => exact ih (start.enter part)
        | file _ => simp

theorem locate_put_eq_ok_iff {s : FileStore} {l : Location} (h : s.get? l ≠ some .directory)
    (text : Option String) (path : String) (target : Location) :
    (s.put l (.file text)).locate path = .ok target ↔ s.locate path = .ok target := by
  unfold locate
  split
  · rfl
  · exact follow_put_eq_ok_iff h text [] target (pathParts path)

theorem read_eq_ok_iff {s : FileStore} {path text : String} :
    s.read path = .ok text ↔
      ∃ l, s.locate path = .ok l ∧ s.get? l = some (.file (some text)) := by
  unfold read
  rw [bind_eq_ok_iff]
  refine exists_congr fun l => and_congr_right fun _ => ?_
  split <;> simp_all

theorem locate_of_locateFile {s : FileStore} {path : String} {l : Location}
    (h : s.locateFile path = .ok l) : s.locate path = .ok l := by
  unfold locateFile at h
  unfold locate
  split at h
  · cases h
  · rename_i hpath
    rw [if_neg hpath]
    split at h
    · split at h <;> cases h
    · exact h

/-- The second store is the first one with the text at the path. They differ at one location, where
    there was no directory, and no path that leads elsewhere is read differently. -/
def IsWritten (s : FileStore) (path text : String) (s' : FileStore) : Prop :=
  s'.read path = .ok text ∧
  ∃ l, s.locate path = .ok l ∧ s.get? l ≠ some .directory ∧
    (∀ l', l' ≠ l → s'.get? l' = s.get? l') ∧
    ∀ other text', s.locate other ≠ .ok l → (s'.read other = .ok text' ↔ s.read other = .ok text')

theorem isWritten_put {s : FileStore} {path : String} {l : Location} (text : String)
    (hpath : s.locate path = .ok l) (h : s.get? l ≠ some .directory) :
    s.IsWritten path text (s.put l (.file (some text))) := by
  refine ⟨?_, l, hpath, h, ?_, ?_⟩
  · exact read_eq_ok_iff.2 ⟨l, (locate_put_eq_ok_iff h _ path l).2 hpath, get?_put_self h _⟩
  · intro l' hl'
    exact get?_put_of_ne hl' s _
  · intro other text' hother
    rw [read_eq_ok_iff, read_eq_ok_iff]
    refine exists_congr fun l' => ?_
    rw [locate_put_eq_ok_iff h]
    refine and_congr_right fun hl' => ?_
    have hne : l' ≠ l := by
      rintro rfl
      exact hother hl'
    rw [get?_put_of_ne hne]

def CanWrite (s : FileStore) (path : String) : Prop :=
  ∃ l, s.locateFile path = .ok l ∧ s.get? l ≠ some .directory

theorem write_eq_ok_iff {s s' : FileStore} {path text : String} :
    s.write path text = .ok s' ↔
      ∃ l, s.locateFile path = .ok l ∧ s.get? l ≠ some .directory ∧
        s.put l (.file (some text)) = s' := by
  unfold write
  rw [bind_eq_ok_iff]
  refine exists_congr fun l => and_congr_right fun _ => ?_
  split <;> simp_all

def textAt (s : FileStore) (path : String) : Except Error String := (s.read path).mapError toError

def bundleAt (s : FileStore) (path : String) : Except Error (List Document) := do
  let format ← Format.ofPath path
  let text ← s.textAt path
  format.parse text

/-- The settings that stand at a path; where nothing does they are the default ones. -/
def settingsAt (s : FileStore) (path : String) : Except Error Settings :=
  if s.holds path then s.textAt path >>= Settings.ofToml else .ok {}

end FileStore

structure Machine.Agrees (m m' : Machine) : Prop where
  store : m'.store = m.store
  output : m'.output = m.output

theorem Machine.Agrees.refl (m : Machine) : m.Agrees m := ⟨rfl, rfl⟩

theorem Machine.Agrees.trans {m m' m'' : Machine} (h : m.Agrees m') (h' : m'.Agrees m'') :
    m.Agrees m'' := ⟨h'.store.trans h.store, h'.output.trans h.output⟩

namespace Action

variable {α β : Type} {x : Action α} {f : α → Action β} {m m' : Machine} {e : Error}

theorem bind_run (x : Action α) (f : α → Action β) (m : Machine) :
    (x >>= f) m = match x m with
      | .ok a n => f a n
      | .error e n => .error e n := by
  change EStateM.bind x f m = _
  unfold EStateM.bind
  cases x m <;> rfl

theorem bind_ok_iff {b : β} :
    (x >>= f) m = .ok b m' ↔ ∃ a n, x m = .ok a n ∧ f a n = .ok b m' := by
  rw [bind_run]
  cases x m with
  | ok a n => simp only [EStateM.Result.ok.injEq, exists_eq_left', exists_and_left, and_assoc]
  | error e n => simp

theorem bind_error_iff :
    (x >>= f) m = .error e m' ↔
      x m = .error e m' ∨ ∃ a n, x m = .ok a n ∧ f a n = .error e m' := by
  rw [bind_run]
  cases x m with
  | ok a n =>
    simp only [reduceCtorEq, false_or, EStateM.Result.ok.injEq, exists_eq_left', exists_and_left,
      and_assoc]
  | error e n => simp

theorem ofExcept_ok (a : α) (m : Machine) : (ofExcept (.ok a) : Action α) m = .ok a m := rfl

theorem ofExcept_error (e : Error) (m : Machine) :
    (ofExcept (.error e) : Action α) m = .error e m := rfl

theorem ofExcept_ok_iff {v : Except Error α} {a : α} :
    (ofExcept v : Action α) m = .ok a m' ↔ v = .ok a ∧ m = m' := by
  cases v <;> simp [ofExcept_ok, ofExcept_error]

theorem ofExcept_error_iff {v : Except Error α} :
    (ofExcept v : Action α) m = .error e m' ↔ v = .error e ∧ m = m' := by
  cases v <;> simp [ofExcept_ok, ofExcept_error]

/-- Neither files nor output are changed, whether the action fails or not. -/
structure Quiet (x : Action α) : Prop where
  ok : ∀ {m m' a}, x m = .ok a m' → m.Agrees m'
  error : ∀ {m m' e}, x m = .error e m' → m.Agrees m'

/-- If the action fails, neither files nor output are changed. -/
def Atomic (x : Action α) : Prop := ∀ {m m' e}, x m = .error e m' → m.Agrees m'

/-- What fails late must come behind what changes nothing. -/
theorem Quiet.bind_atomic (hx : Quiet x) (hf : ∀ a, Atomic (f a)) : Atomic (x >>= f) := by
  intro m m' e h
  rcases bind_error_iff.1 h with hfail | ⟨a, n, hdone, hfail⟩
  · exact hx.error hfail
  · exact (hx.ok hdone).trans (hf a hfail)

/-- The action gives what the files tell and changes nothing. -/
def Reads (x : Action α) (value : FileStore → Except Error α) : Prop :=
  ∀ m, x m = (ofExcept (value m.store) : Action α) m

theorem Reads.ok_iff {value : FileStore → Except Error α} (h : Reads x value) {a : α} :
    x m = .ok a m' ↔ value m.store = .ok a ∧ m = m' := by
  rw [h m, ofExcept_ok_iff]

theorem Reads.error_iff {value : FileStore → Except Error α} (h : Reads x value) :
    x m = .error e m' ↔ value m.store = .error e ∧ m = m' := by
  rw [h m, ofExcept_error_iff]

theorem Reads.quiet {value : FileStore → Except Error α} (h : Reads x value) : Quiet x where
  ok := by
    intro m m' a hx
    obtain ⟨_, rfl⟩ := h.ok_iff.1 hx
    exact .refl m
  error := by
    intro m m' e hx
    obtain ⟨_, rfl⟩ := h.error_iff.1 hx
    exact .refl m

theorem Reads.bind {value : FileStore → Except Error α} {next : α → FileStore → Except Error β}
    (h : Reads x value) (hf : ∀ a, Reads (f a) (next a)) :
    Reads (x >>= f) fun s => value s >>= fun a => next a s := by
  intro m
  change (x >>= f) m = (ofExcept (value m.store >>= fun a => next a m.store) : Action β) m
  rw [bind_run, h m]
  cases value m.store with
  | ok a =>
    rw [ofExcept_ok]
    exact hf a m
  | error e => rfl

theorem reads_ofExcept (v : Except Error α) : Reads (ofExcept v) fun _ => v := fun _ => rfl

theorem reads_readFile (path : String) : Reads (readFile path) (·.textAt path) := by
  intro m
  simp only [readFile, FileStore.textAt]
  cases m.store.read path <;> rfl

theorem reads_fileExists (path : String) : Reads (fileExists path) fun s => .ok (s.holds path) :=
  fun _ => rfl

theorem reads_loadBundle (path : String) : Reads (loadBundle path) (·.bundleAt path) :=
  (reads_ofExcept _).bind fun format =>
    (reads_readFile path).bind fun text => reads_ofExcept (format.parse text)

theorem reads_loadSettings (path : String) : Reads (loadSettings path) (·.settingsAt path) := by
  have hfound (found : Bool) :
      Reads (if found then readFile path >>= fun text => ofExcept (Settings.ofToml text)
        else pure {})
        fun s => if found then s.textAt path >>= Settings.ofToml else .ok {} := by
    cases found with
    | false => exact fun _ => rfl
    | true => exact (reads_readFile path).bind fun text => reads_ofExcept (Settings.ofToml text)
  exact (reads_fileExists path).bind hfound

theorem quiet_log (text : String) : Quiet (log text) where
  ok := by
    rintro m m' a ⟨⟩
    exact ⟨rfl, rfl⟩
  error := by
    rintro m m' e ⟨⟩

theorem atomic_print (text : String) : Atomic (print text) := by
  rintro m m' e ⟨⟩

theorem writeFile_eq_ok_iff {path text : String} {a : Unit} :
    writeFile path text m = .ok a m' ↔
      ∃ s, m.store.write path text = .ok s ∧ { m with store := s } = m' := by
  rw [writeFile]
  cases m.store.write path text <;> simp

theorem atomic_writeFile (path text : String) : Atomic (writeFile path text) := by
  intro m m' e h
  rw [writeFile] at h
  split at h
  · cases h
  · cases h
    exact .refl m

theorem atomic_saveBundle (path : String) (documents : List Document) :
    Atomic (saveBundle path documents) :=
  (reads_ofExcept _).quiet.bind_atomic fun format => atomic_writeFile path (format.render documents)

theorem saveBundle_eq_ok_iff {path : String} {documents : List Document} {a : Unit} :
    saveBundle path documents m = .ok a m' ↔
      ∃ format s, Format.ofPath path = .ok format ∧
        m.store.write path (format.render documents) = .ok s ∧ { m with store := s } = m' := by
  rw [saveBundle, bind_ok_iff]
  constructor
  · rintro ⟨format, n, hformat, hwrite⟩
    obtain ⟨hpath, rfl⟩ := ofExcept_ok_iff.1 hformat
    obtain ⟨s, hs, hm⟩ := writeFile_eq_ok_iff.1 hwrite
    exact ⟨format, s, hpath, hs, hm⟩
  · rintro ⟨format, s, hformat, hs, hm⟩
    exact ⟨format, m, ofExcept_ok_iff.2 ⟨hformat, rfl⟩, writeFile_eq_ok_iff.2 ⟨s, hs, hm⟩⟩

end Action

namespace CommandLine

open Crosslink.Action

def settings (store : FileStore) (r : Request) : Except Error Settings :=
  match r.settings with
  | some path => store.settingsAt path
  | none => .ok {}

/-- The settings and the documents of the request can be read, and compile. -/
def Compiles (store : FileStore) (r : Request) (outcome : Outcome) : Prop :=
  ∃ s documents, settings store r = .ok s ∧ store.bundleAt r.input = .ok documents ∧
    compile s Classifier.silent documents = .ok outcome

theorem reads_loadRequested (r : Request) : Reads (loadRequested r) (settings · r) := by
  unfold loadRequested settings
  cases r.settings with
  | some path => exact reads_loadSettings path
  | none => exact fun _ => rfl

theorem reads_load (r : Request) :
    Reads (load r) fun store => settings store r >>= fun s => store.bundleAt r.input >>=
      fun documents => (compile s Classifier.silent documents).mapError Defect.toError :=
  (reads_loadRequested r).bind fun _ => (reads_loadBundle r.input).bind fun _ => reads_ofExcept _

theorem load_eq_ok_iff {r : Request} {outcome : Outcome} {m m' : Machine} :
    load r m = .ok outcome m' ↔ Compiles m.store r outcome ∧ m = m' := by
  rw [(reads_load r).ok_iff, bind_eq_ok_iff]
  refine and_congr_left fun _ => exists_congr fun s => ?_
  rw [bind_eq_ok_iff, ← exists_and_left]
  refine exists_congr fun documents => and_congr_right fun _ => and_congr_right fun _ => ?_
  cases compile s Classifier.silent documents with
  | ok found =>
    constructor
    · rintro ⟨⟩
      rfl
    · rintro ⟨⟩
      rfl
  | error defect => exact ⟨nofun, nofun⟩

/-- The output that the request names, if any, has a format and can be written. -/
def CanDeliver (store : FileStore) (r : Request) : Prop :=
  ∀ path, r.output = some path →
    (∃ format, Format.ofPath path = .ok format) ∧ store.CanWrite path

/-- The documents stand in the output in its own format, or they are printed in the format of the
    input. -/
def Delivers (store : FileStore) (r : Request) (documents : List Document) (store' : FileStore)
    (printed : String) : Prop :=
  match r.output with
  | some path =>
    printed = "" ∧
      ∃ format, Format.ofPath path = .ok format ∧
        store.IsWritten path (format.render documents) store'
  | none =>
    store' = store ∧
      ∃ format, Format.ofPath r.input = .ok format ∧ printed = format.render documents ++ "\n"

/-- All that can fail in a delivery comes before the one thing it changes. -/
theorem atomic_deliver (r : Request) (documents : List Document) :
    Atomic (deliver r documents) := by
  unfold deliver
  cases r.output with
  | some path => exact atomic_saveBundle path documents
  | none =>
    exact (reads_ofExcept _).quiet.bind_atomic fun format =>
      atomic_print (line (format.render documents))

theorem quiet_report (r : Request) (outcome : Outcome) : Quiet (report r outcome) := quiet_log _

theorem atomic_resolve (r : Request) : Atomic (resolve r) :=
  (reads_load r).quiet.bind_atomic fun outcome =>
    (quiet_report r outcome).bind_atomic fun _ => atomic_deliver r outcome.documents

theorem deliver_eq_ok {r : Request} {documents : List Document} {m m' : Machine} {a : Unit}
    (hprinted : m.output = "") (h : deliver r documents m = .ok a m') :
    CanDeliver m.store r ∧ Delivers m.store r documents m'.store m'.output := by
  revert h
  unfold deliver CanDeliver Delivers
  cases r.output with
  | some path =>
    intro h
    obtain ⟨format, s, hformat, hwrite, rfl⟩ := saveBundle_eq_ok_iff.1 h
    obtain ⟨l, hfile, hentry, rfl⟩ := FileStore.write_eq_ok_iff.1 hwrite
    refine ⟨?_, hprinted, format, hformat,
      FileStore.isWritten_put _ (FileStore.locate_of_locateFile hfile) hentry⟩
    rintro _ ⟨⟩
    exact ⟨⟨format, hformat⟩, l, hfile, hentry⟩
  | none =>
    intro h
    obtain ⟨format, n, hformat, hprint⟩ := bind_ok_iff.1 h
    obtain ⟨hpath, rfl⟩ := ofExcept_ok_iff.1 hformat
    cases hprint
    refine ⟨by rintro _ ⟨⟩, rfl, format, hpath, ?_⟩
    rw [hprinted, String.empty_append]
    rfl

theorem exists_deliver {r : Request} {m : Machine} {input : List Document}
    (hinput : m.store.bundleAt r.input = .ok input) (hcan : CanDeliver m.store r)
    (documents : List Document) : ∃ m', deliver r documents m = .ok () m' := by
  unfold deliver
  cases houtput : r.output with
  | some path =>
    obtain ⟨⟨format, hformat⟩, l, hfile, hentry⟩ := hcan path houtput
    have hwrite := FileStore.write_eq_ok_iff.2
      ⟨l, hfile, hentry, Eq.refl (m.store.put l (.file (some (format.render documents))))⟩
    exact ⟨_, saveBundle_eq_ok_iff.2 ⟨format, _, hformat, hwrite, rfl⟩⟩
  | none =>
    -- The format is that of the input, which was found when the input was read.
    obtain ⟨format, hformat, _⟩ := bind_eq_ok_iff.1 hinput
    exact ⟨_, bind_ok_iff.2 ⟨format, m, ofExcept_ok_iff.2 ⟨hformat, rfl⟩, rfl⟩⟩

theorem resolve_eq_ok_iff {r : Request} {m m' : Machine} :
    resolve r m = .ok () m' ↔
      ∃ outcome n, Compiles m.store r outcome ∧ report r outcome m = .ok () n ∧
        deliver r outcome.documents n = .ok () m' := by
  rw [resolve, bind_ok_iff]
  constructor
  · rintro ⟨outcome, n, hload, hrest⟩
    obtain ⟨hcompiles, rfl⟩ := load_eq_ok_iff.1 hload
    obtain ⟨_, n, hreport, hdeliver⟩ := bind_ok_iff.1 hrest
    exact ⟨outcome, n, hcompiles, hreport, hdeliver⟩
  · rintro ⟨outcome, n, hcompiles, hreport, hdeliver⟩
    exact ⟨outcome, m, load_eq_ok_iff.2 ⟨hcompiles, rfl⟩, bind_ok_iff.2 ⟨(), n, hreport, hdeliver⟩⟩

theorem exists_resolve {r : Request} {m : Machine} {outcome : Outcome}
    (hcompiles : Compiles m.store r outcome) (hcan : CanDeliver m.store r) :
    ∃ m', resolve r m = .ok () m' := by
  obtain ⟨n, hreport⟩ : ∃ n, report r outcome m = .ok () n := ⟨_, rfl⟩
  have hsame := (quiet_report r outcome).ok hreport
  have ⟨_, input, _, hinput, _⟩ := hcompiles
  rw [← hsame.store] at hinput hcan
  obtain ⟨m', hdeliver⟩ := exists_deliver hinput hcan outcome.documents
  exact ⟨m', resolve_eq_ok_iff.2 ⟨outcome, n, hcompiles, hreport, hdeliver⟩⟩

/-- A run succeeds exactly when all it reads is in order, the documents compile and the output can
    be written. If it fails it has changed no file and printed nothing; if it succeeds it has
    delivered the documents that it compiled, and nothing else has changed. -/
theorem resolve_all_or_nothing (store : FileStore) (r : Request) :
    let result := exec (resolve r) store
    (result.exit = 0 ↔ (∃ outcome, Compiles store r outcome) ∧ CanDeliver store r) ∧
    (result.exit ≠ 0 → result.store = store ∧ result.output = "") ∧
    (result.exit = 0 →
      ∃ outcome, Compiles store r outcome ∧
        Delivers store r outcome.documents result.store result.output) := by
  intro result
  have hresult : result = exec (resolve r) store := rfl
  rw [exec] at hresult
  cases hrun : resolve r { store := store } with
  | ok a m =>
    rw [hrun] at hresult
    obtain ⟨outcome, n, hcompiles, hreport, hdeliver⟩ := resolve_eq_ok_iff.1 hrun
    have hsame := (quiet_report r outcome).ok hreport
    obtain ⟨hcan, hdelivers⟩ := deliver_eq_ok hsame.output hdeliver
    rw [hsame.store] at hcan hdelivers
    rw [hresult]
    exact ⟨⟨fun _ => ⟨⟨outcome, hcompiles⟩, hcan⟩, fun _ => rfl⟩, fun h => absurd rfl h,
      fun _ => ⟨outcome, hcompiles, hdelivers⟩⟩
  | error e m =>
    rw [hrun] at hresult
    have hsame := atomic_resolve r hrun
    rw [hresult]
    refine ⟨⟨fun h => absurd h Nat.one_ne_zero, ?_⟩, fun _ => ⟨hsame.store, hsame.output⟩,
      fun h => absurd h Nat.one_ne_zero⟩
    rintro ⟨⟨outcome, hcompiles⟩, hcan⟩
    obtain ⟨m', hok⟩ := exists_resolve (m := { store := store }) hcompiles hcan
    rw [hrun] at hok
    cases hok

/-- A run over its own input succeeds. One whose output has no format compiles its documents too,
    and then leaves everything as it was. -/
theorem resolve_all_or_nothing_in_place :
    let store : FileStore := FileStore.place {} "docs.json" (.file (some "[\x7b\"id\":\"d\"\x7d]"))
    let inPlace : Request := { input := "docs.json", output := some "./docs.json" }
    let unknown : Request := { input := "docs.json", output := some "docs.txt" }
    ((exec (resolve inPlace) store).exit = 0 ∧
      ∃ outcome, Compiles store inPlace outcome ∧
        Delivers store inPlace outcome.documents (exec (resolve inPlace) store).store
          (exec (resolve inPlace) store).output) ∧
    (exec (resolve unknown) store).exit ≠ 0 ∧ (exec (resolve unknown) store).store = store ∧
      (exec (resolve unknown) store).output = "" := by
  intro store inPlace unknown
  have hwritten : (exec (resolve inPlace) store).exit = 0 := by decide +kernel
  have hrefused : (exec (resolve unknown) store).exit ≠ 0 := by decide +kernel
  obtain ⟨_, _, hplaced⟩ := resolve_all_or_nothing store inPlace
  obtain ⟨_, hunknown, _⟩ := resolve_all_or_nothing store unknown
  exact ⟨⟨hwritten, hplaced hwritten⟩, hrefused, hunknown hrefused⟩

end CommandLine

end Crosslink
