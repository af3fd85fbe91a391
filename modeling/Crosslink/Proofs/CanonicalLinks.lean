import Crosslink.Proofs.Defects
import Crosslink.Proofs.DocumentScope
import Crosslink.Proofs.OwnerNames
import Crosslink.Proofs.PayloadShape
import Crosslink.Proofs.RewriteAgain

set_option autoImplicit false

/-!
Links to the identifier of an entity. Such an identifier is a name that every document can see, so a
link to it finds something wherever it stands; it finds the entity itself exactly when the name,
first inside the package of the document, stands for it there. A name that another symbol has taken
leads to that symbol, and an identifier that is no payload is no link at all.
-/

namespace Crosslink

theorem Text.cutAt?_of_not_mem {c : Char} {mark cs : List Char} (h : c ∉ cs) :
    cutAt? (c :: mark) (cs ++ c :: mark) = some (cs, []) := by
  have hmark : dropStart? (c :: mark) (c :: mark) = some [] := dropStart?_eq_some_iff.2 (by simp)
  induction cs with
  | nil => simp [cutAt?, hmark]
  | cons d cs ih =>
    rw [List.mem_cons, not_or] at h
    have hmissed : dropStart? (c :: mark) (d :: (cs ++ c :: mark)) = none := by
      simp [dropStart?, h.1]
    rw [List.cons_append, cutAt?, hmissed, ih h.2]
    rfl

theorem Tag.isReadable_link {name uid label : List Char} (huid : '"' ∉ uid) (hlabel : '<' ∉ label) :
    ({ uid := uid, label := label } : Tag).IsReadable name where
  gap_ne_nil := by simp
  gap_blank := by
    intro c hc
    rw [List.mem_singleton.1 hc]
    decide
  uid := huid
  attributes := by simp
  label := Text.cutAt?_of_not_mem hlabel

theorem Tag.pieces_toText {name : List Char} {t : Tag} (h : t.IsReadable name) :
    pieces name (t.toText name) = [.tag t] := by
  have hread : read? name (t.toText name) = some (t, []) := read?_eq_some_iff.2 ⟨h, by simp⟩
  rw [pieces_of_read? hread, pieces_nil]

theorem Tag.withoutAttribute_nil (key : List Char) : withoutAttribute key [] = [] := by
  rw [withoutAttribute]
  split
  · rename_i found
    cases found
  · rfl

namespace Scope

theorem rewrite_toText (scope : Scope) {s : Settings} (package : String) {t : Tag}
    (h : t.IsReadable s.tagName.toList) :
    scope.rewrite s package (String.ofList (t.toText s.tagName.toList)) =
      { text := String.ofList ((scope.settle s package t).toText s.tagName.toList)
        resolved := if (scope.judge package.toList t.uid).isResolved then 1 else 0
        findings := (t.finding? scope.document (scope.judge package.toList t.uid)).toList } := by
  simp only [rewrite, String.toList_ofList, Tag.pieces_toText h, List.flatMap_cons,
    List.flatMap_nil, List.append_nil, List.filterMap_cons, List.filterMap_nil, Tag.Piece.tag?,
    List.countP_cons, List.countP_nil, Nat.zero_add, settle]
  cases scope.judge package.toList t.uid <;> rfl

/-- Rewriting a link to `target` writes one to `uid` and counts it as resolved. -/
def LinksTo (scope : Scope) (s : Settings) (package target uid : String) (label : List Char) :
    Prop :=
  let written := scope.rewrite s package (String.ofList (s.link target.toList label))
  written.text = String.ofList (s.link uid.toList label) ∧ written.resolved = 1 ∧
    written.findings = []

theorem link_injective {s : Settings} {first second label : List Char}
    (h : s.link first label = s.link second label) : first = second := by
  simpa [Settings.link, Tag.toText] using h

theorem linksTo_iff_judge (scope : Scope) (s : Settings) (package : String) {target uid : String}
    {label : List Char} (htarget : '"' ∉ target.toList) (hlabel : '<' ∉ label) :
    scope.LinksTo s package target uid label ↔
      scope.judge package.toList target.toList = .resolved uid := by
  have hwritten := scope.rewrite_toText (s := s) package (Tag.isReadable_link htarget hlabel)
  unfold LinksTo Settings.link
  simp only [hwritten, settle]
  cases scope.judge package.toList target.toList with
  | resolved found =>
    simp only [Tag.settle, Tag.withoutAttribute_nil, Verdict.isResolved, Tag.finding?, if_true,
      Option.toList_none, and_true, Verdict.resolved.injEq, String.ofList_inj]
    constructor
    · intro htext
      exact String.toList_inj.1 (link_injective (s := s) htext)
    · rintro rfl
      rfl
  | unresolved => simp [Verdict.isResolved]
  | malformed => simp [Verdict.isResolved]

theorem judge_eq_resolved_iff (scope : Scope) (package : List Char) {target : List Char}
    (hne : target ≠ []) (htrim : Text.trimBoth target = target) (uid : String) :
    scope.judge package target = .resolved uid ↔
      (Payload.ofText? target).isSome = true ∧ scope.resolve package target = uid ∧ uid ≠ "" := by
  simp only [judge, htrim]
  cases hpayload : Payload.ofText? target with
  | none => simp [hne]
  | some payload =>
    simp only [Option.isNone_some, Bool.and_false, Bool.false_eq_true, if_false, Option.isSome_some,
      true_and]
    split
    · rename_i hempty
      rw [String.isEmpty_iff.1 hempty]
      simp [eq_comm]
    · rename_i hempty
      simp only [Verdict.resolved.injEq]
      constructor
      · rintro rfl
        exact ⟨rfl, by simpa using hempty⟩
      · exact And.left

theorem eq_append_of_suffix {target xs ys : List Char} {a : Char} (h : target <:+ xs ++ a :: ys)
    (ha : a ∈ target) (hys : a ∉ ys) : ∃ before, target = before ++ a :: ys := by
  obtain ⟨front, hfront⟩ := h
  rcases List.append_eq_append_iff.1 hfront with ⟨before, _, heq⟩ | ⟨before, _, heq⟩
  · exact ⟨before, heq⟩
  · cases before with
    | nil => exact ⟨[], heq.symm⟩
    | cons b before =>
      rw [List.cons_append, List.cons.injEq] at heq
      exact absurd (heq.2 ▸ List.mem_append_right before ha) hys

theorem toList_memberUid (owner : String) (member : List Char) (wildcard : Bool) :
    (memberUid owner member wildcard).toList =
      owner.toList ++ '.' :: member ++ if wildcard then ['*'] else [] := by
  simp [memberUid]

/-- Resolution by class and member puts a dot where the payload has its `#`, or ends in a star
    where the payload ends in a parenthesis. -/
theorem fuzzy?_ne_of_mem {scope : Scope} {cs target : List Char}
    (htarget : target <:+ Text.trimBoth cs) (hhash : '#' ∈ target) {uid : String}
    (h : scope.fuzzy? cs = some uid) : uid.toList ≠ target := by
  unfold fuzzy? at h
  split at h
  · rename_i owner member parameters hpayload
    obtain ⟨found, _, rfl⟩ := Option.map_eq_some_iff.1 h
    cases parameters with
    | none =>
      rw [Payload.trimBoth_of_qualified hpayload] at htarget
      obtain ⟨before, rfl⟩ :=
        eq_append_of_suffix htarget hhash
          (Payload.not_mem_of_qualified hpayload (by decide +kernel))
      intro heq
      rw [toList_memberUid] at heq
      have htail : '.' :: member = '#' :: member :=
        List.append_inj_right' (by simpa using heq) (by simp)
      simp at htail
    | some inner =>
      have hclose : target.getLast? = some ')' := by
        obtain ⟨front, hfront⟩ := htarget
        rw [← Payload.getLast?_of_qualified hpayload, ← hfront,
          List.getLast?_append_of_ne_nil _ (List.ne_nil_of_mem hhash)]
      rintro rfl
      rw [toList_memberUid, Option.isSome_some, if_pos rfl, List.getLast?_concat] at hclose
      simp at hclose
  · rename_i hpayload
    exact absurd (htarget.subset hhash) (Payload.not_mem_of_plain hpayload)
  · cases h

theorem suffix_trimBoth_withOwner (scope : Scope) {target : List Char}
    (htrim : Text.trimBoth target = target) :
    target <:+ Text.trimBoth (scope.withOwner target) := by
  unfold withOwner
  split
  · rename_i cs
    have hstart : Text.trimStart ('#' :: cs) = '#' :: cs := by
      have hblank : Text.isBlank '#' = false := by decide
      simp [Text.trimStart, hblank]
    have hend : Text.trimEnd ('#' :: cs) = '#' :: cs := by
      rwa [Text.trimBoth, hstart] at htrim
    cases scope.owner? with
    | none => simp [htrim]
    | some owner =>
      change _ <:+ Text.trimEnd ((owner.toList ++ '#' :: cs).dropWhile Text.isBlank)
      rw [List.dropWhile_append]
      split
      · exact ⟨[], by rw [← Text.trimStart, hstart, hend, List.nil_append]⟩
      · rw [Text.trimEnd_append (by simp [hend]), hend]
        exact List.suffix_append _ _
  · exact ⟨[], by rw [htrim, List.nil_append]⟩

/-- The name under which a payload is looked up: the owner stands before a `#` at the front, and
    every `#` is a dot. -/
def dotted (scope : Scope) (target : List Char) : List Char :=
  (scope.withOwner target).map fun c => if c = '#' then '.' else c

theorem withOwner_of_not_mem (scope : Scope) {target : List Char} (h : '#' ∉ target) :
    scope.withOwner target = target := by
  unfold withOwner
  split
  · simp at h
  · rfl

theorem dotted_of_not_mem (scope : Scope) {target : List Char} (h : '#' ∉ target) :
    scope.dotted target = target := by
  rw [dotted, scope.withOwner_of_not_mem h]
  conv => rhs; rw [← List.map_id' target]
  apply List.map_congr_left
  intro c hc
  rw [if_neg]
  rintro rfl
  exact h hc

theorem resolve_eq (scope : Scope) (package : List Char) {target : List Char} (hne : target ≠ [])
    (htrim : Text.trimBoth target = target) :
    scope.resolve package target = ((scope.asWritten? package (scope.dotted target)).or
      (scope.fuzzy? (scope.withOwner target))).getD "" := by
  unfold resolve
  rw [htrim]
  cases target with
  | nil => exact absurd rfl hne
  | cons c cs => rfl

/-- An indexed name resolves to itself only by being looked up as written. -/
theorem resolve_eq_self_iff (scope : Scope) (package : List Char) {uid : String}
    (hne : uid.toList ≠ []) (htrim : Text.trimBoth uid.toList = uid.toList)
    (hindexed : (scope.get? uid).isSome = true) :
    scope.resolve package uid.toList = uid ↔
      scope.asWritten? package (scope.dotted uid.toList) = some uid := by
  rw [scope.resolve_eq package hne htrim]
  cases hwritten : scope.asWritten? package (scope.dotted uid.toList) with
  | some found => simp
  | none =>
    have hhash : '#' ∈ uid.toList := by
      by_contra hhash
      rw [scope.dotted_of_not_mem hhash, asWritten?, Option.or_eq_none_iff,
        String.ofList_toList] at hwritten
      rw [hwritten.2] at hindexed
      cases hindexed
    cases hfuzzy : scope.fuzzy? (scope.withOwner uid.toList) with
    | none =>
      simp only [Option.or_none, Option.getD_none, reduceCtorEq, iff_false]
      rintro rfl
      exact hne rfl
    | some found =>
      have hother := fuzzy?_ne_of_mem (scope.suffix_trimBoth_withOwner htrim) hhash hfuzzy
      simp only [Option.none_or, Option.getD_some, reduceCtorEq, iff_false]
      rintro rfl
      exact hother rfl

theorem linksTo_self_iff (scope : Scope) (s : Settings) (package : String) {uid : String}
    (hne : uid.toList ≠ []) (htrim : Text.trimBoth uid.toList = uid.toList)
    (hindexed : (scope.get? uid).isSome = true) (hquote : '"' ∉ uid.toList) {label : List Char}
    (hlabel : '<' ∉ label) :
    scope.LinksTo s package uid uid label ↔
      (Payload.ofText? uid.toList).isSome = true ∧
        scope.asWritten? package.toList (scope.dotted uid.toList) = some uid := by
  have hempty : uid ≠ "" := by
    rintro rfl
    exact hne rfl
  rw [scope.linksTo_iff_judge s package hquote hlabel, scope.judge_eq_resolved_iff _ hne htrim,
    scope.resolve_eq_self_iff _ hne htrim hindexed]
  simp [hempty]

theorem linksTo_of_asWritten? (scope : Scope) (s : Settings) (package : String)
    {target uid : String} (hne : target.toList ≠ [])
    (htrim : Text.trimBoth target.toList = target.toList)
    (hquote : '"' ∉ target.toList) {label : List Char} (hlabel : '<' ∉ label)
    (hpayload : (Payload.ofText? target.toList).isSome = true)
    (hfound : scope.asWritten? package.toList (scope.dotted target.toList) = some uid)
    (huid : uid ≠ "") : scope.LinksTo s package target uid label := by
  rw [scope.linksTo_iff_judge s package hquote hlabel, scope.judge_eq_resolved_iff _ hne htrim,
    scope.resolve_eq _ hne htrim, hfound]
  exact ⟨hpayload, rfl, huid⟩

theorem rewrite_link_malformed (scope : Scope) (s : Settings) (package : String)
    {target : List Char} (hne : target ≠ []) (htrim : Text.trimBoth target = target)
    (hquote : '"' ∉ target)
    {label : List Char} (hlabel : '<' ∉ label) (hpayload : Payload.ofText? target = none) :
    scope.rewrite s package (String.ofList (s.link target label)) =
      { text := String.ofList (Tag.toText s.tagName.toList
          { uid := target, attributes := s.flag, label := label })
        resolved := 0
        findings := [.malformed scope.document (String.ofList target)] } := by
  have hjudge : scope.judge package.toList target = .malformed := by
    rw [judge_eq_malformed_iff, htrim]
    exact ⟨hne, hpayload⟩
  rw [Settings.link, scope.rewrite_toText package (Tag.isReadable_link hquote hlabel)]
  simp only [settle, hjudge, Tag.settle, Tag.withoutAttribute_nil, List.append_nil,
    Verdict.isResolved, Tag.finding?, htrim, Option.toList_some, Bool.false_eq_true, if_false]

end Scope

/-- Some write that the document can see has the name stand for the symbol: one to its own table, or
    one of any document to the shared names. -/
def Visible (documents : List Document) (d : Document) (name uid : String) : Prop :=
  (name, uid) ∈ d.ownWrites ∨ ∃ q ∈ documents, (name, uid) ∈ q.sharedWrites

theorem Document.mem_sharedWrites_of_owner {d : Document} {owner : Entity}
    (howner : d.owner? = some owner) {name : String} (hname : name ∈ owner.aliases) :
    (name, owner.uid) ∈ d.sharedWrites := by
  have hentity : owner ∈ d.entities := (d.mem_entities_iff owner).2 (.inl howner)
  exact (d.mem_sharedWrites_iff _).2 (.inl ⟨owner, hentity, List.mem_map_of_mem hname⟩)

theorem visible_of_get? {documents : List Document} (hids : (documents.map Document.id).Nodup)
    {d : Document} (hd : d ∈ documents) {name uid : String}
    (h : ((Index.ofDocuments documents).scope d.id).get? name = some uid) :
    Visible documents d name uid := by
  rw [Index.scope_ofDocuments hids hd, Scope.get?, Option.or_eq_some_iff, Option.bind_some,
    Document.get?_nameTable, Index.shared_ofDocuments] at h
  rcases h with hown | ⟨_, hshared⟩
  · cases howner : d.owner? with
    | none =>
      rw [howner] at hown
      exact .inl (mem_of_lastWrite? hown)
    | some owner =>
      simp only [howner] at hown
      split at hown
      · rename_i hname
        cases hown
        exact .inr ⟨d, hd, Document.mem_sharedWrites_of_owner howner hname⟩
      · exact .inl (mem_of_lastWrite? hown)
  · obtain ⟨q, hq, hwrite⟩ := List.mem_flatMap.1 (mem_of_lastWrite? hshared)
    exact .inr ⟨q, hq, hwrite⟩

theorem Entity.uid_mem_aliases {e : Entity} (hblank : Text.isBlankText e.uid = false)
    (htrim : Text.trim e.uid = e.uid) : e.uid ∈ e.aliases := by
  have halias : AliasForm.uid.alias? e = some e.uid := by rw [AliasForm.alias?_uid hblank, htrim]
  exact List.mem_filterMap.2 ⟨.uid, by decide, halias⟩

theorem get?_uid_isSome {documents : List Document} {q : Document} (hq : q ∈ documents)
    {e : Entity} (he : e ∈ q.entities) (hblank : Text.isBlankText e.uid = false)
    (htrim : Text.trim e.uid = e.uid) (id : String) :
    (((Index.ofDocuments documents).scope id).get? e.uid).isSome = true := by
  have hwrite : (e.uid, e.uid) ∈ q.sharedWrites :=
    (q.mem_sharedWrites_iff _).2
      (.inl ⟨e, he, List.mem_map_of_mem (Entity.uid_mem_aliases hblank htrim)⟩)
  have hshared : ((Index.ofDocuments documents).shared.get? e.uid).isSome = true := by
    rw [Index.shared_ofDocuments]
    exact lastWrite?_isSome_of_mem (List.mem_flatMap.2 ⟨q, hq, hwrite⟩)
  rw [Scope.get?, Option.isSome_or]
  simp only [Index.scope, hshared, Bool.or_true]

/-- A link to the identifier of an entity leads to the entity exactly when the identifier is a
    payload and the name it is looked up by stands for the entity. A payload without `#` always
    leads to something, and to the entity if no other symbol that the document can see has the name,
    alone or inside the package. What is no payload is kept, marked and reported. -/
theorem link_to_uid (s : Settings) {documents : List Document} (hvalid : defect? documents = none)
    {d q : Document} (hd : d ∈ documents) (hq : q ∈ documents) {e : Entity} (he : e ∈ q.entities)
    (htrim : Text.trim e.uid = e.uid) (hquote : '"' ∉ e.uid.toList) {label : List Char}
    (hlabel : '<' ∉ label) :
    let scope := (Index.ofDocuments documents).scope d.id
    let package := d.package.toList
    let uid := e.uid.toList
    (scope.LinksTo s d.package e.uid e.uid label ↔
      (Payload.ofText? uid).isSome = true ∧
        scope.asWritten? package (scope.dotted uid) = some e.uid) ∧
    ((Payload.ofText? uid).isSome = true → '#' ∉ uid →
      ∃ found, scope.asWritten? package uid = some found ∧
        (found ≠ "" → scope.LinksTo s d.package e.uid found label)) ∧
    ((Payload.ofText? uid).isSome = true → '#' ∉ uid →
      (∀ other, Visible documents d e.uid other ∨
        Visible documents d (String.ofList (Scope.qualify package uid)) other → other = e.uid) →
      scope.LinksTo s d.package e.uid e.uid label) ∧
    (Payload.ofText? uid = none →
      scope.rewrite s d.package (String.ofList (s.link uid label)) =
        { text := String.ofList (Tag.toText s.tagName.toList
            { uid := uid, attributes := s.flag, label := label })
          resolved := 0
          findings := [.malformed d.id e.uid] }) := by
  intro scope package uid
  obtain ⟨hsound, hids⟩ := (defect?_eq_none_iff documents).1 hvalid
  have hblank : Text.isBlankText e.uid = false := (hsound q hq).entities e he
  have hindexed := get?_uid_isSome hq he hblank htrim d.id
  have htrim : Text.trimBoth uid = uid := by
    have hlist := congrArg String.toList htrim
    rwa [Text.trim, String.toList_ofList] at hlist
  have hne : uid ≠ [] := htrim ▸ Text.trimBoth_ne_nil hblank
  have hself := scope.linksTo_self_iff s d.package hne htrim hindexed hquote hlabel
  refine ⟨hself, ?_, ?_, ?_⟩
  · intro hpayload hhash
    have hwritten : (scope.asWritten? package uid).isSome = true := by
      rw [Scope.asWritten?, Option.isSome_or, String.ofList_toList, hindexed, Bool.or_true]
    obtain ⟨found, hfound⟩ := Option.isSome_iff_exists.1 hwritten
    refine ⟨found, hfound, ?_⟩
    rw [← scope.dotted_of_not_mem hhash] at hfound
    exact scope.linksTo_of_asWritten? s d.package hne htrim hquote hlabel hpayload hfound
  · intro hpayload hhash honly
    rw [hself, scope.dotted_of_not_mem hhash, Scope.asWritten?, String.ofList_toList]
    refine ⟨hpayload, ?_⟩
    -- Whichever of the two lookups answers, what it finds is visible under that name.
    cases hqualified : scope.get? (String.ofList (Scope.qualify package uid)) with
    | some found =>
      rw [honly found (.inr (visible_of_get? hids hd hqualified))]
      rfl
    | none =>
      obtain ⟨found, hfound⟩ := Option.isSome_iff_exists.1 hindexed
      rw [Option.none_or, hfound, honly found (.inl (visible_of_get? hids hd hfound))]
  · intro hpayload
    have hrewrite :=
      scope.rewrite_link_malformed s d.package hne htrim hquote hlabel hpayload
    rwa [String.ofList_toList] at hrewrite

theorem link_to_uid_elsewhere :
    let foo : Entity := { uid := "a.Foo", nameWithType := "Foo" }
    let bar : Entity := { uid := "b.Bar", nameWithType := "Bar" }
    let two : Document := { id := "two", package := "b", entities := [bar] }
    let documents := [{ id := "one", package := "a", entities := [foo] }, two]
    defect? documents = none ∧
      ((Index.ofDocuments documents).scope "two").LinksTo {} "b" "a.Foo" "a.Foo" ['x'] := by
  intro foo bar two documents
  have hvalid : defect? documents = none := by decide +kernel
  have hlabel : '<' ∉ ['x'] := by decide
  have hlinks := link_to_uid {} hvalid (d := two) (by simp [documents]) List.mem_cons_self
    (e := foo) (by simp) (by decide +kernel) (by decide) hlabel
  have honly : ∀ w ∈ two.ownWrites ++ documents.flatMap Document.sharedWrites,
      w.1 = "a.Foo" ∨ w.1 = "b.a.Foo" → w.2 = "a.Foo" := by
    decide +kernel
  have hseen {name uid : String} (h : Visible documents two name uid) :
      (name, uid) ∈ two.ownWrites ++ documents.flatMap Document.sharedWrites :=
    List.mem_append.2 (h.imp id List.mem_flatMap.2)
  have hqualified : String.ofList (Scope.qualify two.package.toList foo.uid.toList) =
      "b.a.Foo" := by
    decide +kernel
  refine ⟨hvalid, hlinks.2.2.1 (by decide +kernel) (by decide) ?_⟩
  rintro other (hname | hname)
  · exact honly _ (hseen hname) (.inl rfl)
  · exact honly _ (hseen hname) (.inr hqualified)

/-- A class without a package gives way to the one of its name in the package of the document. -/
theorem link_to_uid_of_homonym :
    ¬∀ (s : Settings) (documents : List Document) (d q : Document) (e : Entity) (label : List Char),
      defect? documents = none → d ∈ documents → q ∈ documents → e ∈ q.entities →
        Text.trim e.uid = e.uid → '"' ∉ e.uid.toList → '<' ∉ label →
        ((Index.ofDocuments documents).scope d.id).LinksTo s d.package e.uid e.uid label := by
  intro h
  let plain : Entity := { uid := "Foo", nameWithType := "Foo" }
  let packaged : Entity := { uid := "a.Foo", nameWithType := "Foo" }
  let one : Document := { id := "one", entities := [plain] }
  let two : Document := { id := "two", package := "a", entities := [packaged] }
  have hlinks := h {} [one, two] two one plain ['x'] (by decide +kernel) (by simp) (by simp)
    (by simp [one]) (by decide +kernel) (by decide) (by decide)
  have hother : (((Index.ofDocuments [one, two]).scope two.id).rewrite {} two.package
      (String.ofList (({} : Settings).link plain.uid.toList ['x']))).text ≠
        String.ofList (({} : Settings).link plain.uid.toList ['x']) := by
    decide +kernel
  exact hother hlinks.1

end Crosslink
