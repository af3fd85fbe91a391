import Crosslink.Proofs.CanonicalLinks

set_option autoImplicit false

namespace Crosslink

theorem lastWrite?_eq_some {writes : List Write} {name uid : String}
    (hmem : (name, uid) ∈ writes) (honly : ∀ w ∈ writes, w.1 = name → w.2 = uid) :
    lastWrite? writes name = some uid := by
  obtain ⟨found, hfound⟩ := Option.isSome_iff_exists.1 (lastWrite?_isSome_of_mem hmem)
  have huid : found = uid := honly (name, found) (mem_of_lastWrite? hfound) rfl
  rw [hfound, huid]

namespace Document

/-- The writes that reach the document's own table: those of its owner, and those of the others to
    names that the owner does not have. -/
def keptWrites (d : Document) : List Write :=
  d.ownerWrites ++ d.ownWrites.filter fun w => w.1 ∉ d.ownerWrites.map Prod.fst

/-- No entity, reference or part of a reference makes the name stand for another symbol. -/
def WritesOnly (d : Document) (name uid : String) : Prop :=
  ∀ w ∈ d.keptWrites, w.1 = name → w.2 = uid

instance (d : Document) (name uid : String) : Decidable (d.WritesOnly name uid) :=
  inferInstanceAs (Decidable (∀ w ∈ _, _))

theorem names_ownerWrites {d : Document} {owner : Entity} (h : d.owner? = some owner) :
    d.ownerWrites.map Prod.fst = owner.aliases := by
  simp only [ownerWrites, h, Entity.writes, List.map_map]
  exact List.map_id _

theorem WritesOnly.lastWrite?_ownWrites {d : Document} {name uid : String}
    (h : d.WritesOnly name uid) (howner : name ∉ d.ownerWrites.map Prod.fst)
    (hmem : (name, uid) ∈ d.ownWrites) : lastWrite? d.ownWrites name = some uid := by
  apply lastWrite?_eq_some hmem
  intro w hw hname
  have hkept : w.1 ∉ d.ownerWrites.map Prod.fst := by rwa [hname]
  exact h w (List.mem_append_right _ (List.mem_filter.2 ⟨hw, decide_eq_true hkept⟩)) hname

theorem WritesOnly.get?_nameTable {d : Document} {e : Entity} {name : String}
    (h : d.WritesOnly name e.uid) (he : e ∈ d.entities) (hname : name ∈ e.aliases) :
    d.nameTable.get? name = some e.uid := by
  have hwrite : (name, e.uid) ∈ e.writes := List.mem_map_of_mem hname
  have hother (hmem : e ∈ d.otherEntities) (howner : name ∉ d.ownerWrites.map Prod.fst) :
      lastWrite? d.ownWrites name = some e.uid :=
    h.lastWrite?_ownWrites howner
      (List.mem_append_left _ (List.mem_flatMap.2 ⟨e, hmem, hwrite⟩))
  rw [d.get?_nameTable]
  rcases (d.mem_entities_iff e).1 he with howner | hmem
  · simp only [howner, if_pos hname]
  · cases howner : d.owner? with
    | none => exact hother hmem (by simp [ownerWrites, howner])
    | some owner =>
      simp only
      split
      · rename_i hshared
        -- The name is an alias of both, so that the owner has the same identifier.
        have hown : (name, owner.uid) ∈ d.ownerWrites := by
          rw [ownerWrites, howner]
          exact List.mem_map_of_mem hshared
        exact congrArg some (h _ (List.mem_append_left _ hown) rfl)
      · rename_i hnot
        exact hother hmem (by rwa [names_ownerWrites howner])

end Document

namespace Scope

/-- Neither the document's own table nor the shared one has the name stand for another symbol. -/
def Spares (s : Scope) (name uid : String) : Prop :=
  ∀ other, s.own.bind (·.get? name) = some other ∨ s.shared.get? name = some other → other = uid

instance (s : Scope) (name uid : String) : Decidable (s.Spares name uid) :=
  decidable_of_iff
    (∀ other ∈ (s.own.bind (·.get? name)).toList ++ (s.shared.get? name).toList, other = uid)
    (by simp only [Spares, List.mem_append, Option.mem_toList])

theorem Spares.eq_of_get? {s : Scope} {name uid other : String} (h : s.Spares name uid)
    (hfound : s.get? name = some other) : other = uid := by
  rcases Option.or_eq_some_iff.1 hfound with hown | ⟨-, hshared⟩
  · exact h other (.inl hown)
  · exact h other (.inr hshared)

theorem asWritten?_eq_some {s : Scope} {package cs : List Char} {uid : String}
    (hspared : s.Spares (String.ofList (package ++ '.' :: cs)) uid)
    (hfound : s.get? (String.ofList cs) = some uid) : s.asWritten? package cs = some uid := by
  rw [asWritten?, hfound, qualify]
  split
  · rw [hfound]
    rfl
  · cases hqualified : s.get? (String.ofList (package ++ '.' :: cs)) with
    | none => rfl
    | some other => rw [hspared.eq_of_get? hqualified]; rfl

end Scope

theorem Entity.ne_nil_of_mem_aliases {e : Entity} {name : String} (h : name ∈ e.aliases) :
    name.toList ≠ [] ∧ Text.trimBoth name.toList = name.toList := by
  obtain ⟨form, -, halias⟩ := List.mem_filterMap.1 h
  rw [AliasForm.alias?_eq] at halias
  split at halias
  · cases halias
  · rename_i hne
    cases halias
    rw [String.toList_ofList]
    exact ⟨hne, Text.trimBoth_trimBoth _⟩

/-- A link to an alias leads to its entity if the name it is looked up by is an alias of the entity
    that the document writes for no other symbol. -/
theorem resolve_alias {documents : List Document} (hvalid : defect? documents = none) {d : Document}
    (hd : d ∈ documents) {e : Entity} (he : e ∈ d.entities) {name spelled : String}
    (hname : name ∈ e.aliases) (hspelled : spelled ∈ e.aliases)
    (honly : d.WritesOnly spelled e.uid) :
    let scope := (Index.ofDocuments documents).scope d.id
    scope.dotted name.toList = spelled.toList →
      scope.Spares (String.ofList (d.package.toList ++ '.' :: spelled.toList)) e.uid →
      scope.resolve d.package.toList name.toList = e.uid := by
  intro scope hdotted hspared
  obtain ⟨-, hids⟩ := (defect?_eq_none_iff documents).1 hvalid
  obtain ⟨hne, htrim⟩ := Entity.ne_nil_of_mem_aliases hname
  have hfound : scope.get? (String.ofList spelled.toList) = some e.uid := by
    have hscope : scope = _ := Index.scope_ofDocuments hids hd
    rw [String.ofList_toList, hscope, Scope.get?, Option.bind_some,
      honly.get?_nameTable he hspelled, Option.some_or]
  rw [scope.resolve_eq _ hne htrim, hdotted, Scope.asWritten?_eq_some hspared hfound]
  rfl

/-- In its document an alias without `#` leads to its entity, unless another symbol has taken it
    there or inside the package. An alias with a `#` does so by its spelling with dots, behind the
    owner where the `#` stands first, if that is an alias that no other symbol has taken. -/
theorem alias_links_to_entity {documents : List Document} (hvalid : defect? documents = none)
    {d : Document} (hd : d ∈ documents) {e : Entity} (he : e ∈ d.entities) {name : String}
    (hname : name ∈ e.aliases) :
    let scope := (Index.ofDocuments documents).scope d.id
    let package := d.package.toList
    ('#' ∉ name.toList → d.WritesOnly name e.uid →
      scope.Spares (String.ofList (package ++ '.' :: name.toList)) e.uid →
      scope.resolve package name.toList = e.uid) ∧
    ('#' ∈ name.toList → ∀ spelled ∈ e.aliases, scope.dotted name.toList = spelled.toList →
      d.WritesOnly spelled e.uid →
      scope.Spares (String.ofList (package ++ '.' :: spelled.toList)) e.uid →
      scope.resolve package name.toList = e.uid) := by
  intro scope package
  constructor
  · intro hhash honly hspared
    exact resolve_alias hvalid hd he hname hname honly (scope.dotted_of_not_mem hhash) hspared
  · intro _ spelled hspelled hdotted honly hspared
    exact resolve_alias hvalid hd he hname hspelled honly hdotted hspared

/-- A signature without its package, which another document has for another symbol, and a spelling
    with a `#` whose form with a dot is an alias too. -/
theorem alias_links_to_entity_by_signature :
    let map : Entity := { uid := "a.Map", nameWithType := "Map" }
    let put : Entity := { uid := "a.Map.put(b.K,b.V)", nameWithType := "Map#put(b.K,b.V)" }
    let other : Entity := { uid := "c.Map.put(b.K,b.V)", nameWithType := "Map.put(b.K, b.V)" }
    let d : Document := { id := "d", package := "a", entities := [map, put] }
    let documents := [d, { id := "e", package := "c", entities := [other] }]
    let scope := (Index.ofDocuments documents).scope d.id
    defect? documents = none ∧ scope.shared.get? "Map.put(b.K, b.V)" = some other.uid ∧
      scope.resolve d.package.toList "Map.put(b.K, b.V)".toList = put.uid ∧
      scope.resolve d.package.toList "Map#put(b.K,b.V)".toList = put.uid := by
  intro map put other d documents scope
  have hvalid : defect? documents = none := by decide +kernel
  have hd : d ∈ documents := List.mem_cons_self
  have hput : put ∈ d.entities := List.mem_cons_of_mem _ List.mem_cons_self
  have hdotted : "Map.put(b.K,b.V)" ∈ put.aliases := by decide +kernel
  obtain ⟨hplain, -⟩ := alias_links_to_entity hvalid hd hput
    (show "Map.put(b.K, b.V)" ∈ put.aliases by decide +kernel)
  obtain ⟨-, hhash⟩ := alias_links_to_entity hvalid hd hput
    (show "Map#put(b.K,b.V)" ∈ put.aliases by decide +kernel)
  refine ⟨hvalid, by decide +kernel, ?_, ?_⟩
  · exact hplain (by decide) (by decide +kernel) (by decide +kernel)
  · exact hhash (by decide) _ hdotted (by decide +kernel) (by decide +kernel) (by decide +kernel)

/-- A place inside a page is an alias that no link reaches: its `#` is taken for a dot. -/
theorem alias_links_to_entity_not_by_fragment :
    ¬∀ (documents : List Document) (d : Document) (e : Entity) (name : String),
      let scope := (Index.ofDocuments documents).scope d.id
      defect? documents = none → d ∈ documents → e ∈ d.entities → name ∈ e.aliases →
        d.WritesOnly name e.uid →
        scope.Spares (String.ofList (d.package.toList ++ '.' :: name.toList)) e.uid →
        scope.resolve d.package.toList name.toList = e.uid := by
  intro h
  let foo : Entity := { uid := "a.Foo", nameWithType := "Foo", href := some "foo.html#top" }
  let d : Document := { id := "d", package := "a", entities := [foo] }
  have hresolve := h [d] d foo "foo.html#top" (by decide +kernel) List.mem_cons_self
    List.mem_cons_self (by decide +kernel) (by decide +kernel) (by decide +kernel)
  exact absurd hresolve (by decide +kernel)

end Crosslink
