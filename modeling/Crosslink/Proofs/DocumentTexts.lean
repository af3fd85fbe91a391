import Crosslink.Document

set_option autoImplicit false

namespace Crosslink

namespace Declaration

theorem mapTexts_mapTexts (f g : String → String) (d : Declaration) :
    (d.mapTexts f).mapTexts g = d.mapTexts (g ∘ f) := by
  simp [mapTexts, Function.comp_def]

theorem texts_mapTexts (f : String → String) (d : Declaration) :
    (d.mapTexts f).texts = d.texts.map f := by
  have hreturns : ((d.returns.map fun r => { r with description := r.description.map f }).bind
      ReturnValue.description).toList = (d.returns.bind ReturnValue.description).toList.map f := by
    cases d.returns with
    | none => rfl
    | some r => cases hr : r.description <;> simp [hr]
  simp only [texts, mapTexts, List.filterMap_map, List.map_append, List.map_filterMap, hreturns]
  rfl

theorem types_mapTexts (f : String → String) (d : Declaration) :
    (d.mapTexts f).types = d.types := by
  have hreturns : ((d.returns.map fun r => { r with description := r.description.map f }).bind
      ReturnValue.type).toList = (d.returns.bind ReturnValue.type).toList := by
    cases d.returns with
    | none => rfl
    | some r => rfl
  simp only [types, mapTexts, List.filterMap_map, List.map_map, hreturns]
  rfl

theorem mapTexts_congr {f g : String → String} {d : Declaration}
    (h : ∀ text ∈ d.texts, f text = g text) : d.mapTexts f = d.mapTexts g := by
  simp only [texts, List.mem_append, List.mem_filterMap, Option.mem_toList,
    Option.bind_eq_some_iff] at h
  unfold mapTexts
  congr 1
  · apply List.map_congr_left
    intro p hp
    cases hd : p.description with
    | none => rfl
    | some text => simp [h text (.inl (.inl ⟨p, hp, hd⟩))]
  · cases hr : d.returns with
    | none => rfl
    | some r =>
      cases hd : r.description with
      | none => simp [hd]
      | some text => simp [hd, h text (.inl (.inr ⟨r, hr, hd⟩))]
  · apply List.map_congr_left
    intro e he
    cases hd : e.description with
    | none => rfl
    | some text => simp [h text (.inr ⟨e, he, hd⟩)]

theorem mapTexts_id (d : Declaration) : d.mapTexts (fun text => text) = d := by
  simp [mapTexts]

end Declaration

namespace Entity

theorem mapTexts_mapTexts (f g : String → String) (e : Entity) :
    (e.mapTexts f).mapTexts g = e.mapTexts (g ∘ f) := by
  simp [mapTexts, Function.comp_def, Declaration.mapTexts_mapTexts]

theorem texts_mapTexts (f : String → String) (e : Entity) :
    (e.mapTexts f).texts = e.texts.map f := by
  unfold texts mapTexts
  cases e.summary <;> cases e.declaration <;> simp [Declaration.texts_mapTexts]

theorem mapTexts_congr {f g : String → String} {e : Entity}
    (h : ∀ text ∈ e.texts, f text = g text) : e.mapTexts f = e.mapTexts g := by
  unfold texts at h
  unfold mapTexts
  congr 1
  · cases hs : e.summary with
    | none => rfl
    | some text => simp [h text (by simp [hs])]
  · cases hd : e.declaration with
    | none => rfl
    | some d =>
      have hcongr : d.mapTexts f = d.mapTexts g :=
        Declaration.mapTexts_congr fun text ht => h text (by simp [hd, ht])
      simp [hcongr]

theorem mapTexts_id (e : Entity) : e.mapTexts (fun text => text) = e := by
  have hid : Declaration.mapTexts (fun text => text) = fun d => d :=
    funext Declaration.mapTexts_id
  simp [mapTexts, hid]

end Entity

namespace Document

theorem mapTexts_mapTexts (f g : String → String) (d : Document) :
    (d.mapTexts f).mapTexts g = d.mapTexts (g ∘ f) := by
  simp [mapTexts, Function.comp_def, Entity.mapTexts_mapTexts]

theorem texts_mapTexts (f : String → String) (d : Document) :
    (d.mapTexts f).texts = d.texts.map f := by
  simp [texts, mapTexts, List.flatMap_map, List.map_flatMap, Entity.texts_mapTexts]

theorem mapTexts_congr {f g : String → String} {d : Document}
    (h : ∀ text ∈ d.texts, f text = g text) : d.mapTexts f = d.mapTexts g := by
  unfold mapTexts
  congr 1
  apply List.map_congr_left
  intro e he
  exact Entity.mapTexts_congr fun text ht => h text (List.mem_flatMap.2 ⟨e, he, ht⟩)

theorem mapTexts_eq_self {f : String → String} {d : Document}
    (h : ∀ text ∈ d.texts, f text = text) : d.mapTexts f = d := by
  have hid : d.mapTexts f = d.mapTexts fun text => text := mapTexts_congr h
  have hentity : Entity.mapTexts (fun text => text) = fun e => e := funext Entity.mapTexts_id
  rw [hid, mapTexts, hentity, List.map_id']

end Document

end Crosslink
