import Crosslink.Proofs.Defects
import Crosslink.Proofs.RunLinks

set_option autoImplicit false

/-!
What a document can notice of the others. It sees their shared names only, and these depend on the
identifiers, display forms and places of their entities, on the types these declare, and on the
identifiers of their references. Two runs in which the others agree on that much compile the
document alike and report the same about it; texts, statuses, packages and the parts of compound
references never reach another document.
-/

namespace Crosslink

def Entity.types (e : Entity) : List String := (e.declaration.map Declaration.types).getD []

structure Entity.Alike (e q : Entity) : Prop where
  uid : e.uid = q.uid
  nameWithType : e.nameWithType = q.nameWithType
  href : e.href = q.href
  isOwner : e.isOwner = q.isOwner
  types : e.types = q.types

theorem Entity.Alike.face {e q : Entity} (h : e.Alike q) : e.face = q.face := by
  unfold Entity.face
  rw [h.uid, h.nameWithType, h.href, h.isOwner]

theorem map_eq_of_forall₂ {α β : Type} {R : α → α → Prop} {f : α → β}
    (hf : ∀ a b, R a b → f a = f b) {first second : List α} (h : List.Forall₂ R first second) :
    first.map f = second.map f := by
  induction h with
  | nil => rfl
  | cons hab _ ih => rw [List.map_cons, List.map_cons, hf _ _ hab, ih]

namespace Document

/-- Two documents that other documents cannot tell apart. -/
structure Alike (d q : Document) : Prop where
  id : d.id = q.id
  entities : List.Forall₂ Entity.Alike d.entities q.entities
  references : List.Forall₂ (fun r t => r.uid = t.uid) d.references q.references

theorem sharedWrites_congr {d q : Document}
    (hentities : d.entities.map Entity.face = q.entities.map Entity.face)
    (hreferences : d.references.map Reference.uid = q.references.map Reference.uid) :
    d.sharedWrites = q.sharedWrites := by
  have hfaces : d.face.entities = q.face.entities := hentities
  have howner : d.face.ownerWrites = q.face.ownerWrites := by
    unfold ownerWrites owner?
    rw [hfaces]
  have hothers : d.face.otherEntities = q.face.otherEntities := by
    unfold otherEntities ownerPosition?
    rw [hfaces]
  have huids (p : Document) : p.face.references.map (fun r => (r.uid, r.uid)) =
      (p.references.map Reference.uid).map fun uid => (uid, uid) := by
    rw [List.map_map]
    rfl
  rw [← sharedWrites_face, ← sharedWrites_face q, sharedWrites, sharedWrites, howner, hothers,
    huids, huids, hreferences]

theorem declaredTypes_eq (d : Document) :
    d.declaredTypes = ((d.entities.flatMap Entity.types).map Text.trim).filter
      fun uid => uid.toList.contains '.' := by
  have htypes : (d.entities.filterMap Entity.declaration).flatMap Declaration.types =
      d.entities.flatMap Entity.types := by
    induction d.entities with
    | nil => rfl
    | cons e entities ih =>
      rw [List.filterMap_cons, List.flatMap_cons, ← ih]
      cases hdeclaration : e.declaration <;> simp [Entity.types, hdeclaration]
  rw [declaredTypes, htypes]

theorem Alike.sharedWrites_mentionTypes {d q : Document} (h : d.Alike q) :
    d.mentionTypes.sharedWrites = q.mentionTypes.sharedWrites := by
  have huids : d.entities.map Entity.uid = q.entities.map Entity.uid :=
    map_eq_of_forall₂ (fun _ _ he => he.uid) h.entities
  have hreferences : d.references.map Reference.uid = q.references.map Reference.uid :=
    map_eq_of_forall₂ (fun _ _ hr => hr) h.references
  have hknown : d.knownUids = q.knownUids := by rw [knownUids, huids, hreferences, knownUids]
  have htypes : d.declaredTypes = q.declaredTypes := by
    rw [declaredTypes_eq, declaredTypes_eq, List.flatMap_def, List.flatMap_def,
      map_eq_of_forall₂ (fun _ _ he => he.types) h.entities]
  apply sharedWrites_congr
  · exact map_eq_of_forall₂ (fun _ _ he => he.face) h.entities
  · simp only [mentionTypes, List.map_append, List.map_map, hreferences, hknown, htypes]

end Document

theorem scope_eq_of_alike {before after before' after' : List Document} {d : Document}
    (hfirst : ((before ++ d :: after).map Document.id).Nodup)
    (hsecond : ((before' ++ d :: after').map Document.id).Nodup)
    (hbefore : List.Forall₂ Document.Alike before before')
    (hafter : List.Forall₂ Document.Alike after after') :
    (Index.ofDocuments ((before ++ d :: after).map Document.mentionTypes)).scope d.id =
      (Index.ofDocuments ((before' ++ d :: after').map Document.mentionTypes)).scope d.id := by
  have hwrites {first second : List Document} (h : List.Forall₂ Document.Alike first second) :
      (first.map Document.mentionTypes).map Document.sharedWrites =
        (second.map Document.mentionTypes).map Document.sharedWrites := by
    rw [List.map_map, List.map_map]
    exact map_eq_of_forall₂ (fun _ _ hd => hd.sharedWrites_mentionTypes) h
  have hshared : (Index.ofDocuments ((before ++ d :: after).map Document.mentionTypes)).shared =
      (Index.ofDocuments ((before' ++ d :: after').map Document.mentionTypes)).shared := by
    apply Index.shared_congr
    simp only [List.map_append, List.map_cons, hwrites hbefore, hwrites hafter]
  rw [scope_mentionTypes hfirst (by simp), scope_mentionTypes hsecond (by simp), hshared]

theorem getElem?_compileValid (s : Settings) (classifier : Classifier)
    (before after : List Document) (d : Document) :
    (compileValid s classifier (before ++ d :: after)).documents[before.length]? =
      some (((d.prepare s classifier).rewrite s
        (Index.ofDocuments ((before ++ d :: after).map Document.mentionTypes))).expand s) := by
  simp only [compileValid, Index.ofDocuments_prepare, List.map_map]
  rw [List.getElem?_map, List.getElem?_append_right (Nat.le_refl _), Nat.sub_self,
    List.getElem?_cons_zero, Option.map_some]
  rfl

namespace Document

theorem rewrite_prepare_congr (s : Settings) (classifier : Classifier) {i j : Index} {d : Document}
    (h : i.scope d.id = j.scope d.id) :
    (d.prepare s classifier).rewrite s i = (d.prepare s classifier).rewrite s j := by
  unfold rewrite
  rw [prepare_id, h]

theorem reports_congr (s : Settings) {i j : Index} {d : Document}
    (h : i.scope d.id = j.scope d.id) : d.reports s i = d.reports s j := by
  unfold reports verdict
  rw [h]

end Document

/-- Two runs over lists in which one document is the same and the others are alike compile that
    document to the same one and report the same about it. -/
theorem compile_ignores_other_texts (s : Settings) (classifier : Classifier)
    {before after before' after' : List Document} {d : Document}
    (hfirst : defect? (before ++ d :: after) = none)
    (hsecond : defect? (before' ++ d :: after') = none)
    (hbefore : List.Forall₂ Document.Alike before before')
    (hafter : List.Forall₂ Document.Alike after after') :
    ∃ first second,
      compile s classifier (before ++ d :: after) = .ok first ∧
      compile s classifier (before' ++ d :: after') = .ok second ∧
      (∃ q, first.documents[before.length]? = some q ∧ second.documents[before.length]? = some q) ∧
      first.findingsOf d.id = second.findingsOf d.id := by
  have hids := ((defect?_eq_none_iff _).1 hfirst).2
  have hids' := ((defect?_eq_none_iff _).1 hsecond).2
  have hscope := scope_eq_of_alike hids hids' hbefore hafter
  refine ⟨compileValid s classifier (before ++ d :: after),
    compileValid s classifier (before' ++ d :: after'),
    (compile_eq_ok_iff _ _ _ _).2 ⟨hfirst, rfl⟩,
    (compile_eq_ok_iff _ _ _ _).2 ⟨hsecond, rfl⟩, ?_, ?_⟩
  · have hlength : before.length = before'.length := hbefore.length_eq
    refine ⟨_, getElem?_compileValid s classifier before after d, ?_⟩
    rw [hlength, getElem?_compileValid, Document.rewrite_prepare_congr s classifier hscope]
  · rw [findingsOf_compileValid s classifier hids (by simp),
      findingsOf_compileValid s classifier hids' (by simp), Document.reports_congr s hscope]

theorem compile_ignores_foreign_parts :
    let d : Document :=
      { id := "d", entities := [{ uid := "a.D", summary := some "[x](Item) [y](b.List)" }] }
    let other (parts : List Part) (summary : String) : Document :=
      { id := "e", package := summary, entities := [{ uid := "b.E", summary := some summary }],
        references := [{ uid := "b.List", parts := parts }] }
    let part : Part := { uid := some "b.Item", name := "Item", fullName := "b.Item" }
    ∃ first second,
      compile {} .silent [other [part] "[x](Item)", d] = .ok first ∧
      compile {} .silent [other [] "nothing", d] = .ok second ∧
      first.findingsOf "d" = [.unresolved "d" "Item"] ∧
      first.documents[1]? = second.documents[1]? ∧
      first.findingsOf "d" = second.findingsOf "d" := by
  intro d other part
  have halike : (other [part] "[x](Item)").Alike (other [] "nothing") :=
    ⟨rfl, .cons ⟨rfl, rfl, rfl, rfl, rfl⟩ .nil, .cons rfl .nil⟩
  have hfirst : defect? ([other [part] "[x](Item)"] ++ d :: []) = none := by decide +kernel
  have hsecond : defect? ([other [] "nothing"] ++ d :: []) = none := by decide +kernel
  obtain ⟨first, second, hone, htwo, ⟨q, hq, hq'⟩, hfindings⟩ :=
    compile_ignores_other_texts {} .silent hfirst hsecond (.cons halike .nil) .nil
  refine ⟨first, second, hone, htwo, ?_, hq.trans hq'.symm, hfindings⟩
  obtain ⟨_, rfl⟩ := (compile_eq_ok_iff _ _ _ _).1 hone
  decide +kernel

end Crosslink
