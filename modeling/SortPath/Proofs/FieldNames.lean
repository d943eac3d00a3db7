import Mathlib.Data.Finset.Card
import SortPath.Proofs.HiddenFields

/-!
# External names and the fields behind them

The flat mapping of a model is written field by field, and a name that is written again silently leads to
another property from then on. This happens easily, since aliases, the names of a strategy and plain names
all stand in one table. Reverse lookup searches the same table for the name of a property: what was
overwritten is lost in both directions, and what is left is one to one, because no two fields of a model
have one name.

`Shadowed m byAlias f` says that a later field takes the external name of `f` over, and `Names m byAlias x f`
which field keeps the name `x`.

Results:
* `Table.size_ofList`: how many entries a table has.
* `Registry.property?_flat_iff`, `Registry.fieldName?_flat_iff`: both lookups are read off `Names`.
* `Registry.fieldName?_flat_inverse`: they undo each other; a shadowed field is lost to both.
-/
namespace SortPath

theorem Table.size_ofList {κ α : Type} [DecidableEq κ] (es : List (κ × α)) :
    (ofList es).size = (es.map Prod.fst).toFinset.card := by
  have hkeys : (ofList es).keys.toFinset = (es.map Prod.fst).toFinset := by
    ext k
    rw [List.mem_toFinset, List.mem_toFinset, ← contains_iff, contains, get?_ofList_isSome_iff]
    simp
  rw [← hkeys, List.toFinset_card_of_nodup (keys_nodup _), keys, List.length_map, size]

/-! ## Which field keeps a name -/

namespace Model

variable {m : Model} {byAlias : Bool} {f g : Field} {x y : String}

/-- A later serialized field of the model has the external name of the field. -/
def Shadowed (m : Model) (byAlias : Bool) (f : Field) : Prop :=
  ∃ g, [f, g].Sublist m.fields ∧ m.Serializes g ∧
    g.externalName m.strategy? byAlias = f.externalName m.strategy? byAlias

/-- The field is the last one to be serialized under the external name. -/
structure Names (m : Model) (byAlias : Bool) (x : String) (f : Field) : Prop where
  serialized : m.Serializes f
  external : f.externalName m.strategy? byAlias = x
  last : ¬m.Shadowed byAlias f

/-- The serialized fields that come later are those that are declared later. -/
theorem sublist_visible_iff (hf : m.Serializes f) :
    [f, g].Sublist m.visible ↔ [f, g].Sublist m.fields ∧ m.Serializes g := by
  constructor
  · intro h
    exact ⟨h.trans List.filter_sublist, mem_visible_iff.1 (h.subset (by simp))⟩
  · intro h
    obtain ⟨h, hg⟩ := h
    unfold visible
    have hfilter := h.filter fun f => !f.isTransient && !f.options.excluded
    simpa [hf.stored, hf.shown, hg.stored, hg.shown] using hfilter

theorem nodup_fields (m : Model) : m.fields.Nodup := m.nodup.of_map _

theorem eq_of_name_eq (hf : f ∈ m.fields) (hg : g ∈ m.fields) (h : f.name = g.name) : f = g :=
  List.inj_on_of_nodup_map m.nodup hf hg h

theorem Names.name_eq_of_field_name_eq (hf : m.Names byAlias x f) (hg : m.Names byAlias y g)
    (h : f.name = g.name) : x = y := by
  obtain rfl := eq_of_name_eq hf.serialized.mem hg.serialized.mem h
  exact hf.external.symm.trans hg.external

/-- Without aliases every field has its own name. -/
theorem not_shadowed_false (m : Model) (f : Field) : ¬m.Shadowed false f := by
  intro h
  obtain ⟨g, hlater, -, hname⟩ := h
  obtain rfl := eq_of_name_eq (hlater.subset (by simp)) (hlater.subset (by simp)) hname
  exact absurd (hlater.nodup m.nodup_fields) (by simp)

theorem Serializes.property?_name (hf : m.Serializes f) : m.entity.property? f.name = some f.property := by
  unfold Entity.property?
  cases h : m.entity.properties.find? (·.name = f.name) with
  | none =>
    have hno := List.find?_eq_none.1 h f.property hf.property_mem
    exact absurd rfl (by simpa using hno : f.property.name ≠ f.name)
  | some p =>
    obtain ⟨g, hg, rfl⟩ := List.mem_map.1 (List.mem_of_find?_eq_some h)
    have hname : g.property.name = f.name := by simpa using List.find?_some h
    rw [eq_of_name_eq (List.mem_of_mem_filter hg) hf.mem hname]

end Model

/-! ## Both lookups -/

namespace Registry

variable {r : Registry} {byAlias : Bool} {t : TypeExpr} {m : Model} {x n : String} {p : Property TypeExpr}

theorem flat_eq_map_visible (hm : r.model? t = some m) : r.flat byAlias m.entity =
    .ofList (m.visible.map fun f => (f.externalName m.strategy? byAlias, f.property)) := by
  rw [flat_of_model? hm, Model.exposed_eq_map_visible, List.map_map]
  rfl

/-- An external name leads to the property of the field that keeps it. -/
theorem property?_flat_iff (hm : r.model? t = some m) :
    (r.flat byAlias m.entity).property? x = some p ↔ ∃ f, m.Names byAlias x f ∧ p = f.property := by
  have hn : m.visible.Nodup := List.filter_sublist.nodup m.nodup_fields
  rw [flat_eq_map_visible hm, FlatMapping.property?, FlatMapping.ofList,
    Table.get?_ofList_map_eq_some_iff hn]
  constructor
  · intro h
    obtain ⟨f, hf, rfl, rfl, hlast⟩ := h
    rw [Model.mem_visible_iff] at hf
    refine ⟨f, ⟨hf, rfl, ?_⟩, rfl⟩
    intro hshadowed
    obtain ⟨g, hlater, hg, hname⟩ := hshadowed
    exact hlast g ((Model.sublist_visible_iff hf).2 ⟨hlater, hg⟩) hname
  · intro h
    obtain ⟨f, ⟨hf, rfl, hlast⟩, rfl⟩ := h
    refine ⟨f, Model.mem_visible_iff.2 hf, rfl, rfl, fun g hlater hname => hlast ?_⟩
    obtain ⟨hlater, hg⟩ := (Model.sublist_visible_iff hf).1 hlater
    exact ⟨g, hlater, hg, hname⟩

/-- The name of a property leads back to the external name that its field keeps. -/
theorem fieldName?_flat_iff (hm : r.model? t = some m) :
    (r.flat byAlias m.entity).fieldName? n = some x ↔ ∃ f, m.Names byAlias x f ∧ f.name = n := by
  rw [FlatMapping.fieldName?_eq_some_iff]
  · simp only [property?_flat_iff hm]
    constructor
    · intro h
      obtain ⟨_, ⟨f, hf, rfl⟩, hname⟩ := h
      exact ⟨f, hf, hname⟩
    · intro h
      obtain ⟨f, hf, hname⟩ := h
      exact ⟨f.property, ⟨f, hf, rfl⟩, hname⟩
  · -- names that lead to properties of one name are those of one field
    intro x y p q hp hq hname
    obtain ⟨f, hf, rfl⟩ := (property?_flat_iff hm).1 hp
    obtain ⟨g, hg, rfl⟩ := (property?_flat_iff hm).1 hq
    exact hf.name_eq_of_field_name_eq hg hname

theorem fieldName?_name_iff (hm : r.model? t = some m) {f : Field} (hf : f ∈ m.fields) :
    (r.flat byAlias m.entity).fieldName? f.name = some x ↔ m.Names byAlias x f := by
  rw [fieldName?_flat_iff hm]
  constructor
  · intro h
    obtain ⟨g, hg, hname⟩ := h
    obtain rfl := Model.eq_of_name_eq hg.serialized.mem hf hname
    exact hg
  · intro h
    exact ⟨f, h, rfl⟩

/-- **Reverse lookup.** In the flat mapping of a registered model the two lookups undo each other. A field
has an external name exactly if it is serialized and not shadowed; if it is shadowed, it has none and no
name leads to it. There are as many names as are different, and without aliases every serialized field has
its own. -/
theorem fieldName?_flat_inverse (hm : r.model? t = some m) (byAlias : Bool) :
    (∀ x p, (r.flat byAlias m.entity).property? x = some p →
      (r.flat byAlias m.entity).fieldName? p.name = some x) ∧
    (∀ n x, (r.flat byAlias m.entity).fieldName? n = some x →
      ∃ p, m.entity.property? n = some p ∧ p.name = n ∧ (r.flat byAlias m.entity).property? x = some p) ∧
    (∀ f ∈ m.fields, ∀ x, (r.flat byAlias m.entity).fieldName? f.name = some x ↔
      m.Serializes f ∧ ¬m.Shadowed byAlias f ∧ f.externalName m.strategy? byAlias = x) ∧
    (∀ f, m.Serializes f → m.Shadowed byAlias f →
      (r.flat byAlias m.entity).fieldName? f.name = none ∧
        ∀ x p, (r.flat byAlias m.entity).property? x = some p → p.name ≠ f.name) ∧
    (r.flat byAlias m.entity).size =
      (m.visible.map (·.externalName m.strategy? byAlias)).toFinset.card ∧
    ∀ f, m.Serializes f → (r.flat false m.entity).fieldName? f.name = some f.name := by
  have hback : ∀ x p, (r.flat byAlias m.entity).property? x = some p →
      (r.flat byAlias m.entity).fieldName? p.name = some x := by
    intro x p hp
    obtain ⟨f, hf, rfl⟩ := (property?_flat_iff hm).1 hp
    exact (fieldName?_flat_iff hm).2 ⟨f, hf, rfl⟩
  have hlost : ∀ f, m.Serializes f → m.Shadowed byAlias f →
      (r.flat byAlias m.entity).fieldName? f.name = none := by
    intro f hf hshadowed
    rw [Option.eq_none_iff_forall_ne_some]
    intro x hx
    exact ((fieldName?_name_iff hm hf.mem).1 hx).last hshadowed
  refine ⟨hback, ?_, ?_, ?_, ?_, ?_⟩
  · intro n x h
    obtain ⟨f, hf, rfl⟩ := (fieldName?_flat_iff hm).1 h
    exact ⟨f.property, hf.serialized.property?_name, rfl, (property?_flat_iff hm).2 ⟨f, hf, rfl⟩⟩
  · intro f hf x
    rw [fieldName?_name_iff hm hf]
    exact ⟨fun h => ⟨h.serialized, h.last, h.external⟩, fun h => ⟨h.1, h.2.2, h.2.1⟩⟩
  · intro f hf hshadowed
    refine ⟨hlost f hf hshadowed, fun x p hp hname => ?_⟩
    have hfound := hback x p hp
    rw [hname, hlost f hf hshadowed] at hfound
    cases hfound
  · rw [flat_eq_map_visible hm, FlatMapping.size, FlatMapping.ofList, Table.size_ofList, List.map_map]
    rfl
  · intro f hf
    rw [fieldName?_name_iff hm hf.mem]
    exact ⟨hf, rfl, m.not_shadowed_false f⟩

end Registry

/-! ## A sample: two fields called name -/

namespace Sample

/-- The title of a badge is serialized under the name of a later field. -/
def badge : Model :=
  ⟨"Badge", "desk", none,
    [Field.named (field "title" text) "name", field "name" text, Field.named (field "code" text) "no"],
    by decide⟩

theorem fieldName?_flat_inverse_badge :
    (Models.registered [badge] "Badge").model? (.model "Badge") = some badge ∧
    ((Models.registered [badge] "Badge").flat true badge.entity).fieldName? "title" = none ∧
    ((Models.registered [badge] "Badge").flat true badge.entity).fieldName? "name" = some "name" ∧
    ((Models.registered [badge] "Badge").flat true badge.entity).fieldName? "code" = some "no" ∧
    ((Models.registered [badge] "Badge").flat true badge.entity).size = 2 ∧
    ((Models.registered [badge] "Badge").flat false badge.entity).fieldName? "title" = some "title" := by
  have hm : (Models.registered [badge] "Badge").model? (.model "Badge") = some badge :=
    model?_registered rfl
  obtain ⟨hback, -, -, hshadowed, hsize, hplain⟩ := Registry.fieldName?_flat_inverse hm true
  have htitle : badge.Serializes (Field.named (field "title" text) "name") :=
    ⟨List.mem_cons_self .., rfl, rfl⟩
  have hname : badge.Serializes (field "name" text) :=
    ⟨List.mem_cons_of_mem _ (List.mem_cons_self ..), rfl, rfl⟩
  have hlost : badge.Shadowed true (Field.named (field "title" text) "name") :=
    ⟨field "name" text, List.sublist_append_left [_, _] _, hname, rfl⟩
  refine ⟨hm, (hshadowed _ htitle hlost).1, ?_, ?_, ?_, hplain _ htitle⟩
  · exact hback "name" (field "name" text).property rfl
  · exact hback "no" (field "code" text).property rfl
  · rw [hsize]; rfl

end Sample

end SortPath
