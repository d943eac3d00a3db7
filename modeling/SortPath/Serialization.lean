import SortPath.Registry
import SortPath.Resolution

/-!
# External names of registered models

The flat mapping of a model leads from the external names of its serialized properties to the
properties. The wrapped mapping leads from the names of inlined fields to the chains of properties down
to them: a field is inlined through every stack of unwrapped fields in which no type encloses itself,
and each unwrapped field puts its texts around the names that it inlines.

Results:
* `exists_field_of_mem_exposed`, `exists_field_of_mem_flat`: serialized properties come from the fields of
  declared models.
* `available_induction`: the induction that follows the walk down unwrapped fields.
* `mem_inlined_iff`: what each serialized property contributes to the wrapped mapping.
-/
namespace SortPath

namespace Registry

/-- The serialized properties of a type, which are none for anything but a model. -/
def exposed (r : Registry) (byAlias : Bool) (t : TypeExpr) : List Model.Exposed :=
  ((r.models.ofType? t).map (·.exposed byAlias)).getD []

theorem exists_field_of_mem_exposed {r : Registry} {byAlias : Bool} {t : TypeExpr} {x : Model.Exposed}
    (h : x ∈ r.exposed byAlias t) : ∃ m ∈ r.models, ∃ f, m.Serializes f ∧
      x = ⟨f.externalName m.strategy? byAlias, f.unwrapping?, f.property⟩ := by
  unfold exposed at h
  cases hm : r.models.ofType? t with
  | none => simp [hm] at h
  | some m =>
    simp only [hm, Option.map_some, Option.getD_some] at h
    obtain ⟨name, -, hfind⟩ := Option.bind_eq_some_iff.1 hm
    obtain ⟨f, hf, hx⟩ := Model.mem_exposed_iff.1 h
    exact ⟨m, List.mem_of_find?_eq_some hfind, f, hf, hx⟩

/-- The names and chains that some properties contribute. The unwrapped ones are entered if their type
is registered and `available`, that is not among the types around them; the others contribute
themselves once they are `inside` an unwrapped field. -/
def inlined (r : Registry) (byAlias : Bool) (available : List String) (inside : Bool)
    (xs : List Model.Exposed) : List (String × List (Property TypeExpr)) :=
  xs.flatMap fun x =>
    match x.unwrapping? with
    | none => if inside then [(x.name, [x.property])] else []
    | some u =>
      match r.model? x.property.actualType with
      | none => []
      | some m =>
        if _mem : m.name ∈ available then
          (inlined r byAlias (available.erase m.name) true (m.exposed byAlias)).map fun e =>
            (u.rename e.1, x.property :: e.2)
        else []
termination_by available.length
decreasing_by
  have := List.length_erase_of_mem _mem
  have := List.length_pos_of_mem _mem
  omega

/-- The registered types other than the type itself. -/
def othersThan (r : Registry) (t : TypeExpr) : List String :=
  match t.model? with
  | some name => r.managed.erase name
  | none => r.managed

def flat (r : Registry) (byAlias : Bool) (e : Entity TypeExpr) : FlatMapping TypeExpr :=
  .ofList ((r.exposed byAlias e.type).map fun x => (x.name, x.property))

def wrapped (r : Registry) (byAlias : Bool) (e : Entity TypeExpr) : WrappedMapping TypeExpr :=
  .ofList (r.inlined byAlias (r.othersThan e.type) false (r.exposed byAlias e.type))

theorem exists_field_of_mem_flat {r : Registry} {byAlias : Bool} {e : Entity TypeExpr}
    {x : String × Property TypeExpr} (h : x ∈ (r.flat byAlias e).table.entries) :
    ∃ m ∈ r.models, ∃ f, m.Serializes f ∧ x = (f.externalName m.strategy? byAlias, f.property) := by
  obtain ⟨y, hy, rfl⟩ := List.mem_map.1 (Table.mem_of_mem_entries_ofList h)
  obtain ⟨m, hm, f, hf, rfl⟩ := exists_field_of_mem_exposed hy
  exact ⟨m, hm, f, hf, rfl⟩

/-- The catalog of the registered models. -/
def catalog (r : Registry) (byAlias : Bool) : Catalog TypeExpr where
  entity? := r.entity?
  flat := r.flat byAlias
  wrapped := r.wrapped byAlias

/-! ## What is inlined -/

/-- Induction along the walk: names become fewer by one that is among them. -/
@[elab_as_elim]
theorem available_induction {P : List String → Prop}
    (step : ∀ available, (∀ name ∈ available, P (available.erase name)) → P available)
    (available : List String) : P available := by
  induction hn : available.length using Nat.strongRecOn generalizing available with
  | ind n ih =>
    refine step available fun name hmem => ih _ ?_ _ rfl
    have := List.length_erase_of_mem hmem
    have := List.length_pos_of_mem hmem
    omega

/-- What one serialized property contributes: itself, or what its own type contributes. -/
theorem mem_inlined_iff {r : Registry} {byAlias inside : Bool} {available : List String}
    {xs : List Model.Exposed} {e : String × List (Property TypeExpr)} :
    e ∈ r.inlined byAlias available inside xs ↔ ∃ x ∈ xs,
      (x.unwrapping? = none ∧ inside = true ∧ e = (x.name, [x.property])) ∨
      ∃ u m e', x.unwrapping? = some u ∧ r.model? x.property.actualType = some m ∧
        m.name ∈ available ∧ e' ∈ r.inlined byAlias (available.erase m.name) true (m.exposed byAlias) ∧
        e = (u.rename e'.1, x.property :: e'.2) := by
  rw [inlined, List.mem_flatMap]
  refine exists_congr fun x => and_congr_right fun _ => ?_
  split
  · next hu => cases inside <;> simp [hu]
  · next u hu =>
    split
    · next hm => simp [hu, hm]
    · next m hm =>
      split
      · next ha => simp [hu, hm, ha, eq_comm]
      · next ha => simp [hu, hm, ha]

end Registry

end SortPath
