import SortPath.Proofs.Composition
import SortPath.Proofs.Unwrapping
import SortPath.Sample
import SortPath.Text.Split

/-!
# What a sorting can reach

A property path in a resolved sorting is put together from three places: the flat mapping of an entity,
the wrapped mapping with its chains, and the metadata that leads from one entity to the next. Each of them
is read off serialized properties, and a chain with an association is refused; so no path names or crosses
anything that is hidden from clients.

`Sortable e p` says that `p` is a stored property of the registered entity `e`, no association, and that its
field is neither excluded from the serialized form nor transient. `SortablePath e ps` is a path of such
properties, each of the entity that the one before leads to.

Results:
* `Leads.sortablePath`: segments lead along sortable properties only.
* `splitAt_joinNames`: names without a dot are read off their property path again.
* `resolve_sortable`: every clause of a resolved sorting names such a path.
-/
namespace SortPath

/-! ## Names and property paths -/

theorem splitAt_joinNames {names : List String} (hne : names ≠ [])
    (h : ∀ n ∈ names, '.' ∉ n.toList) : Text.splitAt "." (joinNames names) = names := by
  have hdot : "." = String.singleton '.' := by decide
  rw [joinNames, hdot]
  exact Text.splitAt_intercalate hne h

namespace Registry

variable {r : Registry} {byAlias : Bool} {t : TypeExpr} {m m' : Model} {e e' : Entity TypeExpr}
  {p : Property TypeExpr} {ps qs : List (Property TypeExpr)}

/-! ## Sortable properties -/

/-- A property that clients may sort by: stored in the entity, no association, and described by a field
of the registered model that is neither excluded nor transient. -/
structure Sortable (r : Registry) (e : Entity TypeExpr) (p : Property TypeExpr) : Prop where
  stored : p ∈ e.properties
  noAssociation : p.isAssociation = false
  field : ∃ m f, r.model? e.type = some m ∧ f ∈ m.fields ∧ p = f.property ∧
    f.options.excluded = false ∧ Marker.transient ∉ f.markers

/-- Sortable properties, the first of the entity `e` and each next one of the registered entity of the
actual type of the one before. -/
inductive SortablePath (r : Registry) : Entity TypeExpr → List (Property TypeExpr) → Prop
  | last {e : Entity TypeExpr} {p : Property TypeExpr} : r.Sortable e p → SortablePath r e [p]
  | next {e e' : Entity TypeExpr} {p : Property TypeExpr} {ps : List (Property TypeExpr)} :
      r.Sortable e p → r.entity? p.actualType = some e' → SortablePath r e' ps →
      SortablePath r e (p :: ps)

theorem SortablePath.append {q : Property TypeExpr} (h : r.SortablePath e ps)
    (hq : ps.getLast? = some q) (he : r.entity? q.actualType = some e')
    (h' : r.SortablePath e' qs) : r.SortablePath e (ps ++ qs) := by
  induction h with
  | last hp =>
    obtain rfl : _ = q := Option.some.inj hq
    exact .next hp he h'
  | next hp hn hr ih =>
    refine .next hp hn (ih ?_)
    cases hr <;> simpa using hq

theorem SortablePath.ne_nil (h : r.SortablePath e ps) : ps ≠ [] := by
  cases h <;> simp

theorem SortablePath.forall_sortable (h : r.SortablePath e ps) : ∀ p ∈ ps, ∃ e', r.Sortable e' p := by
  induction h with
  | last hp => exact List.forall_mem_singleton.2 ⟨_, hp⟩
  | next hp _ _ ih => exact List.forall_mem_cons.2 ⟨⟨_, hp⟩, ih⟩

theorem model?_entity_type (hm : r.model? t = some m) : r.model? m.entity.type = some m := by
  obtain ⟨rfl, h⟩ := model?_eq_some_iff.1 hm
  exact hm

theorem sortable_of_serializes (hm : r.model? t = some m) {f : Field} (hf : m.Serializes f)
    (ha : f.property.isAssociation = false) : r.Sortable m.entity f.property where
  stored := hf.property_mem
  noAssociation := ha
  field := ⟨m, f, model?_entity_type hm, hf.mem, rfl, hf.shown, by simpa [Field.isTransient] using hf.stored⟩

/-- Unwrapped fields and a field behind them make a path, if none of them is an association. -/
theorem Unwraps.sortablePath {us : List Field} {ms : List Model} {f : Field}
    (h : r.Unwraps m us ms m') (hm : r.model? t = some m) (hf : m'.Serializes f)
    (ha : ∀ q ∈ (us ++ [f]).map Field.property, q.isAssociation = false) :
    r.SortablePath m.entity ((us ++ [f]).map Field.property) := by
  induction h generalizing t with
  | here =>
    exact .last (sortable_of_serializes hm hf (ha _ (by simp)))
  | into hg _ hm₁ _ ih =>
    rw [List.cons_append, List.map_cons, List.forall_mem_cons] at ha
    exact .next (sortable_of_serializes hm hg ha.1) (entity?_eq_some_iff.2 ⟨_, hm₁, rfl⟩)
      (ih hm₁ hf ha.2)

theorem isCollection_of_model? {f : Field} (hm : r.model? f.property.type = some m) :
    f.property.isCollection = false := by
  have h := TypeExpr.resolve_snd_of_model (model?_eq_some_iff.1 hm).1
  simp [Property.isCollection, Field.property, h]

/-- A property that is no collection leads on by its declared type to where its actual type leads. -/
theorem actualType_of_not_isCollection (h : p.isCollection = false) : p.actualType = p.type := by
  have hnone : p.elementType = none := by simpa [Property.isCollection] using h
  rw [Property.actualType, hnone, Option.getD_none]

theorem actualType_of_model? {f : Field} (hm : r.model? f.property.type = some m) :
    f.property.actualType = f.property.type :=
  actualType_of_not_isCollection (isCollection_of_model? hm)

/-- At a registered model a segment stands for unwrapped fields and a field behind them, none of which is
an association. -/
theorem exists_unwraps_of_step? {segment : String} (he : r.entity? t = some e)
    (hs : ((r.catalog byAlias).mappings e).step? segment = some ps) :
    ∃ m us f ms m', r.model? t = some m ∧ e = m.entity ∧ r.Unwraps m us ms m' ∧ m'.Serializes f ∧
      ps = (us ++ [f]).map Field.property ∧ ∀ q ∈ ps, q.isAssociation = false := by
  obtain ⟨hf, -, ha⟩ := Mappings.step?_eq_some_iff.1 hs
  obtain ⟨m, hm, rfl⟩ := entity?_eq_some_iff.1 he
  obtain ⟨us, f, ms, m', hus, hp, rfl⟩ := exists_unwraps_of_finds hm hf
  exact ⟨m, us, f, ms, m', hm, rfl, hus, hp, rfl, ha⟩

end Registry

open Registry

/-- **Invariant of the walk.** From a registered model, segments lead along sortable properties only. -/
theorem Leads.sortablePath {r : Registry} {byAlias : Bool} {e : Entity TypeExpr}
    {segments : List String} {ps : List (Property TypeExpr)}
    (h : Leads (r.catalog byAlias) e segments ps) :
    ∀ t, r.entity? t = some e → r.SortablePath e ps := by
  induction h with
  | last hs =>
    intro t he
    obtain ⟨m, us, f, ms, m', hm, rfl, hus, hf, rfl, ha⟩ := exists_unwraps_of_step? he hs
    exact hus.sortablePath hm hf ha
  | next hs hl hn _ ih =>
    intro t he
    obtain ⟨m, us, f, ms, m', hm, rfl, hus, hf, rfl, ha⟩ := exists_unwraps_of_step? he hs
    obtain rfl : f.property = _ := by simpa using hl
    -- The walk goes on by the declared type; as that is registered it is the actual type.
    obtain ⟨m₁, hm₁, rfl⟩ := entity?_eq_some_iff.1 hn
    have hnext := hn
    rw [← actualType_of_model? hm₁] at hnext
    exact (hus.sortablePath hm hf ha).append (by simp) hnext (ih _ hn)

theorem Resolves.sortablePath {r : Registry} {byAlias : Bool} {e : Entity TypeExpr}
    {segments names : List String} (h : Resolves (r.catalog byAlias) e segments names) (t : TypeExpr)
    (he : r.entity? t = some e) : ∃ ps, r.SortablePath e ps ∧ names = ps.map (·.name) := by
  obtain ⟨ps, hps, rfl⟩ := resolves_iff_leads.1 h
  exact ⟨ps, hps.sortablePath t he, rfl⟩

namespace Registry

/-- **Exposure.** Every clause of a sorting that is resolved for a registered root names a path of
sortable properties from the root. Where no name of a field has a dot, that path is read off the property
of the clause. -/
theorem resolve_sortable {r : Registry} {byAlias : Bool} {t : TypeExpr} {root : Entity TypeExpr}
    (hroot : r.entity? t = some root) {s s' : Sorting}
    (h : ((r.catalog byAlias).resolve (some s) (some root)).value = .ok (some s')) :
    ∀ k ∈ s'.clauses, ∃ ps, r.SortablePath root ps ∧ k.property = joinNames (ps.map (·.name)) ∧
      ((∀ m ∈ r.models, ∀ f ∈ m.fields, '.' ∉ f.name.toList) →
        Text.splitAt "." k.property = ps.map (·.name)) := by
  intro k hk
  obtain ⟨k₀, -, names, hres, hk, -⟩ := Catalog.exists_translates_of_resolve h k hk
  obtain ⟨ps, hps, rfl⟩ := hres.sortablePath t hroot
  refine ⟨ps, hps, hk, fun hdot => ?_⟩
  rw [hk]
  refine splitAt_joinNames (by simpa using hps.ne_nil) fun n hn => ?_
  obtain ⟨p, hp, rfl⟩ := List.mem_map.1 hn
  obtain ⟨e, he⟩ := hps.forall_sortable p hp
  obtain ⟨m, f, hm, hf, rfl, -⟩ := he.field
  exact hdot m (List.mem_of_find?_eq_some (model?_eq_some_iff.1 hm).2.1) f hf

end Registry

namespace Sample

/-- The sample models, registered from people on. -/
def people : Registry := (empty models).addModel "Person"

/-- By an inlined field, a nested one, an excluded field, a transient one and a field of an association. -/
def requested : Sorting :=
  ⟨[⟨"first", .descending, .native, false, by decide⟩,
    ⟨"address.zipCode", .ascending, .last, true, by decide⟩,
    ⟨"passwordHash", .ascending, .native, false, by decide⟩,
    ⟨"score", .ascending, .native, false, by decide⟩,
    ⟨"owner.id", .ascending, .native, false, by decide⟩]⟩

def resolved : Sorting :=
  ⟨[⟨"name.first_name", .descending, .native, false, by decide⟩,
    ⟨"address.zip_code", .ascending, .last, true, by decide⟩]⟩

theorem resolve_sortable_people : people.entity? (.model "Person") = some person.entity ∧
    ((people.catalog true).resolve (some requested) (some person.entity)).value =
      .ok (some resolved) ∧
    ∀ k ∈ resolved.clauses, ∃ ps, people.SortablePath person.entity ps ∧
      k.property = joinNames (ps.map (·.name)) ∧
      ((∀ m ∈ people.models, ∀ f ∈ m.fields, '.' ∉ f.name.toList) →
        Text.splitAt "." k.property = ps.map (·.name)) := by
  have hroot : people.entity? (.model "Person") = some person.entity :=
    entity?_eq_some_iff.2 ⟨person, model?_eq_some_iff.2 ⟨rfl, rfl, by decide +kernel⟩, rfl⟩
  have hresolved : ((people.catalog true).resolve (some requested) (some person.entity)).value =
      .ok (some resolved) := by with_unfolding_all rfl
  exact ⟨hroot, hresolved, resolve_sortable hroot hresolved⟩

end Sample

end SortPath
