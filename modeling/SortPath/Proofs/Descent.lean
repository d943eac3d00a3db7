import SortPath.Proofs.Exposure

/-!
# Descending into collections

A path goes on from a property in two ways. Between segments the walk goes on in the entity of the
declared type, and the declared type of a collection has none: there the walk stops. Inside a wrapped chain
there is no walk any more; the chain was found by entering unwrapped fields by their actual type, which for
a collection is the type of its elements. So a list can stop a path by one name and be passed by another.

`DirectPath e ps` is a path on which every step is of the first kind: no property but the last is a
collection, and the next one is of the registered entity of its declared type. `InlinedCollection p` says
that `p` is a collection and the property of a serialized unwrapped field of a registered model.

Results:
* `Leads.inlinedCollection`: where segments lead, only inlined collections are descended into.
* `Registry.resolve_direct_iff`: a resolved path is direct exactly where it passes no inlined collection.
* `Sample.not_directPath_basket`: such paths exist; an unwrapped list of items is sorted by their label.
-/
namespace SortPath

namespace Registry

variable {r : Registry} {e : Entity TypeExpr} {ps : List (Property TypeExpr)}

/-! ## Direct paths -/

/-- Stored properties, the first of the entity `e` and each next one of the registered entity of the
declared type of the one before, which is no collection. -/
inductive DirectPath (r : Registry) : Entity TypeExpr → List (Property TypeExpr) → Prop
  | last {e : Entity TypeExpr} {p : Property TypeExpr} : p ∈ e.properties → DirectPath r e [p]
  | next {e e' : Entity TypeExpr} {p : Property TypeExpr} {ps : List (Property TypeExpr)} :
      p ∈ e.properties → p.isCollection = false → r.entity? p.type = some e' → DirectPath r e' ps →
      DirectPath r e (p :: ps)

/-- A collection whose elements a registered model inlines. -/
structure InlinedCollection (r : Registry) (p : Property TypeExpr) : Prop where
  collection : p.isCollection = true
  field : ∃ t m f, r.model? t = some m ∧ m.Serializes f ∧ f.unwrapping? ≠ none ∧ p = f.property

theorem DirectPath.ne_nil (h : r.DirectPath e ps) : ps ≠ [] := by
  cases h <;> simp

theorem DirectPath.isCollection_of_mem_dropLast (h : r.DirectPath e ps) :
    ∀ p ∈ ps.dropLast, p.isCollection = false := by
  induction h with
  | last _ => simp
  | next _ hc _ hr ih =>
    rw [List.dropLast_cons_of_ne_nil hr.ne_nil, List.forall_mem_cons]
    exact ⟨hc, ih⟩

/-- A path of sortable properties goes on by actual types. It is direct where these are the declared
ones. -/
theorem SortablePath.directPath (h : r.SortablePath e ps)
    (hc : ∀ p ∈ ps.dropLast, p.isCollection = false) : r.DirectPath e ps := by
  induction h with
  | last hp => exact .last hp.stored
  | next hp hn hr ih =>
    rw [List.dropLast_cons_of_ne_nil hr.ne_nil, List.forall_mem_cons] at hc
    rw [actualType_of_not_isCollection hc.1] at hn
    exact .next hp.stored hc.1 hn (ih hc.2)

/-! ## Where collections are entered -/

theorem Unwraps.inlinedCollection {m m' : Model} {us : List Field} {ms : List Model}
    (h : r.Unwraps m us ms m') {t : TypeExpr} (hm : r.model? t = some m) :
    ∀ p ∈ us.map Field.property, p.isCollection = true → r.InlinedCollection p := by
  induction h generalizing t with
  | here => simp
  | into hf hu hm₁ _ ih =>
    rw [List.map_cons, List.forall_mem_cons]
    exact ⟨fun hc => ⟨hc, _, _, _, hm, hf, by simp [hu], rfl⟩, ih hm₁⟩

end Registry

open Registry

theorem Leads.inlinedCollection {r : Registry} {byAlias : Bool} {e : Entity TypeExpr}
    {segments : List String} {ps : List (Property TypeExpr)}
    (h : Leads (r.catalog byAlias) e segments ps) :
    ∀ t, r.entity? t = some e → ∀ p ∈ ps.dropLast, p.isCollection = true → r.InlinedCollection p := by
  induction h with
  | last hs =>
    intro t he
    obtain ⟨m, us, f, ms, m', hm, rfl, hus, -, rfl, -⟩ := exists_unwraps_of_step? he hs
    rw [List.map_append, List.map_singleton, List.dropLast_concat]
    exact hus.inlinedCollection hm
  | next hs hl hn hr ih =>
    intro t he
    obtain ⟨m, us, f, ms, m', hm, rfl, hus, -, rfl, -⟩ := exists_unwraps_of_step? he hs
    obtain rfl : f.property = _ := by simpa using hl
    -- The end of the chain is followed by its declared type, so it is no collection.
    obtain ⟨m₁, hm₁, -⟩ := entity?_eq_some_iff.1 hn
    have hend : f.property.isCollection = false := isCollection_of_model? hm₁
    intro p hp hc
    rw [List.dropLast_append_of_ne_nil hr.properties_ne_nil, List.map_append, List.map_singleton,
      List.mem_append, List.mem_append, List.mem_singleton] at hp
    rcases hp with (hp | rfl) | hp
    · exact hus.inlinedCollection hm p hp hc
    · rw [hend] at hc
      cases hc
    · exact ih _ hn p hp hc

namespace Registry

/-- **Descent.** Every clause of a sorting that is resolved for a registered root names a path of
sortable properties from the root, and this path is direct exactly where no property on it but the last is
an inlined collection. So without unwrapped collections no path descends into a collection. -/
theorem resolve_direct_iff {r : Registry} {byAlias : Bool} {t : TypeExpr} {root : Entity TypeExpr}
    (hroot : r.entity? t = some root) {s s' : Sorting}
    (h : ((r.catalog byAlias).resolve (some s) (some root)).value = .ok (some s')) :
    ∀ k ∈ s'.clauses, ∃ ps, r.SortablePath root ps ∧ k.property = joinNames (ps.map (·.name)) ∧
      (r.DirectPath root ps ↔ ∀ p ∈ ps.dropLast, ¬r.InlinedCollection p) := by
  intro k hk
  obtain ⟨k₀, -, names, hres, hk, -⟩ := Catalog.exists_translates_of_resolve h k hk
  obtain ⟨ps, hleads, rfl⟩ := resolves_iff_leads.1 hres
  have hps : r.SortablePath root ps := hleads.sortablePath t hroot
  refine ⟨ps, hps, hk, fun hdirect p hp hin => ?_, fun hno => hps.directPath fun p hp => ?_⟩
  · have hc := hdirect.isCollection_of_mem_dropLast p hp
    rw [hin.collection] at hc
    cases hc
  · cases hc : p.isCollection with
    | false => rfl
    | true => exact absurd (hleads.inlinedCollection t hroot p hp hc) (hno p hp)

end Registry

/-! ## A sample: a basket that inlines its items -/

namespace Sample

open Registry

def item : Model := declare "Item" none [field "label" text]

def basket : Model :=
  declare "Basket" none
    [field "items" ((TypeExpr.applied .list [.model "Item"]).annotate [.unwrapped ⟨"", "", true⟩])]

def baskets : Registry := (empty [item, basket]).addModel "Basket"

def byLabel : Sorting := ⟨[⟨"label", .ascending, .native, false, by decide⟩]⟩

def byItemLabel : Sorting := ⟨[⟨"items.label", .ascending, .native, false, by decide⟩]⟩

theorem entity?_basket : baskets.entity? (.model "Basket") = some basket.entity := by
  with_unfolding_all rfl

theorem resolve_byLabel :
    ((baskets.catalog true).resolve (some byLabel) (some basket.entity)).value =
      .ok (some byItemLabel) := by
  with_unfolding_all rfl

theorem resolve_direct_iff_basket : baskets.entity? (.model "Basket") = some basket.entity ∧
    ((baskets.catalog true).resolve (some byLabel) (some basket.entity)).value =
      .ok (some byItemLabel) ∧
    ∀ k ∈ byItemLabel.clauses, ∃ ps, baskets.SortablePath basket.entity ps ∧
      k.property = joinNames (ps.map (·.name)) ∧
      (baskets.DirectPath basket.entity ps ↔ ∀ p ∈ ps.dropLast, ¬baskets.InlinedCollection p) :=
  ⟨entity?_basket, resolve_byLabel, resolve_direct_iff entity?_basket resolve_byLabel⟩

/-- The label of a basket is that of its items, and no direct path leads there. -/
theorem not_directPath_basket :
    ((baskets.catalog true).resolve (some byLabel) (some basket.entity)).value =
      .ok (some byItemLabel) ∧
    ∀ k ∈ byItemLabel.clauses, ¬∃ ps, baskets.DirectPath basket.entity ps ∧
      k.property = joinNames (ps.map (·.name)) := by
  have hitems : basket.entity.properties =
      [⟨"items", .bare .list false, some (.model "Item"), false⟩] := by
    with_unfolding_all rfl
  refine ⟨resolve_byLabel, List.forall_mem_singleton.2 ?_⟩
  intro h
  obtain ⟨ps, hps, hname⟩ := h
  cases hps with
  | last hp =>
    rw [hitems, List.mem_singleton] at hp
    subst hp
    exact absurd hname (by decide)
  | next hp hc _ _ =>
    rw [hitems, List.mem_singleton] at hp
    subst hp
    cases hc

end Sample

end SortPath
