import SortPath.Proofs.MatchableNames
import SortPath.Proofs.Shortcuts

/-!
# Paths that stand for themselves

In a catalog where every external name is the name of its property, and no names are inlined, requests and
stores speak the same language, but a request may still spell a path in several ways: with other
delimiters, or with a capital in front of a segment. Resolution settles on one of them, the canonical path.
This is the path of a request again, and there is nothing left to settle: the names on it are normal forms
of segments, so they are read off again as they stand, and the walk makes the same steps.

`CanonicalPath c e ps` says that the properties `ps` make such a path from the entity `e`.

Results:
* `Leads.canonicalPath`: the walk goes along canonical paths only.
* `CanonicalPath.leads`: the names on a canonical path lead along it.
* `Catalog.resolveClauses_of_canonical`: the loop keeps clauses by canonical paths as they are.
* `resolve_canonical`: what resolution yields it leaves alone, as it does every canonical path; models
  make such a catalog if none of their fields is unwrapped.
-/
namespace SortPath

open PropertyPath

variable {τ : Type} {c : Catalog τ} {e root : Entity τ} {segment : String} {ss : List String}
  {ps : List (Property τ)}

/-- Every external name is the name of its property, and no name is inlined. -/
structure Catalog.SelfNamed (c : Catalog τ) : Prop where
  flat : ∀ e, ∀ x ∈ (c.flat e).table.entries, x.2.name = x.1
  wrapped : ∀ e, (c.wrapped e).table.entries = []

/-- From the entity `e` the properties make a path under their own names: the flat mapping of its entity
has each of them under its name, none is an association, every name is the normal form of a segment, and
all but the last lead to the next entity by their declared types. -/
inductive CanonicalPath (c : Catalog τ) : Entity τ → List (Property τ) → Prop
  | last {e : Entity τ} {p : Property τ} :
      (c.flat e).property? p.name = some p → p.isAssociation = false → Matchable p.name →
      CanonicalPath c e [p]
  | next {e e' : Entity τ} {p : Property τ} {ps : List (Property τ)} :
      (c.flat e).property? p.name = some p → p.isAssociation = false → Matchable p.name →
      c.entity? p.type = some e' → CanonicalPath c e' ps → CanonicalPath c e (p :: ps)

/-! ## One step -/

theorem segments_of_isSegment {s : String} (h : IsSegment s.toList) : segments s = [s] := by
  unfold segments
  rw [isSegment_iff.1 h, List.map_singleton, String.ofList_toList]

/-- A segment stands for the property of which it spells the name. -/
theorem Catalog.SelfNamed.step?_eq_some_iff (hc : c.SelfNamed) :
    (c.mappings e).step? segment = some ps ↔ ∃ p, ps = [p] ∧ p.name = normalize segment ∧
      (c.flat e).property? p.name = some p ∧ p.isAssociation = false := by
  have hwrapped : ∀ name, (c.mappings e).wrapped.chain? name = none := by
    intro name
    show (c.wrapped e).table.get? name = none
    rw [Table.get?_eq_none_iff, Table.keys, hc.wrapped e]
    simp
  rw [Mappings.step?_eq_some_iff]
  constructor
  · intro h
    obtain ⟨hfinds, -, hassociation⟩ := h
    cases hfinds with
    | wrapped hchain =>
      rw [hwrapped] at hchain
      cases hchain
    | @flat p _ hp =>
      have hname : p.name = normalize segment := hc.flat e _ (Table.get?_eq_some_iff.1 hp)
      refine ⟨p, rfl, hname, ?_, hassociation p (List.mem_singleton_self p)⟩
      rw [hname]
      exact hp
  · intro h
    obtain ⟨p, rfl, hname, hp, hassociation⟩ := h
    rw [hname] at hp
    exact ⟨.flat (hwrapped _) hp, by simp, List.forall_mem_singleton.2 hassociation⟩

theorem Catalog.SelfNamed.step?_name (hc : c.SelfNamed) {p : Property τ}
    (hp : (c.flat e).property? p.name = some p) (ha : p.isAssociation = false)
    (hname : Matchable p.name) : (c.mappings e).step? p.name = some [p] :=
  hc.step?_eq_some_iff.2 ⟨p, rfl, hname.2.symm, hp, ha⟩

/-! ## The walk -/

/-- The walk goes along canonical paths only. -/
theorem Leads.canonicalPath (hc : c.SelfNamed) (h : Leads c e ss ps)
    (hs : ∀ s ∈ ss, IsSegment s.toList) : CanonicalPath c e ps := by
  induction h with
  | last hstep =>
    obtain ⟨p, rfl, hname, hp, ha⟩ := hc.step?_eq_some_iff.1 hstep
    refine .last hp ha ?_
    rw [hname]
    exact matchable_normalize (hs _ (by simp))
  | next hstep hlast he _ ih =>
    obtain ⟨p, rfl, hname, hp, ha⟩ := hc.step?_eq_some_iff.1 hstep
    obtain ⟨hsegment, hrest⟩ := List.forall_mem_cons.1 hs
    obtain rfl : p = _ := Option.some.inj hlast
    refine .next hp ha ?_ he (ih hrest)
    rw [hname]
    exact matchable_normalize hsegment

/-- The names on a canonical path lead along it. -/
theorem CanonicalPath.leads (hc : c.SelfNamed) (h : CanonicalPath c e ps) :
    Leads c e (ps.map (·.name)) ps := by
  induction h with
  | last hp ha hname => exact .last (hc.step?_name hp ha hname)
  | next hp ha hname he _ ih => exact .next (hc.step?_name hp ha hname) rfl he ih

theorem CanonicalPath.matchable (h : CanonicalPath c e ps) : ∀ p ∈ ps, Matchable p.name := by
  induction h with
  | last _ _ hname => exact List.forall_mem_singleton.2 hname
  | next _ _ hname _ _ ih => exact List.forall_mem_cons.2 ⟨hname, ih⟩

theorem CanonicalPath.ne_nil (h : CanonicalPath c e ps) : ps ≠ [] := by
  cases h <;> simp

theorem CanonicalPath.segments_eq (h : CanonicalPath c e ps) :
    segments (joinNames (ps.map (·.name))) = ps.map (·.name) := by
  have hsegments : ∀ n ∈ ps.map (·.name), segments n = [n] := by
    refine List.forall_mem_map.2 fun p hp => ?_
    exact segments_of_isSegment (h.matchable p hp).1
  exact (segments_joinNames (by simpa using h.ne_nil) hsegments).1

theorem CanonicalPath.walkPath_eq (hc : c.SelfNamed) (h : CanonicalPath c e ps) :
    (c.walkPath (c.mappings e) (joinNames (ps.map (·.name)))).value = some (ps.map (·.name)) := by
  rw [Catalog.walkPath_eq_some_iff_leads, h.segments_eq]
  exact ⟨ps, h.leads hc, rfl⟩

/-! ## Clauses by canonical paths -/

/-- The clause asks for a canonical path. -/
def Clause.Canonical (c : Catalog τ) (e : Entity τ) (k : Clause) : Prop :=
  ∃ ps, CanonicalPath c e ps ∧ k.property = joinNames (ps.map (·.name))

/-- Every clause that resolution yields asks for a canonical path. -/
theorem Catalog.canonical_of_resolve (hc : c.SelfNamed) {s t : Sorting}
    (h : (c.resolve (some s) (some root)).value = .ok (some t)) :
    ∀ k ∈ t.clauses, k.Canonical c root := by
  intro k hk
  obtain ⟨k₀, -, names, hresolves, hproperty, -⟩ := exists_translates_of_resolve h k hk
  obtain ⟨ps, hps, rfl⟩ := resolves_iff_leads.1 hresolves
  exact ⟨ps, hps.canonicalPath hc fun s hs => mem_segments hs, hproperty⟩

/-- The loop keeps clauses by canonical paths as they are. -/
theorem Catalog.resolveClauses_of_canonical (hc : c.SelfNamed) {ks : List Clause}
    (h : ∀ k ∈ ks, k.Canonical c root) : (c.resolveClauses (c.mappings root) ks).value = .ok ks := by
  induction ks with
  | nil => rfl
  | cons k ks ih =>
    obtain ⟨hk, hks⟩ := List.forall_mem_cons.1 h
    obtain ⟨ps, hps, hproperty⟩ := hk
    have hwalk : (c.walkPath (c.mappings root) k.property).value = some (ps.map (·.name)) := by
      rw [hproperty]
      exact hps.walkPath_eq hc
    have hsame : k.withProperty? (joinNames (ps.map (·.name))) = some k :=
      Clause.withProperty?_eq_some_iff.2 ⟨hproperty, rfl, rfl, rfl⟩
    rw [value_resolveClauses_cons, hwalk, ih hks]
    simp only [hsame]
    rfl

theorem Catalog.resolve_of_canonical (hc : c.SelfNamed) {s : Sorting} (hne : s.clauses ≠ [])
    (h : ∀ k ∈ s.clauses, k.Canonical c root) :
    (c.resolve (some s) (some root)).value = .ok (some s) := by
  have hsome : Sorting.ofClauses? s.clauses = some s := Sorting.ofClauses?_eq_some_iff.2 ⟨hne, rfl⟩
  rw [value_resolve, resolveClauses_of_canonical hc h, ← hsome]
  rfl

theorem Catalog.clauses_ne_nil_of_resolve {s t : Sorting}
    (h : (c.resolve (some s) (some root)).value = .ok (some t)) : t.clauses ≠ [] := by
  rw [value_resolve] at h
  cases hkept : (c.resolveClauses (c.mappings root) s.clauses).value with
  | error err => rw [hkept] at h; cases h
  | ok kept =>
    rw [hkept] at h
    obtain ⟨hne, hclauses⟩ := Sorting.ofClauses?_eq_some_iff.1 (Except.ok.inj h)
    rw [hclauses]
    exact hne

/-! ## Models without unwrapped fields -/

/-- Under their plain names, models make a self-named catalog if none of their fields is unwrapped. -/
theorem Registry.catalog_selfNamed {r : Registry}
    (hr : ∀ m ∈ r.models, ∀ f ∈ m.fields, f.unwrapping? = none) : (r.catalog false).SelfNamed where
  flat e := by
    intro x hx
    obtain ⟨m, -, f, -, rfl⟩ := exists_field_of_mem_flat hx
    rfl
  wrapped e := by
    have hnone : r.inlined false (r.othersThan e.type) false (r.exposed false e.type) = [] := by
      rw [List.eq_nil_iff_forall_not_mem]
      intro x hx
      obtain ⟨y, hy, ⟨-, hinside, -⟩ | ⟨u, -, -, hu, -⟩⟩ := mem_inlined_iff.1 hx
      · cases hinside
      · obtain ⟨m, hm, f, hf, rfl⟩ := exists_field_of_mem_exposed hy
        rw [hr m hm f hf.mem] at hu
        cases hu
    show (r.wrapped false e).table.entries = []
    unfold wrapped
    rw [hnone]
    rfl

/-- **Canonical paths.** In a self-named catalog, what resolution yields is resolved to itself, with all
its flags, and so is a clause by any canonical path. Models make such a catalog under their plain names, if
none of their fields is unwrapped. -/
theorem resolve_canonical :
    (∀ (τ : Type) (c : Catalog τ) (root : Entity τ), c.SelfNamed →
      (∀ s t, (c.resolve (some s) (some root)).value = .ok (some t) →
        (c.resolve (some t) (some root)).value = .ok (some t)) ∧
      ∀ ps, CanonicalPath c root ps → ∀ k : Clause, k.property = joinNames (ps.map (·.name)) →
        (c.resolve (some ⟨[k]⟩) (some root)).value = .ok (some ⟨[k]⟩)) ∧
    ∀ r : Registry, (∀ m ∈ r.models, ∀ f ∈ m.fields, f.unwrapping? = none) →
      (r.catalog false).SelfNamed := by
  refine ⟨fun τ c root hc => ⟨fun s t h => ?_, fun ps hps k hk => ?_⟩,
    fun r hr => Registry.catalog_selfNamed hr⟩
  · exact Catalog.resolve_of_canonical hc (Catalog.clauses_ne_nil_of_resolve h)
      (Catalog.canonical_of_resolve hc h)
  · exact Catalog.resolve_of_canonical hc (by simp) (List.forall_mem_singleton.2 ⟨ps, hps, hk⟩)

/-! ## A sample: trucks and their depots -/

namespace Sample

open Registry

def depot : Model := declare "Depot" none [field "code" text]

def truck : Model :=
  declare "Truck" none
    [field "home" (TypeExpr.model "Depot").optional,
     field "driver" ((TypeExpr.model "Depot").annotate [.association])]

def trucks : Registry := (empty [depot, truck]).addModel "Truck"

/-- The code of the home, and a clause across an association. -/
def byHomeCode : Sorting :=
  ⟨[⟨"Home_Code._", .descending, .last, true, by decide⟩,
    ⟨"driver.code", .ascending, .native, false, by decide⟩]⟩

def homeCode : Clause := ⟨"home.code", .descending, .last, true, by decide⟩

/-- The properties from a truck to the code of its home. -/
def toHomeCode : List (Property TypeExpr) :=
  [⟨"home", .model "Depot", none, false⟩, ⟨"code", .scalar .text, none, false⟩]

theorem canonicalPath_toHomeCode : CanonicalPath (trucks.catalog false) truck.entity toHomeCode := by
  have hdepot : (trucks.catalog false).entity? (.model "Depot") = some depot.entity := by
    with_unfolding_all rfl
  refine .next ?_ rfl (by decide +kernel) hdepot (.last ?_ rfl (by decide +kernel))
  · with_unfolding_all rfl
  · with_unfolding_all rfl

theorem resolve_canonical_trucks :
    (∀ m ∈ trucks.models, ∀ f ∈ m.fields, f.unwrapping? = none) ∧
    (trucks.catalog false).SelfNamed ∧
    ((trucks.catalog false).resolve (some byHomeCode) (some truck.entity)).value =
      .ok (some ⟨[homeCode]⟩) ∧
    ((trucks.catalog false).resolve (some ⟨[homeCode]⟩) (some truck.entity)).value =
      .ok (some ⟨[homeCode]⟩) ∧
    CanonicalPath (trucks.catalog false) truck.entity toHomeCode ∧
    ∀ k : Clause, k.property = "home.code" →
      ((trucks.catalog false).resolve (some ⟨[k]⟩) (some truck.entity)).value = .ok (some ⟨[k]⟩) := by
  have hplain : ∀ m ∈ trucks.models, ∀ f ∈ m.fields, f.unwrapping? = none := by decide +kernel
  have hrun : ((trucks.catalog false).resolve (some byHomeCode) (some truck.entity)).value =
      .ok (some ⟨[homeCode]⟩) := by
    with_unfolding_all rfl
  have hselfNamed : (trucks.catalog false).SelfNamed := resolve_canonical.2 trucks hplain
  obtain ⟨hagain, hcanonical⟩ := resolve_canonical.1 _ _ truck.entity hselfNamed
  exact ⟨hplain, hselfNamed, hrun, hagain _ _ hrun, canonicalPath_toHomeCode,
    fun k hk => hcanonical toHomeCode canonicalPath_toHomeCode k hk⟩

end Sample

end SortPath
