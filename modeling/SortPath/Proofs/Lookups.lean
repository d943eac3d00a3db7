import Mathlib.Data.List.Chain
import SortPath.Proofs.Clauses

/-!
# What a catalog is asked

Resolution asks the catalog while it walks, and what it asks can cost something. The mappings of the root
are fetched once for all clauses. On the way every accepted segment asks for one entity, and its mappings
are fetched only where another segment is looked up in them. Nothing is kept from one clause to the next, or
from one visit of an entity to the next, and nothing is asked once a clause is known to be dropped.

The walk along a path makes a list of stops, each an entity with the segment that is looked up in its
mappings. `Tour c e ss xs` says which stops these are, and `Catalog.lookupsAlong` what is asked at them.

**Hypothesis.** The sorting is resolved: no clause gets a blank property, which would end the loop.

Results:
* `tour_iff`: there is exactly one tour along some segments.
* `Catalog.lookups_walk`: the walk asks what is asked along its tour.
* `Catalog.walk_of_answered`: it depends on the answers to this and on nothing else.
* `resolve_lookups`: the lookups of a whole resolution, clause by clause.
-/
namespace SortPath

variable {τ : Type} {c c' : Catalog τ} {e root : Entity τ} {segment : String} {ss : List String}

/-! ## Stops -/

/-- A segment, and the entity in whose mappings it is looked up. -/
structure Stop (τ : Type) where
  entity : Entity τ
  segment : String
deriving DecidableEq, Repr

namespace Stop

/-- The last property that the segment stands for; none if it is unknown or crosses an association. -/
def last? (c : Catalog τ) (x : Stop τ) : Option (Property τ) :=
  ((c.mappings x.entity).step? x.segment).bind List.getLast?

/-- What is asked once the segment has been looked up: the entity of the type that it leads to. -/
def asks (c : Catalog τ) (x : Stop τ) : List (Lookup τ) := (x.last? c).toList.map fun p => .entity p.type

/-- The entity that this stop asks for, if the catalog has it. -/
def next? (c : Catalog τ) (x : Stop τ) : Option (Entity τ) := (x.last? c).bind fun p => c.entity? p.type

end Stop

/-- The stops of the walk from an entity along some segments. -/
structure Tour (c : Catalog τ) (e : Entity τ) (ss : List String) (xs : List (Stop τ)) : Prop where
  /-- The segments are taken in order, without a gap. -/
  inOrder : xs.map (·.segment) <+: ss
  start : ∀ x, xs.head? = some x → x.entity = e
  /-- A further segment is looked up in the entity that the stop before asked for. -/
  linked : xs.IsChain fun x y => x.next? c = some y.entity
  /-- Segments are left out only behind a stop that leads to no entity. -/
  dead : xs.length < ss.length → ∃ x, xs.getLast? = some x ∧ x.next? c = none

namespace Catalog

/-- What is asked along a tour: the mappings of the entity of every stop but the first, and at every stop
the entity that its segment leads to. -/
def lookupsAlong (c : Catalog τ) : List (Stop τ) → List (Lookup τ)
  | [] => []
  | x :: xs => x.asks c ++
      xs.flatMap fun y => [.flat y.entity.type, .wrapped y.entity.type] ++ y.asks c

/-- The stops, taken one after the other. -/
def stops (c : Catalog τ) (e : Entity τ) : List String → List (Stop τ)
  | [] => []
  | segment :: ss => ⟨e, segment⟩ ::
      match Stop.next? c ⟨e, segment⟩ with
      | none => []
      | some e' => c.stops e' ss

/-- The tour along the path of a clause. -/
def tour (c : Catalog τ) (root : Entity τ) (k : Clause) : List (Stop τ) :=
  c.stops root (PropertyPath.segments k.property)

end Catalog

theorem stops_of_dead (h : Stop.next? c ⟨e, segment⟩ = none) :
    c.stops e (segment :: ss) = [⟨e, segment⟩] := by
  rw [Catalog.stops, h]

theorem stops_of_next {e' : Entity τ} (h : Stop.next? c ⟨e, segment⟩ = some e') :
    c.stops e (segment :: ss) = ⟨e, segment⟩ :: c.stops e' ss := by
  rw [Catalog.stops, h]

theorem tour_nil_iff {xs : List (Stop τ)} : Tour c e [] xs ↔ xs = [] := by
  constructor
  · intro h
    simpa using h.inOrder
  · intro h
    subst h
    exact ⟨by simp, by simp, by simp, by simp⟩

theorem tour_cons_iff {xs : List (Stop τ)} : Tour c e (segment :: ss) xs ↔ ∃ ys,
    xs = ⟨e, segment⟩ :: ys ∧
      ((Stop.next? c ⟨e, segment⟩ = none ∧ ys = []) ∨
        ∃ e', Stop.next? c ⟨e, segment⟩ = some e' ∧ Tour c e' ss ys) := by
  constructor
  · intro h
    cases xs with
    | nil =>
      obtain ⟨x, hx, -⟩ := h.dead (by simp)
      cases hx
    | cons x ys =>
      obtain ⟨hsegment, hrest⟩ := List.cons_prefix_cons.1 h.inOrder
      have hstart : x.entity = e := h.start x rfl
      obtain rfl : x = ⟨e, segment⟩ := by rw [← hstart, ← hsegment]
      obtain ⟨hlink, hlinked⟩ := List.isChain_cons.1 h.linked
      refine ⟨ys, rfl, ?_⟩
      cases hnext : Stop.next? c ⟨e, segment⟩ with
      | none =>
        refine .inl ⟨rfl, ?_⟩
        cases ys with
        | nil => rfl
        | cons y ys =>
          have hy := hlink y rfl
          rw [hnext] at hy
          cases hy
      | some e' =>
        refine .inr ⟨e', rfl, hrest, fun y hy => ?_, hlinked, fun hlen => ?_⟩
        · have hy := hlink y hy
          rw [hnext] at hy
          exact (Option.some.inj hy).symm
        · obtain ⟨y, hlast, hy⟩ := h.dead (by simpa using hlen)
          cases ys with
          | nil =>
            obtain rfl : (⟨e, segment⟩ : Stop τ) = y := Option.some.inj hlast
            rw [hnext] at hy
            cases hy
          | cons z ys => exact ⟨y, hlast, hy⟩
  · intro h
    obtain ⟨ys, rfl, ⟨hnext, rfl⟩ | ⟨e', hnext, hys⟩⟩ := h
    · exact ⟨by simp, by simp, by simp, fun _ => ⟨_, rfl, hnext⟩⟩
    · refine ⟨List.cons_prefix_cons.2 ⟨rfl, hys.inOrder⟩, by simp,
        List.isChain_cons.2 ⟨fun y hy => ?_, hys.linked⟩, fun hlen => ?_⟩
      · rw [hnext, hys.start y hy]
      · obtain ⟨y, hlast, hy⟩ := hys.dead (by simpa using hlen)
        refine ⟨y, ?_, hy⟩
        rw [List.getLast?_cons, hlast]
        rfl

theorem tour_iff {xs : List (Stop τ)} : Tour c e ss xs ↔ xs = c.stops e ss := by
  induction ss generalizing e xs with
  | nil => exact tour_nil_iff
  | cons segment ss ih =>
    rw [tour_cons_iff, Catalog.stops]
    cases Stop.next? c ⟨e, segment⟩ with
    | none => simp
    | some e' => simp [ih]

theorem stops_singleton : c.stops e [segment] = [⟨e, segment⟩] := by
  rw [Catalog.stops]
  split <;> rfl

/-! ## The walk -/

namespace Catalog

variable {chain : List (Property τ)} {p : Property τ} {s : String}

theorem walk_refused (h : (c.mappings e).step? segment = none) :
    c.walk (c.mappings e) (segment :: ss) = ⟨none, []⟩ := by
  rw [walk, h]
  rfl

theorem walk_last (h : (c.mappings e).step? segment = some chain) (hp : chain.getLast? = some p) :
    c.walk (c.mappings e) [segment] = ⟨some (chain.map (·.name)), [.entity p.type]⟩ := by
  rw [walk, h]
  simp only [hp]
  rfl

theorem walk_dead (h : (c.mappings e).step? segment = some chain) (hp : chain.getLast? = some p)
    (he : c.entity? p.type = none) :
    c.walk (c.mappings e) (segment :: s :: ss) = ⟨none, [.entity p.type]⟩ := by
  rw [walk, h]
  simp only [hp, fetchEntity, he]
  rfl

theorem walk_next {e' : Entity τ} (h : (c.mappings e).step? segment = some chain)
    (hp : chain.getLast? = some p) (he : c.entity? p.type = some e') :
    c.walk (c.mappings e) (segment :: s :: ss) =
      ⟨(c.walk (c.mappings e') (s :: ss)).value.map (chain.map (·.name) ++ ·),
        .entity p.type :: .flat e'.type :: .wrapped e'.type ::
          (c.walk (c.mappings e') (s :: ss)).lookups⟩ := by
  rw [walk, h]
  simp only [hp, fetchEntity, he]
  simp [bind, fetchMappings, pure]

theorem last?_of_step? (h : (c.mappings e).step? segment = some chain) :
    ∃ p, chain.getLast? = some p ∧ Stop.last? c ⟨e, segment⟩ = some p := by
  have hne := (Mappings.step?_eq_some_iff.1 h).2.1
  refine ⟨_, List.getLast?_eq_some_getLast hne, ?_⟩
  rw [Stop.last?, h]
  exact List.getLast?_eq_some_getLast hne

/-- Behind the first stop the mappings are fetched before the segment is looked up. -/
theorem lookupsAlong_cons (x : Stop τ) :
    c.lookupsAlong (x :: c.stops e (segment :: ss)) =
      x.asks c ++ .flat e.type :: .wrapped e.type :: c.lookupsAlong (c.stops e (segment :: ss)) := by
  rw [stops, lookupsAlong, lookupsAlong, List.flatMap_cons]
  rfl

/-- The walk asks what is asked along its tour. -/
theorem lookups_walk (e : Entity τ) (ss : List String) :
    (c.walk (c.mappings e) ss).lookups = c.lookupsAlong (c.stops e ss) := by
  induction ss generalizing e with
  | nil => rfl
  | cons segment ss ih =>
    cases hstep : (c.mappings e).step? segment with
    | none =>
      have hlast : Stop.last? c ⟨e, segment⟩ = none := by rw [Stop.last?, hstep]; rfl
      have hnext : Stop.next? c ⟨e, segment⟩ = none := by rw [Stop.next?, hlast]; rfl
      have hasks : Stop.asks c ⟨e, segment⟩ = [] := by rw [Stop.asks, hlast]; rfl
      rw [walk_refused hstep, stops_of_dead hnext, lookupsAlong, hasks]
      rfl
    | some chain =>
      obtain ⟨p, hp, hlast⟩ := last?_of_step? hstep
      have hasks : Stop.asks c ⟨e, segment⟩ = [.entity p.type] := by rw [Stop.asks, hlast]; rfl
      have hnext : Stop.next? c ⟨e, segment⟩ = c.entity? p.type := by rw [Stop.next?, hlast]; rfl
      cases ss with
      | nil =>
        rw [walk_last hstep hp, stops_singleton, lookupsAlong, hasks]
        rfl
      | cons s ss =>
        cases he : c.entity? p.type with
        | none =>
          rw [walk_dead hstep hp he, stops_of_dead (hnext.trans he), lookupsAlong, hasks]
          rfl
        | some e' =>
          rw [walk_next hstep hp he, stops_of_next (hnext.trans he), lookupsAlong_cons, hasks, ih]
          rfl

theorem lookups_walkPath (k : Clause) :
    (c.walkPath (c.mappings root) k.property).lookups = c.lookupsAlong (c.tour root k) := by
  rw [tour, ← lookups_walk]
  unfold walkPath
  split
  · next h => rw [h]; rfl
  · rfl

end Catalog

/-! ## Other answers do not count -/

/-- The catalog `c'` answers what `c` is asked at the stop as `c` does. -/
structure Stop.Answered (c c' : Catalog τ) (x : Stop τ) : Prop where
  mappings : c'.mappings x.entity = c.mappings x.entity
  entity : ∀ p, x.last? c = some p → c'.entity? p.type = c.entity? p.type

namespace Catalog

/-- The walk depends on the answers along its tour, and on nothing else. -/
theorem walk_of_answered (h : ∀ x ∈ c.stops e ss, x.Answered c c') :
    c'.walk (c'.mappings e) ss = c.walk (c.mappings e) ss := by
  induction ss generalizing e with
  | nil => rfl
  | cons segment ss ih =>
    have hfirst : Stop.Answered c c' ⟨e, segment⟩ := h _ (List.mem_cons_self ..)
    have hmappings : c'.mappings e = c.mappings e := hfirst.mappings
    cases hstep : (c.mappings e).step? segment with
    | none => rw [walk_refused hstep, walk_refused (hmappings ▸ hstep)]
    | some chain =>
      have hstep' : (c'.mappings e).step? segment = some chain := hmappings ▸ hstep
      obtain ⟨p, hp, hlast⟩ := last?_of_step? hstep
      have hnext : Stop.next? c ⟨e, segment⟩ = c.entity? p.type := by rw [Stop.next?, hlast]; rfl
      have hentity := hfirst.entity p hlast
      cases ss with
      | nil => rw [walk_last hstep hp, walk_last hstep' hp]
      | cons s ss =>
        cases he : c.entity? p.type with
        | none => rw [walk_dead hstep hp he, walk_dead hstep' hp (hentity.trans he)]
        | some e' =>
          rw [stops_of_next (hnext.trans he)] at h
          rw [walk_next hstep hp he, walk_next hstep' hp (hentity.trans he),
            ih fun x hx => h x (List.mem_cons_of_mem _ hx)]

/-! ## All clauses -/

/-- The loop asks what is asked along the tours of the clauses, one after the other. -/
theorem lookups_resolveClauses {ks kept : List Clause}
    (h : (c.resolveClauses (c.mappings root) ks).value = .ok kept) :
    (c.resolveClauses (c.mappings root) ks).lookups =
      ks.flatMap fun k => c.lookupsAlong (c.tour root k) := by
  induction ks generalizing kept with
  | nil => rfl
  | cons k ks ih =>
    rw [value_resolveClauses_cons] at h
    rw [resolveClauses, Traced.lookups_bind, lookups_walkPath, List.flatMap_cons]
    cases hwalk : (c.walkPath (c.mappings root) k.property).value with
    | none =>
      rw [hwalk] at h
      rw [← ih h]
    | some names =>
      rw [hwalk] at h
      dsimp only at h ⊢
      cases hmake : k.withProperty? (joinNames names) with
      | none =>
        rw [hmake] at h
        cases h
      | some k' =>
        rw [hmake] at h
        cases hrest : (c.resolveClauses (c.mappings root) ks).value with
        | error err =>
          rw [hrest] at h
          cases h
        | ok kept =>
          simp [ih hrest]

theorem resolveClauses_of_answered {ks : List Clause}
    (h : ∀ k ∈ ks, ∀ x ∈ c.tour root k, x.Answered c c') :
    c'.resolveClauses (c'.mappings root) ks = c.resolveClauses (c.mappings root) ks := by
  induction ks with
  | nil => rfl
  | cons k ks ih =>
    obtain ⟨hk, hks⟩ := List.forall_mem_cons.1 h
    have hwalk : c'.walkPath (c'.mappings root) k.property = c.walkPath (c.mappings root) k.property := by
      unfold walkPath
      split
      · rfl
      · exact walk_of_answered hk
    rw [resolveClauses, resolveClauses, hwalk, ih hks]

/-- **Lookups.** For every clause there is one tour, which depends on the root and on the path of the
clause. A resolution fetches the mappings of the root, and then asks what is asked along the tours, clause
by clause. A catalog that gives the same answers along them resolves the sorting alike, and is asked alike. -/
theorem resolve_lookups (c : Catalog τ) (root : Entity τ) :
    (∀ k xs, Tour c root (PropertyPath.segments k.property) xs ↔ xs = c.tour root k) ∧
    (∀ s t, (c.resolve (some s) (some root)).value = .ok t →
      (c.resolve (some s) (some root)).lookups = [.flat root.type, .wrapped root.type] ++
        s.clauses.flatMap fun k => c.lookupsAlong (c.tour root k)) ∧
    ∀ c' s, (∀ k ∈ s.clauses, ∀ x ∈ c.tour root k, x.Answered c c') →
      c'.resolve (some s) (some root) = c.resolve (some s) (some root) := by
  refine ⟨fun k xs => tour_iff, fun s t h => ?_, fun c' s h => ?_⟩
  · rw [value_resolve] at h
    cases hkept : (c.resolveClauses (c.mappings root) s.clauses).value with
    | error err =>
      rw [hkept] at h
      cases h
    | ok kept =>
      rw [← lookups_resolveClauses hkept]
      simp [resolve, fetchMappings]
  · have hkept := resolveClauses_of_answered h
    simp only [resolve, fetchMappings, bind, hkept]

/-- Nodes of a tree, each with a label and an owner. -/
def nodes : Catalog String where
  entity? t := if t = "Node" then some ⟨t, []⟩ else none
  flat _ := .ofList [("child", ⟨"child", "Node", none, false⟩), ("label", ⟨"label", "str", none, false⟩),
    ("owner", ⟨"owner", "Account", none, true⟩)]
  wrapped _ := .empty

/-- The same nodes, where accounts have an entity too. -/
def ownedNodes : Catalog String :=
  { nodes with entity? := fun t => if t = "Node" ∨ t = "Account" then some ⟨t, []⟩ else none }

def node : Entity String := ⟨"Node", []⟩

/-- A grandchild, an association, a type without an entity, an unknown name, and no segment. -/
def byNodes : Sorting :=
  ⟨[⟨"child.child", .ascending, .native, false, rfl⟩,
    ⟨"owner.name", .ascending, .native, false, rfl⟩,
    ⟨"label.size", .ascending, .native, false, rfl⟩,
    ⟨"child_Gone.label", .ascending, .native, false, rfl⟩,
    ⟨"_.", .ascending, .native, false, rfl⟩]⟩

theorem resolve_lookups_nodes :
    (nodes.resolve (some byNodes) (some node)).value =
      .ok (some ⟨[⟨"child.child", .ascending, .native, false, rfl⟩]⟩) ∧
    (nodes.resolve (some byNodes) (some node)).lookups =
      [.flat "Node", .wrapped "Node", .entity "Node", .flat "Node", .wrapped "Node", .entity "Node",
        .entity "str", .entity "Node", .flat "Node", .wrapped "Node"] ∧
    ownedNodes.resolve (some byNodes) (some node) = nodes.resolve (some byNodes) (some node) := by
  obtain ⟨-, hlookups, hsame⟩ := resolve_lookups nodes node
  have hvalue : (nodes.resolve (some byNodes) (some node)).value =
      .ok (some ⟨[⟨"child.child", .ascending, .native, false, rfl⟩]⟩) := by
    with_unfolding_all rfl
  have hasked : ∀ k ∈ byNodes.clauses, ∀ x ∈ nodes.tour node k, ∀ p ∈ x.last? nodes,
      ownedNodes.entity? p.type = nodes.entity? p.type := by
    decide +kernel
  refine ⟨hvalue, ?_, hsame ownedNodes byNodes fun k hk x hx => ⟨rfl, hasked k hk x hx⟩⟩
  rw [hlookups byNodes _ hvalue]
  decide +kernel

end Catalog

end SortPath
