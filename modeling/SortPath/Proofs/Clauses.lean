import SortPath.Resolution

/-!
# Resolution, clause by clause

`Catalog.resolve` is a loop over the clauses of a sorting. It carries the mappings of the root along,
records its lookups and stops at the first blank property. What it answers is nevertheless said clause by
clause: a clause is kept exactly when its segments resolve from the root (`Resolves`), and nothing but its
property changes.

**Hypothesis (`Catalog.Named`).** No property in the tables has a blank name. Models have no such
properties; in explicit tables a blank name may become the whole property of a clause, which then is no
clause.

Results:
* `walkPath_eq_some_iff`: a path leads to the names that its segments resolve to.
* `resolveClauses_eq_ok_iff`: the loop succeeds where no property becomes blank, and then it is a
  `filterMap`.
* `resolve_clause_by_clause`: resolution as a specification of its kept clauses, with what follows for
  empty results and for sortings put together.
-/
namespace SortPath

/-! ## Blank names -/

theorem isAllBlank_append (s t : String) :
    Text.isAllBlank (s ++ t) = (Text.isAllBlank s && Text.isAllBlank t) := by
  unfold Text.isAllBlank
  rw [String.toList_append, List.all_append]

theorem isAllBlank_joinNames {name : String} {names : List String}
    (h : Text.isAllBlank name = false) : Text.isAllBlank (joinNames (name :: names)) = false := by
  unfold joinNames
  cases names with
  | nil => rw [String.intercalate_singleton]; exact h
  | cons n ns =>
    rw [String.intercalate_cons_cons, isAllBlank_append, isAllBlank_append, h]
    rfl

variable {τ : Type} {c : Catalog τ} {m : Mappings τ} {e root : Entity τ}

/-- No property in the tables of the catalog has a blank name. -/
def Catalog.Named (c : Catalog τ) : Prop :=
  ∀ e, (∀ x ∈ (c.flat e).table.entries, Text.isAllBlank x.2.name = false) ∧
    ∀ x ∈ (c.wrapped e).table.entries, ∀ p ∈ x.2, Text.isAllBlank p.name = false

theorem Catalog.Named.of_finds (hc : c.Named) {name : String} {chain : List (Property τ)}
    (h : (c.mappings e).Finds name chain) : ∀ p ∈ chain, Text.isAllBlank p.name = false := by
  cases h with
  | wrapped h => exact (hc e).2 _ (Table.get?_eq_some_iff.1 h)
  | flat _ h =>
    intro p hp
    rw [List.mem_singleton.1 hp]
    exact (hc e).1 _ (Table.get?_eq_some_iff.1 h)

theorem Resolves.joinNames_notBlank (hc : c.Named) {segments names : List String}
    (h : Resolves c e segments names) : Text.isAllBlank (joinNames names) = false := by
  obtain ⟨p, ps, rest, hp, rfl⟩ : ∃ p ps rest, Text.isAllBlank p.name = false ∧
      names = (p :: ps).map Property.name ++ rest := by
    cases h with
    | @last _ _ chain hf hne _ =>
      obtain ⟨p, ps, rfl⟩ := List.exists_cons_of_ne_nil hne
      exact ⟨p, ps, [], hc.of_finds hf p (List.mem_cons_self ..), by simp⟩
    | @next _ _ _ chain _ _ names hf hl _ _ _ =>
      have hne : chain ≠ [] := List.ne_nil_of_mem (List.mem_of_getLast? hl)
      obtain ⟨p, ps, rfl⟩ := List.exists_cons_of_ne_nil hne
      exact ⟨p, ps, names, hc.of_finds hf p (List.mem_cons_self ..), rfl⟩
  exact isAllBlank_joinNames hp

namespace Catalog

/-! ## One clause -/

/-- A path leads to the names that its segments resolve to; one of delimiters only has no segments. -/
theorem walkPath_eq_some_iff {path : String} {names : List String} :
    (c.walkPath (c.mappings e) path).value = some names ↔
      Resolves c e (PropertyPath.segments path) names := by
  unfold walkPath
  split
  · next h =>
    rw [h]
    simp only [Traced.value_pure, reduceCtorEq, false_iff]
    exact fun hr => hr.segments_ne_nil rfl
  · next h => exact walk_eq_some_iff h

/-- The clause `k'` is `k`, pointed at the property path that the path of `k` leads to from `e`. -/
def Translates (c : Catalog τ) (e : Entity τ) (k k' : Clause) : Prop :=
  ∃ names, Resolves c e (PropertyPath.segments k.property) names ∧ k'.property = joinNames names ∧
    k'.direction = k.direction ∧ k'.nullPlacement = k.nullPlacement ∧ k'.ignoreCase = k.ignoreCase

/-- What becomes of one clause; `none` where it is dropped. -/
def clause? (c : Catalog τ) (m : Mappings τ) (k : Clause) : Option Clause :=
  (c.walkPath m k.property).value.bind fun names => k.withProperty? (joinNames names)

theorem clause?_eq_some_iff {k k' : Clause} :
    c.clause? (c.mappings e) k = some k' ↔ c.Translates e k k' := by
  simp only [clause?, Translates, Option.bind_eq_some_iff, walkPath_eq_some_iff,
    Clause.withProperty?_eq_some_iff]

theorem clause?_eq_none_iff (hc : c.Named) {k : Clause} :
    c.clause? (c.mappings e) k = none ↔
      ∀ names, ¬Resolves c e (PropertyPath.segments k.property) names := by
  simp only [clause?, Option.bind_eq_none_iff, walkPath_eq_some_iff, Clause.withProperty?_eq_none_iff]
  constructor
  · intro h names hr
    have hb := h names hr
    rw [hr.joinNames_notBlank hc] at hb
    cases hb
  · intro h names hr
    exact absurd hr (h names)

/-! ## All clauses -/

theorem value_resolveClauses_cons (k : Clause) (ks : List Clause) :
    (c.resolveClauses m (k :: ks)).value =
      match (c.walkPath m k.property).value with
      | none => (c.resolveClauses m ks).value
      | some names =>
        match k.withProperty? (joinNames names) with
        | none => .error .blankProperty
        | some k' => (c.resolveClauses m ks).value.map (k' :: ·) := by
  rw [resolveClauses, Traced.value_bind]
  cases (c.walkPath m k.property).value with
  | none => rfl
  | some names => cases hp : k.withProperty? (joinNames names) <;> simp only [hp] <;> rfl

/-- The loop succeeds where no kept property is blank, and then keeps each clause by itself. -/
theorem resolveClauses_eq_ok_iff {ks kept : List Clause} :
    (c.resolveClauses m ks).value = .ok kept ↔
      (∀ k ∈ ks, ∀ names, (c.walkPath m k.property).value = some names →
        Text.isAllBlank (joinNames names) = false) ∧ kept = ks.filterMap (c.clause? m) := by
  induction ks generalizing kept with
  | nil => exact ⟨fun h => ⟨by simp, (Except.ok.inj h).symm⟩, fun h => congrArg Except.ok h.2.symm⟩
  | cons k ks ih =>
    rw [value_resolveClauses_cons, List.forall_mem_cons]
    cases hw : (c.walkPath m k.property).value with
    | none =>
      have hk : c.clause? m k = none := by simp [clause?, hw]
      dsimp only
      rw [ih, List.filterMap_cons_none hk]
      simp
    | some names =>
      dsimp only
      cases hp : k.withProperty? (joinNames names) with
      | none =>
        have hb := Clause.withProperty?_eq_none_iff.1 hp
        simp [hb]
      | some k' =>
        have hb : Text.isAllBlank (joinNames names) = false := by
          rw [← (Clause.withProperty?_eq_some_iff.1 hp).1]; exact k'.notBlank
        have hk : c.clause? m k = some k' := by simp [clause?, hw, hp]
        rw [List.filterMap_cons_some hk]
        cases hr : (c.resolveClauses m ks).value with
        | error err =>
          have hn : ¬∀ k ∈ ks, ∀ names, (c.walkPath m k.property).value = some names →
              Text.isAllBlank (joinNames names) = false := fun h => by
            rw [ih.2 ⟨h, rfl⟩] at hr; cases hr
          simp [Except.map, hn]
        | ok rest =>
          obtain ⟨hks, rfl⟩ := ih.1 hr
          simp only [Except.map, Except.ok.injEq, Option.some.injEq, forall_eq', hb, true_and]
          exact ⟨fun h => ⟨hks, h.symm⟩, fun h => h.2.symm⟩

/-- The loop depends on the catalog through what its paths lead to only. -/
theorem value_resolveClauses_congr {c' : Catalog τ} {m' : Mappings τ}
    (h : ∀ path, (c.walkPath m path).value = (c'.walkPath m' path).value) (ks : List Clause) :
    (c.resolveClauses m ks).value = (c'.resolveClauses m' ks).value := by
  induction ks with
  | nil => rfl
  | cons k ks ih => rw [value_resolveClauses_cons, value_resolveClauses_cons, h, ih]

theorem value_resolveClauses_append_congr {ks ks' : List Clause}
    (h : (c.resolveClauses m ks).value = (c.resolveClauses m ks').value) (before : List Clause) :
    (c.resolveClauses m (before ++ ks)).value = (c.resolveClauses m (before ++ ks')).value := by
  induction before with
  | nil => exact h
  | cons k before ih =>
    rw [List.cons_append, List.cons_append, value_resolveClauses_cons, value_resolveClauses_cons, ih]

theorem value_resolve (s : Sorting) :
    (c.resolve (some s) (some root)).value =
      (c.resolveClauses (c.mappings root) s.clauses).value.map Sorting.ofClauses? := rfl

/-- A clause whose path leads nowhere makes no difference to a sorting. -/
theorem value_resolve_of_dropped {k : Clause}
    (hk : (c.walkPath (c.mappings root) k.property).value = none) (before after : List Clause) :
    (c.resolve (some ⟨before ++ k :: after⟩) (some root)).value =
      (c.resolve (some ⟨before ++ after⟩) (some root)).value := by
  rw [value_resolve, value_resolve, value_resolveClauses_append_congr]
  rw [value_resolveClauses_cons, hk]

/-- Clauses that differ in their paths only, and these lead to the same names, can stand for each other. -/
theorem value_resolve_congr {k k' : Clause}
    (hw : (c.walkPath (c.mappings root) k.property).value =
      (c.walkPath (c.mappings root) k'.property).value)
    (hd : k.direction = k'.direction) (hn : k.nullPlacement = k'.nullPlacement)
    (hi : k.ignoreCase = k'.ignoreCase) (before after : List Clause) :
    (c.resolve (some ⟨before ++ k :: after⟩) (some root)).value =
      (c.resolve (some ⟨before ++ k' :: after⟩) (some root)).value := by
  have hmove : k.withProperty? = k'.withProperty? := by
    funext path
    rw [Clause.withProperty?, Clause.withProperty?, hd, hn, hi]
  rw [value_resolve, value_resolve, value_resolveClauses_append_congr]
  rw [value_resolveClauses_cons, value_resolveClauses_cons, hw, hmove]

/-- Every clause of a resolved sorting stems from one that was asked for. -/
theorem exists_translates_of_resolve {s s' : Sorting}
    (h : (c.resolve (some s) (some root)).value = .ok (some s')) :
    ∀ k' ∈ s'.clauses, ∃ k ∈ s.clauses, c.Translates root k k' := by
  rw [value_resolve] at h
  cases hr : (c.resolveClauses (c.mappings root) s.clauses).value with
  | error err => rw [hr] at h; cases h
  | ok kept =>
    rw [hr] at h
    obtain ⟨-, hs⟩ := Sorting.ofClauses?_eq_some_iff.1 (Except.ok.inj h)
    intro k' hk'
    rw [hs, (resolveClauses_eq_ok_iff.1 hr).2] at hk'
    obtain ⟨k, hk, hkk'⟩ := List.mem_filterMap.1 hk'
    exact ⟨k, hk, clause?_eq_some_iff.1 hkk'⟩

/-- Without blank names every sorting resolves, to its kept clauses. -/
theorem value_resolve_of_named (hc : c.Named) (s : Sorting) :
    (c.resolve (some s) (some root)).value =
      .ok (Sorting.ofClauses? (s.clauses.filterMap (c.clause? (c.mappings root)))) := by
  have hok : (c.resolveClauses (c.mappings root) s.clauses).value =
      .ok (s.clauses.filterMap (c.clause? (c.mappings root))) :=
    resolveClauses_eq_ok_iff.2 ⟨fun k _ names hw =>
      (walkPath_eq_some_iff.1 hw).joinNames_notBlank hc, rfl⟩
  rw [value_resolve, hok]
  rfl

/-- **Clause by clause.** Resolution keeps exactly the clauses whose segments resolve from the root, in
their order and pointed at the names that they resolve to. It gives no sorting exactly when it keeps none
and never an empty one, and of two sortings put together it keeps what it keeps of each. -/
theorem resolve_clause_by_clause (hc : c.Named) (root : Entity τ) :
    (∀ k k', c.clause? (c.mappings root) k = some k' ↔ c.Translates root k k') ∧
    (∀ k, c.clause? (c.mappings root) k = none ↔
      ∀ names, ¬Resolves c root (PropertyPath.segments k.property) names) ∧
    (∀ s, (c.resolve (some s) (some root)).value =
      .ok (Sorting.ofClauses? (s.clauses.filterMap (c.clause? (c.mappings root))))) ∧
    (∀ s, (c.resolve (some s) (some root)).value = .ok none ↔ ∀ k ∈ s.clauses, ∀ names,
      ¬Resolves c root (PropertyPath.segments k.property) names) ∧
    (∀ s, (c.resolve (some s) (some root)).value ≠ .ok (some ⟨[]⟩)) ∧
    ∀ s t, ∃ kept kept',
      (c.resolve (some s) (some root)).value = .ok (Sorting.ofClauses? kept) ∧
      (c.resolve (some t) (some root)).value = .ok (Sorting.ofClauses? kept') ∧
      (c.resolve (some ⟨s.clauses ++ t.clauses⟩) (some root)).value =
        .ok (Sorting.ofClauses? (kept ++ kept')) := by
  refine ⟨fun k k' => clause?_eq_some_iff, fun k => clause?_eq_none_iff hc, value_resolve_of_named hc,
    fun s => ?_, fun s h => ?_,
    fun s t => ⟨_, _, value_resolve_of_named hc s, value_resolve_of_named hc t, ?_⟩⟩
  · rw [value_resolve_of_named hc, Except.ok.injEq, Sorting.ofClauses?_eq_none_iff,
      List.filterMap_eq_nil_iff]
    exact forall₂_congr fun k _ => clause?_eq_none_iff hc
  · rw [value_resolve_of_named hc, Except.ok.injEq, Sorting.ofClauses?_eq_some_iff] at h
    exact h.1 h.2.symm
  · rw [value_resolve_of_named hc, List.filterMap_append]

/-- Tables of orders and customers. The wrapped name `lot` hides a flat one and has an empty chain, the
owner is an association, and no entity is known for addresses. -/
def shop : Catalog String where
  entity? t := if t = "Customer" then some ⟨t, []⟩ else none
  flat e :=
    if e.type = "Order" then
      .ofList [("buyer", ⟨"customer", "Customer", none, false⟩), ("lot", ⟨"lot", "Lot", none, false⟩),
        ("owner", ⟨"account", "Account", none, true⟩)]
    else .ofList [("name", ⟨"full_name", "str", none, false⟩)]
  wrapped e :=
    if e.type = "Order" then
      .ofList [("lot", []),
        ("to", [⟨"address", "Address", none, false⟩, ⟨"city", "City", none, false⟩])]
    else .empty

theorem shop_named : shop.Named := by
  intro e
  unfold shop
  by_cases h : e.type = "Order"
  · simp only [h, if_true]; decide
  · simp only [h, if_false]; decide

/-- Of five clauses those by the buyer's name and by the city resolve. -/
theorem resolve_shop : shop.Named ∧
    (shop.resolve (some ⟨[⟨"buyer_Name", .descending, .last, true, by decide⟩,
        ⟨"lot", .ascending, .native, false, by decide⟩, ⟨"to", .ascending, .native, false, by decide⟩,
        ⟨"owner", .ascending, .native, false, by decide⟩,
        ⟨"to.street", .ascending, .native, false, by decide⟩]⟩) (some ⟨"Order", []⟩)).value =
      .ok (some ⟨[⟨"customer.full_name", .descending, .last, true, by decide⟩,
        ⟨"address.city", .ascending, .native, false, by decide⟩]⟩) := by
  refine ⟨shop_named, ?_⟩
  rw [(resolve_clause_by_clause shop_named ⟨"Order", []⟩).2.2.1, Except.ok.injEq]
  decide +kernel

end Catalog

end SortPath
