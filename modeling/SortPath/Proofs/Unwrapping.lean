import SortPath.Serialization

/-!
# Unwrapped fields

`Registry.inlined` walks down a graph of types that may have cycles: it enters the type of each unwrapped
field that no type around it equals, renames what it finds there and lists it in order of declaration;
`WrappedMapping.ofList` then lets the last entry of a name count. Here both are said without the walk.

**Chains.** `Unwraps m us ms m'` says that the unwrapped fields `us` lead from the model `m` through the
models `ms` down to `m'`. `Inlines m us p name` adds the field `p` at the end that is no longer unwrapped,
asks that no model occurs twice, and gives the name: the leading texts of `us`, the external name of `p`
and the trailing texts from the inside out.

**Order.** `Before e ps qs` says that of two chains of properties from the entity `e` the first branches
off at a property that is declared earlier.

Results:
* `mem_inlined_exposed_iff`: the walk lists exactly the chains through available models.
* `pairwise_inlined`: it lists them in depth-first order of declaration.
* `Before.asymm`: of two chains at most one is before the other.
* `chain?_wrapped_iff_last`: the wrapped mapping has the names of the chains from a model, and for each
  name the last chain.
-/
namespace SortPath

/-! ## Names around an inlined field -/

namespace Field

/-- The text that an unwrapped field puts in front of the names in it. -/
def lead (f : Field) : String := (f.unwrapping?.map (·.lead)).getD ""

/-- The text that an unwrapped field puts behind the names in it. -/
def trail (f : Field) : String := (f.unwrapping?.map (·.trail)).getD ""

/-- The leading texts, the outermost first. -/
def leads (us : List Field) : String := us.foldr (fun f text => f.lead ++ text) ""

/-- The trailing texts, the innermost first. -/
def trails (us : List Field) : String := us.foldr (fun f text => text ++ f.trail) ""

/-- The name of an inlined field, with the texts of the unwrapped fields around it. -/
def inlinedName (us : List Field) (name : String) : String := leads us ++ name ++ trails us

@[simp] theorem inlinedName_nil (name : String) : inlinedName [] name = name := by
  simp [inlinedName, leads, trails]

theorem inlinedName_cons {f : Field} {u : Unwrapping} (hu : f.unwrapping? = some u) (us : List Field)
    (name : String) : inlinedName (f :: us) name = u.rename (inlinedName us name) := by
  simp [inlinedName, leads, trails, lead, trail, hu, Unwrapping.rename, String.append_assoc]

end Field

namespace Registry

variable {r : Registry} {byAlias inside : Bool} {m m' : Model} {us : List Field} {ms : List Model}

/-! ## Chains of unwrapped fields -/

/-- The unwrapped fields `us`, each stored and serialized, lead from the model `m` through the models
`ms` down to `m'`, the last of them. -/
inductive Unwraps (r : Registry) : Model → List Field → List Model → Model → Prop
  | here {m : Model} : Unwraps r m [] [] m
  | into {m m₁ m' : Model} {f : Field} {u : Unwrapping} {us : List Field} {ms : List Model} :
      m.Serializes f → f.unwrapping? = some u → r.model? f.property.actualType = some m₁ →
      Unwraps r m₁ us ms m' → Unwraps r m (f :: us) (m₁ :: ms) m'

/-- The fields `us` and then `p` inline a value into the model `m` under a name. At least one field is
unwrapped, `p` is not, and no model is entered that is around it. -/
def Inlines (r : Registry) (byAlias : Bool) (m : Model) (us : List Field) (p : Field)
    (name : String) : Prop :=
  ∃ ms m', us ≠ [] ∧ r.Unwraps m us ms m' ∧ m'.Serializes p ∧ p.unwrapping? = none ∧
    ((m :: ms).map (·.name)).Nodup ∧ name = Field.inlinedName us (p.externalName m'.strategy? byAlias)

theorem Unwraps.managed (h : r.Unwraps m us ms m') : ∀ m₁ ∈ ms, m₁.name ∈ r.managed := by
  induction h with
  | here => simp
  | into _ _ hm _ ih => exact List.forall_mem_cons.2 ⟨(model?_eq_some_iff.1 hm).2.2, ih⟩

/-- Models can all be entered after `n` where they can be without it and none of them is `n`. -/
theorem forall_mem_erase_iff {available : List String} (ha : available.Nodup) {n : String} :
    (∀ m₁ ∈ ms, m₁.name ∈ available.erase n) ↔
      n ∉ ms.map (·.name) ∧ ∀ m₁ ∈ ms, m₁.name ∈ available := by
  constructor
  · intro h
    refine ⟨fun hmem => ?_, fun m₁ hm₁ => List.mem_of_mem_erase (h m₁ hm₁)⟩
    obtain ⟨m₁, hm₁, he⟩ := List.mem_map.1 hmem
    exact (ha.mem_erase_iff.1 (h m₁ hm₁)).1 he
  · intro h m₁ hm₁
    exact ha.mem_erase_iff.2 ⟨fun he => h.1 (List.mem_map.2 ⟨m₁, hm₁, he⟩), h.2 m₁ hm₁⟩

/-- The walk lists a chain where every model that it enters is available, and none is entered twice. -/
theorem mem_inlined_exposed_iff {available : List String} (ha : available.Nodup)
    {e : String × List (Property TypeExpr)} :
    e ∈ r.inlined byAlias available inside (m.exposed byAlias) ↔
      ∃ us p ms m', r.Unwraps m us ms m' ∧ m'.Serializes p ∧ p.unwrapping? = none ∧
        (ms.map (·.name)).Nodup ∧ (∀ m₁ ∈ ms, m₁.name ∈ available) ∧ (inside = true ∨ us ≠ []) ∧
        e = (Field.inlinedName us (p.externalName m'.strategy? byAlias),
          (us ++ [p]).map Field.property) := by
  constructor
  · intro he
    induction available using available_induction generalizing inside m e with
    | step available ih =>
      obtain ⟨x, hx, h⟩ := mem_inlined_iff.1 he
      obtain ⟨f, hf, rfl⟩ := Model.mem_exposed_iff.1 hx
      rcases h with ⟨hu, hi, rfl⟩ | ⟨u, m₁, e', hu, hm, hav, he', rfl⟩
      · exact ⟨[], f, [], m, .here, hf, hu, by simp, by simp, .inl hi, by simp⟩
      · obtain ⟨us, p, ms, m', hus, hp, hpu, hnd, hms, -, rfl⟩ := ih _ hav (ha.erase _) he'
        rw [forall_mem_erase_iff ha] at hms
        have hname : u.rename (Field.inlinedName us (p.externalName m'.strategy? byAlias)) =
            Field.inlinedName (f :: us) (p.externalName m'.strategy? byAlias) :=
          (Field.inlinedName_cons hu us _).symm
        refine ⟨f :: us, p, m₁ :: ms, m', .into hf hu hm hus, hp, hpu, ?_, ?_, .inr (by simp), ?_⟩
        · exact List.nodup_cons.2 ⟨hms.1, hnd⟩
        · exact List.forall_mem_cons.2 ⟨hav, hms.2⟩
        · rw [← hname]; rfl
  · intro h
    obtain ⟨us, p, ms, m', hus, hp, hpu, hnd, hms, hi, rfl⟩ := h
    induction hus generalizing available inside with
    | here =>
      refine mem_inlined_iff.2 ⟨_, Model.mem_exposed_iff.2 ⟨p, hp, rfl⟩, .inl ⟨hpu, ?_, by simp⟩⟩
      exact hi.resolve_right (by simp)
    | @into m m₁ m' f u us ms hf hu hm hus ih =>
      rw [List.forall_mem_cons] at hms
      rw [List.map_cons, List.nodup_cons] at hnd
      have hms' : ∀ m₂ ∈ ms, m₂.name ∈ available.erase m₁.name :=
        (forall_mem_erase_iff ha).2 ⟨hnd.1, hms.2⟩
      have hrest := ih (ha.erase _) hp hnd.2 hms' (.inl rfl)
      refine mem_inlined_iff.2 ⟨_, Model.mem_exposed_iff.2 ⟨f, hf, rfl⟩,
        .inr ⟨u, m₁, _, hu, hm, hms.1, hrest, ?_⟩⟩
      rw [Field.inlinedName_cons hu]; rfl

/-! ## Depth-first order of declaration -/

/-- Of two chains of properties from an entity the first branches off earlier: after a common part it
goes on with a property that is declared before that of the other. -/
inductive Before (r : Registry) :
    Entity TypeExpr → List (Property TypeExpr) → List (Property TypeExpr) → Prop
  | here {e : Entity TypeExpr} {p q : Property TypeExpr} {ps qs : List (Property TypeExpr)} :
      [p, q].Sublist e.properties → Before r e (p :: ps) (q :: qs)
  | deeper {e e' : Entity TypeExpr} {p : Property TypeExpr} {ps qs : List (Property TypeExpr)} :
      r.entity? p.actualType = some e' → Before r e' ps qs → Before r e (p :: ps) (p :: qs)

theorem nodup_properties (m : Model) : m.entity.properties.Nodup := by
  have hs : (m.stored.map (·.name)).Nodup := (List.filter_sublist.map _).nodup m.nodup
  refine List.Pairwise.of_map (S := (· ≠ ·)) Property.name (fun _ _ hne he => hne (congrArg _ he)) ?_
  rw [show m.entity.properties = m.stored.map Field.property from rfl, List.map_map]
  exact hs

theorem not_sublist_swap {α : Type} {a b : α} {l : List α} (hn : l.Nodup) (h : [a, b].Sublist l) :
    ¬[b, a].Sublist l := by
  induction l with
  | nil => cases h
  | cons c l ih =>
    rw [List.nodup_cons] at hn
    intro h'
    rw [List.sublist_cons_iff] at h h'
    simp only [List.cons.injEq] at h h'
    rcases h with h | ⟨r, ⟨rfl, rfl⟩, hb⟩ <;> rcases h' with h' | ⟨r, ⟨rfl, rfl⟩, ha⟩
    · exact ih hn.2 h h'
    · exact hn.1 (h.subset (by simp))
    · exact hn.1 (h'.subset (by simp))
    · exact hn.1 (hb.subset (by simp))

theorem Before.asymm {e : Entity TypeExpr} {ps qs : List (Property TypeExpr)}
    (h : Before r e ps qs) (he : e.properties.Nodup) : ¬Before r e qs ps := by
  induction h with
  | here hpq =>
    intro h'
    cases h' with
    | here hqp => exact not_sublist_swap he hpq hqp
    | deeper _ _ => exact not_sublist_swap he hpq hpq
  | deeper he₁ _ ih =>
    intro h'
    cases h' with
    | here hpp => exact not_sublist_swap he hpp hpp
    | deeper he₂ h₂ =>
      rw [he₁] at he₂
      cases he₂
      obtain ⟨m, -, rfl⟩ := entity?_eq_some_iff.1 he₁
      exact ih (nodup_properties m) h₂

theorem pairwise_exposed (m : Model) (byAlias : Bool) :
    (m.exposed byAlias).Pairwise fun x y => [x.property, y.property].Sublist m.entity.properties := by
  have hs : ((m.exposed byAlias).map (·.property)).Sublist m.entity.properties := by
    rw [Model.exposed, List.map_map]
    exact List.filter_sublist.map _
  exact List.pairwise_map.1 (List.pairwise_of_forall_sublist fun h => h.trans hs)

theorem exists_cons_of_mem_inlined {available : List String} {xs : List Model.Exposed}
    {e : String × List (Property TypeExpr)} (h : e ∈ r.inlined byAlias available inside xs) :
    ∃ x ∈ xs, ∃ ps, e.2 = x.property :: ps := by
  obtain ⟨x, hx, ⟨-, -, rfl⟩ | ⟨u, m, e', -, -, -, -, rfl⟩⟩ := mem_inlined_iff.1 h
  · exact ⟨x, hx, [], rfl⟩
  · exact ⟨x, hx, e'.2, rfl⟩

/-- The walk lists the chains from a model in depth-first order of declaration. -/
theorem pairwise_inlined (m : Model) (available : List String) :
    (r.inlined byAlias available inside (m.exposed byAlias)).Pairwise
      fun e e' => Before r m.entity e.2 e'.2 := by
  induction available using available_induction generalizing inside m with
  | step available ih =>
    rw [inlined, List.pairwise_flatMap]
    constructor
    · intro x _
      split
      · split
        · exact List.pairwise_singleton ..
        · exact .nil
      · split
        · exact .nil
        · next m₁ hm =>
          split
          · next hav =>
            have he : r.entity? x.property.actualType = some m₁.entity :=
              entity?_eq_some_iff.2 ⟨m₁, hm, rfl⟩
            exact List.pairwise_map.2 ((ih _ hav m₁).imp fun h => .deeper he h)
          · exact .nil
    · refine (pairwise_exposed m byAlias).imp fun {x y} hxy e he e' he' => ?_
      have hx : e ∈ r.inlined byAlias available inside [x] := by
        rw [inlined, List.flatMap_singleton]; exact he
      have hy : e' ∈ r.inlined byAlias available inside [y] := by
        rw [inlined, List.flatMap_singleton]; exact he'
      obtain ⟨_, hx, ps, hps⟩ := exists_cons_of_mem_inlined hx
      obtain ⟨_, hy, qs, hqs⟩ := exists_cons_of_mem_inlined hy
      rw [hps, hqs, List.mem_singleton.1 hx, List.mem_singleton.1 hy]
      exact .here hxy

/-! ## The wrapped mapping -/

theorem exposed_of_model? {t : TypeExpr} (hm : r.model? t = some m) :
    r.exposed byAlias m.entity.type = m.exposed byAlias := by
  have h : r.models.ofType? (.model m.name) = some m := (model?_eq_some_iff.1 hm).2.1
  simp only [exposed, Model.entity, h, Option.map_some, Option.getD_some]

theorem wrapped_of_model? {t : TypeExpr} (hm : r.model? t = some m) :
    r.wrapped byAlias m.entity =
      .ofList (r.inlined byAlias (r.managed.erase m.name) false (m.exposed byAlias)) := by
  rw [wrapped, exposed_of_model? hm]
  rfl

/-- The entries of the wrapped mapping are the chains that inline a value. -/
theorem mem_inlined_iff_inlines {name : String} {chain : List (Property TypeExpr)} :
    (name, chain) ∈ r.inlined byAlias (r.managed.erase m.name) false (m.exposed byAlias) ↔
      ∃ us p, r.Inlines byAlias m us p name ∧ chain = (us ++ [p]).map Field.property := by
  rw [mem_inlined_exposed_iff (r.nodup.erase _)]
  constructor
  · intro h
    obtain ⟨us, p, ms, m', hus, hp, hpu, hnd, hms, hne, he⟩ := h
    obtain ⟨rfl, rfl⟩ := Prod.mk.inj he
    rw [forall_mem_erase_iff r.nodup] at hms
    have hnd' : ((m :: ms).map (·.name)).Nodup := List.nodup_cons.2 ⟨hms.1, hnd⟩
    exact ⟨us, p, ⟨ms, m', hne.resolve_left (by simp), hus, hp, hpu, hnd', rfl⟩, rfl⟩
  · intro h
    obtain ⟨us, p, ⟨ms, m', hne, hus, hp, hpu, hnd, rfl⟩, rfl⟩ := h
    rw [List.map_cons, List.nodup_cons] at hnd
    have hms : ∀ m₁ ∈ ms, m₁.name ∈ r.managed.erase m.name :=
      (forall_mem_erase_iff r.nodup).2 ⟨hnd.1, hus.managed⟩
    exact ⟨us, p, ms, m', hus, hp, hpu, hnd.2, hms, .inr hne, rfl⟩

theorem flat_of_model? {t : TypeExpr} (hm : r.model? t = some m) :
    r.flat byAlias m.entity =
      .ofList ((m.exposed byAlias).map fun x => (x.name, x.property)) := by
  rw [flat, exposed_of_model? hm]

/-- What a name stands for, by either mapping of a registered model, is the properties along unwrapped
fields and then of one more field. -/
theorem exists_unwraps_of_finds {t : TypeExpr} (hm : r.model? t = some m) {name : String}
    {chain : List (Property TypeExpr)}
    (h : ((r.catalog byAlias).mappings m.entity).Finds name chain) :
    ∃ us p ms m', r.Unwraps m us ms m' ∧ m'.Serializes p ∧ chain = (us ++ [p]).map Field.property := by
  cases h with
  | wrapped h =>
    change (r.wrapped byAlias m.entity).table.get? name = some chain at h
    rw [wrapped_of_model? hm] at h
    obtain ⟨us, p, ⟨ms, m', -, hus, hp, -⟩, hc⟩ :=
      mem_inlined_iff_inlines.1 (Table.mem_of_get?_ofList h)
    exact ⟨us, p, ms, m', hus, hp, hc⟩
  | @flat q _ h =>
    change (r.flat byAlias m.entity).table.get? name = some q at h
    rw [flat_of_model? hm] at h
    obtain ⟨x, hx, hxe⟩ := List.mem_map.1 (Table.mem_of_get?_ofList h)
    obtain ⟨f, hf, rfl⟩ := Model.mem_exposed_iff.1 hx
    cases hxe
    exact ⟨[], f, [], m, .here, hf, rfl⟩

/-- **Unwrapping.** From a registered model, the names of the wrapped mapping are those that simple chains
of unwrapped fields give to their values, and each name leads along the chain that is last in depth-first
order of declaration. -/
theorem chain?_wrapped_iff_last {t : TypeExpr} (hm : r.model? t = some m) (name : String) :
    (((r.wrapped byAlias m.entity).chain? name).isSome ↔ ∃ us p, r.Inlines byAlias m us p name) ∧
    ∀ chain, (r.wrapped byAlias m.entity).chain? name = some chain ↔
      ∃ us p, r.Inlines byAlias m us p name ∧ chain = (us ++ [p]).map Field.property ∧
        ∀ us' p', r.Inlines byAlias m us' p' name →
          (us' ++ [p']).map Field.property = chain ∨
            Before r m.entity ((us' ++ [p']).map Field.property) chain := by
  have hsome : ((r.wrapped byAlias m.entity).chain? name).isSome ↔
      ∃ us p, r.Inlines byAlias m us p name := by
    rw [wrapped_of_model? hm, WrappedMapping.chain?, WrappedMapping.ofList, Table.get?_ofList_isSome_iff]
    constructor
    · intro h
      obtain ⟨chain, hmem⟩ := h
      obtain ⟨us, p, hp, -⟩ := mem_inlined_iff_inlines.1 hmem
      exact ⟨us, p, hp⟩
    · intro h
      obtain ⟨us, p, hp⟩ := h
      exact ⟨_, mem_inlined_iff_inlines.2 ⟨us, p, hp, rfl⟩⟩
  have hlast : ∀ chain, (r.wrapped byAlias m.entity).chain? name = some chain →
      ∃ us p, r.Inlines byAlias m us p name ∧ chain = (us ++ [p]).map Field.property ∧
        ∀ us' p', r.Inlines byAlias m us' p' name →
          (us' ++ [p']).map Field.property = chain ∨
            Before r m.entity ((us' ++ [p']).map Field.property) chain := by
    intro chain h
    rw [wrapped_of_model? hm] at h
    obtain ⟨hmem, hbefore⟩ := Table.get?_ofList_of_pairwise (pairwise_inlined m _) h
    obtain ⟨us, p, hp, rfl⟩ := mem_inlined_iff_inlines.1 hmem
    exact ⟨us, p, hp, rfl, fun us' p' hp' =>
      hbefore _ (mem_inlined_iff_inlines.2 ⟨us', p', hp', rfl⟩)⟩
  refine ⟨hsome, fun chain => ⟨hlast chain, fun h => ?_⟩⟩
  obtain ⟨us, p, hp, rfl, hbefore⟩ := h
  obtain ⟨chain, hchain⟩ := Option.isSome_iff_exists.1 (hsome.2 ⟨us, p, hp⟩)
  obtain ⟨us', p', hp', rfl, hbefore'⟩ := hlast chain hchain
  -- Each of the two chains is last, so neither is before the other.
  rcases hbefore us' p' hp' with he | hlt
  · rw [hchain, he]
  · rcases hbefore' us p hp with he | hlt'
    · rw [hchain, he]
    · exact absurd hlt' (hlt.asymm (nodup_properties m))

/-! ## A sample: two parts under one leading text -/

/-- A part, which would unwrap its pair again. -/
def part : Model :=
  ⟨"Part", "parts", none,
    [⟨"label", .scalar .text, none⟩,
     ⟨"pair", .annotated (.model "Pair") [.unwrapped ⟨"in_", "", true⟩], none⟩], by decide⟩

/-- Two parts whose names collide. -/
def pair : Model :=
  ⟨"Pair", "parts", none,
    [⟨"first", .annotated (.model "Part") [.unwrapped ⟨"p_", "", true⟩], none⟩,
     ⟨"second", .annotated (.model "Part") [.unwrapped ⟨"p_", "", true⟩], none⟩], by decide⟩

def parts : Registry := (empty [part, pair]).addModel "Pair"

/-- The colliding name leads to the second part, and the cycle is not entered. -/
theorem chain?_wrapped_parts : parts.model? (.model "Pair") = some pair ∧
    (∃ us p, parts.Inlines true pair us p "p_label" ∧
      [⟨"second", .model "Part", none, false⟩, ⟨"label", .scalar .text, none, false⟩] =
        (us ++ [p]).map Field.property ∧
      ∀ us' p', parts.Inlines true pair us' p' "p_label" →
        (us' ++ [p']).map Field.property = (us ++ [p]).map Field.property ∨
          Before parts pair.entity ((us' ++ [p']).map Field.property)
            ((us ++ [p]).map Field.property)) ∧
    ¬∃ us p, parts.Inlines true pair us p "p_in_p_label" := by
  have hm : parts.model? (.model "Pair") = some pair :=
    model?_eq_some_iff.2 ⟨rfl, rfl, by decide +kernel⟩
  have hlabel : (parts.wrapped true pair.entity).chain? "p_label" =
      some [⟨"second", .model "Part", none, false⟩, ⟨"label", .scalar .text, none, false⟩] := by
    with_unfolding_all rfl
  have hcycle : ¬((parts.wrapped true pair.entity).chain? "p_in_p_label").isSome := by decide +kernel
  obtain ⟨us, p, hp, he, hlast⟩ := ((chain?_wrapped_iff_last hm "p_label").2 _).1 hlabel
  exact ⟨hm, ⟨us, p, hp, he, he ▸ hlast⟩,
    fun h => hcycle ((chain?_wrapped_iff_last hm "p_in_p_label").1.2 h)⟩

end Registry

end SortPath
