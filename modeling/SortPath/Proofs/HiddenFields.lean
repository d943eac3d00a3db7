import SortPath.Proofs.Exposure
import SortPath.Proofs.Registration

/-!
# Hidden fields do not interfere

A field is visible if it is stored and serialized; excluded and transient fields are hidden. Two
collections of models may differ in hidden fields: such fields come and go, have other types, markers and
aliases, and lead to models that the other collection declares differently or not at all. Excluded fields
are registered like visible ones, so the two registries that come from one root differ in their entities
and in what they manage. No sorting tells them apart.

**Agreement.** `AgreeOn shared ms ms'` says that the `shared` models are declared in both collections,
that their visible fields are declared alike, and that these lead to shared models only. Models that are
not shared occur behind hidden fields and are arbitrary.

**Simulation.** `Twins` relates the two declarations of a shared model that both registries serve.

Results:
* `Twins.target`: a visible field of twins leads to twins again, or to no registered model.
* `inlined_congr`, `mappings_congr`: twins have the same names and chains.
* `Resolves.of_twins`: what resolves from one twin resolves from the other.
* `resolve_eq_of_agreeOn`: every sorting by a shared model gives the same result in both collections.
-/
namespace SortPath

/-! ## Visible fields -/

/-- What is declared about a field. -/
def Field.declaration (f : Field) : String × TypeExpr × FieldOptions := (f.name, f.type, f.options)

namespace Model

variable {m m' : Model} {f f' : Field}

/-- The fields that are stored and serialized, in order of declaration. -/
def visible (m : Model) : List Field := m.fields.filter fun f => !f.isTransient && !f.options.excluded

theorem mem_visible_iff : f ∈ m.visible ↔ m.Serializes f := by
  simp only [visible, List.mem_filter, Bool.and_eq_true, Bool.not_eq_true']
  exact ⟨fun ⟨h1, h2, h3⟩ => ⟨h1, h2, h3⟩, fun ⟨h1, h2, h3⟩ => ⟨h1, h2, h3⟩⟩

/-- The models have the same naming strategy and declare the same visible fields in the same order. -/
structure Agree (m m' : Model) : Prop where
  strategy : m.strategy? = m'.strategy?
  fields : m.visible.map Field.declaration = m'.visible.map Field.declaration

theorem Agree.symm (h : m.Agree m') : m'.Agree m := ⟨h.strategy.symm, h.fields.symm⟩

/-- What depends on the declaration of a field alone is the same for the visible fields of both. -/
theorem Agree.map_visible {α : Type} (h : m.Agree m') (g : Field → α)
    (hg : ∀ f f', f.declaration = f'.declaration → g f = g f') :
    m.visible.map g = m'.visible.map g := by
  let ofDeclaration (d : String × TypeExpr × FieldOptions) : Field := ⟨d.1, d.2.1, some d.2.2⟩
  have hfield : g = (g ∘ ofDeclaration) ∘ Field.declaration := funext fun f => hg f _ rfl
  rw [hfield, ← List.map_map, h.fields, List.map_map]

theorem property_of_declaration (h : f.declaration = f'.declaration) : f.property = f'.property := by
  simp only [Field.declaration, Prod.mk.injEq] at h
  simp only [Field.property, Field.isAssociation, Field.markers, h]

theorem exposed_eq_map_visible (m : Model) (byAlias : Bool) : m.exposed byAlias =
    m.visible.map fun f => ⟨f.externalName m.strategy? byAlias, f.unwrapping?, f.property⟩ := by
  rw [exposed, stored, visible, List.filter_filter]
  simp only [Bool.and_comm]

theorem Agree.exposed_eq (h : m.Agree m') (byAlias : Bool) : m.exposed byAlias = m'.exposed byAlias := by
  rw [exposed_eq_map_visible, exposed_eq_map_visible, h.strategy]
  refine h.map_visible _ fun f f' hd => ?_
  have hp := property_of_declaration hd
  simp only [Field.declaration, Prod.mk.injEq] at hd
  rw [Exposed.mk.injEq]
  refine ⟨?_, ?_, hp⟩
  · simp only [Field.externalName, Field.aliases, hd]
  · simp only [Field.unwrapping?, Field.markers, hd]

theorem Agree.exists_property_eq (h : m.Agree m') (hf : m.Serializes f) :
    ∃ f', m'.Serializes f' ∧ f'.property = f.property := by
  have hm : f.property ∈ m.visible.map Field.property := List.mem_map_of_mem (mem_visible_iff.2 hf)
  rw [h.map_visible Field.property fun _ _ => property_of_declaration] at hm
  obtain ⟨f', hf', he⟩ := List.mem_map.1 hm
  exact ⟨f', mem_visible_iff.1 hf', he⟩

end Model

/-- The collections agree on the visible fields of the `shared` models: both declare these, their visible
fields are the same, and these lead to shared models or to names that neither collection declares. -/
structure Models.AgreeOn (shared : String → Prop) (ms ms' : Models) : Prop where
  agree : ∀ n, shared n → ∃ m m', ms.find? n = some m ∧ ms'.find? n = some m' ∧ m.Agree m'
  target : ∀ n, shared n → ∀ m, ms.find? n = some m → ∀ f, m.Serializes f → ∀ k,
    f.property.actualType = .model k → shared k ∨ (ms.find? k = none ∧ ms'.find? k = none)

theorem Models.AgreeOn.symm {shared : String → Prop} {ms ms' : Models} (h : ms.AgreeOn shared ms') :
    ms'.AgreeOn shared ms where
  agree n hn := by
    obtain ⟨m, m', hm, hm', ha⟩ := h.agree n hn
    exact ⟨m', m, hm', hm, ha.symm⟩
  target n hn m₁ hm₁ f hf k hk := by
    obtain ⟨m, m', hm, hm', ha⟩ := h.agree n hn
    obtain rfl : m₁ = m' := Option.some.inj (hm₁.symm.trans hm')
    obtain ⟨f', hf', he⟩ := ha.symm.exists_property_eq hf
    exact (h.target n hn m hm f' hf' k (he ▸ hk)).imp_right And.symm

namespace Registry

variable {r r' : Registry} {shared : String → Prop} {byAlias inside : Bool} {m m' : Model}

/-! ## Twins -/

/-- The declarations of one shared model that two registries serve. -/
structure Twins (r r' : Registry) (shared : String → Prop) (m m' : Model) : Prop where
  shared : shared m.name
  left : r.model? (.model m.name) = some m
  right : r'.model? (.model m.name) = some m'

/-- Two closed registries over collections that agree. -/
structure Alike (r r' : Registry) (shared : String → Prop) : Prop where
  agree : r.models.AgreeOn shared r'.models
  closed : r.Closed
  closed' : r'.Closed

theorem Alike.symm (h : Alike r r' shared) : Alike r' r shared := ⟨h.agree.symm, h.closed', h.closed⟩

theorem Twins.name_eq (h : Twins r r' shared m m') : m'.name = m.name := by
  have he := (model?_eq_some_iff.1 h.right).1
  exact (TypeExpr.model.inj he).symm

theorem Twins.symm (h : Twins r r' shared m m') : Twins r' r shared m' m := by
  refine ⟨?_, ?_, ?_⟩ <;> rw [h.name_eq]
  · exact h.shared
  · exact h.right
  · exact h.left

theorem Twins.agree (h : Twins r r' shared m m') (ha : Alike r r' shared) : m.Agree m' := by
  obtain ⟨m₁, m₁', hm₁, hm₁', hag⟩ := ha.agree.agree _ h.shared
  have hl := (model?_eq_some_iff.1 h.left).2.1
  have hr := (model?_eq_some_iff.1 h.right).2.1
  rw [h.name_eq] at hr
  rw [hl] at hm₁
  rw [hr] at hm₁'
  cases hm₁
  cases hm₁'
  exact hag

/-- What a registered model leads to is registered, where it is declared. -/
theorem Closed.model?_target (hc : r.Closed) {t : TypeExpr} (hm : r.model? t = some m) {f : Field}
    (hf : m.Serializes f) {k : String} (hk : f.property.actualType = .model k) {m₁ : Model}
    (hm₁ : r.models.find? k = some m₁) : r.model? (.model k) = some m₁ := by
  obtain ⟨-, hfind, hmem⟩ := model?_eq_some_iff.1 hm
  obtain rfl := Models.name_of_find? hm₁
  have href : m₁.name ∈ r.references m.name := by
    simp only [references, hfind, Option.map_some, Option.getD_some, Model.references, List.mem_filterMap]
    exact ⟨f, List.mem_filter.2 ⟨hf.mem, by simp [hf.stored]⟩, TypeExpr.model?_eq_some_iff.2 hk⟩
  have hdecl : m₁.name ∈ r.models.map (·.name) :=
    List.mem_map_of_mem (List.mem_of_find?_eq_some hm₁)
  exact model?_eq_some_iff.2 ⟨rfl, hm₁, hc _ hmem _ href hdecl⟩

/-- **Step of the simulation.** A visible field of twins leads to twins, or to nothing registered. -/
theorem Twins.target (h : Twins r r' shared m m') (ha : Alike r r' shared) {f : Field}
    (hf : m.Serializes f) :
    (r.model? f.property.actualType = none ∧ r'.model? f.property.actualType = none) ∨
      ∃ m₁ m₁', r.model? f.property.actualType = some m₁ ∧
        r'.model? f.property.actualType = some m₁' ∧ Twins r r' shared m₁ m₁' := by
  cases hk : f.property.actualType.model? with
  | none => left; simp [model?, Models.ofType?, hk]
  | some k =>
    rw [TypeExpr.model?_eq_some_iff] at hk
    rw [hk]
    have hfind := (model?_eq_some_iff.1 h.left).2.1
    rcases ha.agree.target _ h.shared m hfind f hf k hk with hs | ⟨hno, hno'⟩
    · right
      obtain ⟨m₁, m₁', hm₁, hm₁', -⟩ := ha.agree.agree k hs
      obtain ⟨f', hf', he⟩ := (h.agree ha).exists_property_eq hf
      have hl := ha.closed.model?_target h.left hf hk hm₁
      have hr := ha.closed'.model?_target h.right hf' (he ▸ hk) hm₁'
      obtain rfl := Models.name_of_find? hm₁
      exact ⟨m₁, m₁', hl, hr, hs, hl, hr⟩
    · left
      simp [model?, Models.ofType?, TypeExpr.model?, hno, hno']

/-! ## Names and chains -/

/-- Twins inline the same values under the same names, where the same models are available. -/
theorem inlined_congr (ha : Alike r r' shared) (h : Twins r r' shared m m')
    {available available' : List String} (hn : available.Nodup) (hn' : available'.Nodup)
    (hav : ∀ n, n ∈ r.managed → n ∈ r'.managed → (n ∈ available ↔ n ∈ available')) :
    r.inlined byAlias available inside (m.exposed byAlias) =
      r'.inlined byAlias available' inside (m'.exposed byAlias) := by
  induction available using available_induction generalizing available' inside m m' with
  | step available ih =>
    rw [← (h.agree ha).exposed_eq, inlined, inlined, List.flatMap_def, List.flatMap_def]
    refine congrArg List.flatten (List.map_congr_left fun x hx => ?_)
    obtain ⟨f, hf, rfl⟩ := Model.mem_exposed_iff.1 hx
    dsimp only
    cases f.unwrapping? with
    | none => rfl
    | some u =>
      rcases h.target ha hf with ⟨hno, hno'⟩ | ⟨m₁, m₁', hm₁, hm₁', h₁⟩
      · rw [hno, hno']
      · have hiff := hav m₁.name (model?_eq_some_iff.1 hm₁).2.2
          (h₁.name_eq ▸ (model?_eq_some_iff.1 hm₁').2.2)
        rw [hm₁, hm₁']
        dsimp only
        rw [h₁.name_eq]
        by_cases hmem : m₁.name ∈ available
        · have hav₁ : ∀ k, k ∈ r.managed → k ∈ r'.managed →
              (k ∈ available.erase m₁.name ↔ k ∈ available'.erase m₁.name) := fun k hk hk' => by
            rw [hn.mem_erase_iff, hn'.mem_erase_iff, hav k hk hk']
          have hrec : r.inlined byAlias (available.erase m₁.name) true (m₁.exposed byAlias) =
              r'.inlined byAlias (available'.erase m₁.name) true (m₁'.exposed byAlias) :=
            ih _ hmem h₁ (hn.erase _) (hn'.erase _) hav₁
          rw [dif_pos hmem, dif_pos (hiff.1 hmem), hrec]
        · rw [dif_neg hmem, dif_neg fun hc => hmem (hiff.2 hc)]

theorem mappings_congr (ha : Alike r r' shared) (h : Twins r r' shared m m') :
    (r.catalog byAlias).mappings m.entity = (r'.catalog byAlias).mappings m'.entity := by
  have hav : ∀ n, n ∈ r.managed → n ∈ r'.managed →
      (n ∈ r.managed.erase m.name ↔ n ∈ r'.managed.erase m'.name) := fun n hn hn' => by
    rw [r.nodup.mem_erase_iff, r'.nodup.mem_erase_iff, h.name_eq]
    simp only [hn, hn']
  have hflat : r.flat byAlias m.entity = r'.flat byAlias m'.entity := by
    rw [flat_of_model? h.left, flat_of_model? h.right, (h.agree ha).exposed_eq]
  have hwrapped : r.wrapped byAlias m.entity = r'.wrapped byAlias m'.entity := by
    rw [wrapped_of_model? h.left, wrapped_of_model? h.right,
      inlined_congr ha h (r.nodup.erase _) (r'.nodup.erase _) hav]
  show Mappings.mk (r.flat byAlias m.entity) (r.wrapped byAlias m.entity) = _
  rw [hflat, hwrapped]
  rfl

/-- Unwrapped fields lead from twins to twins. -/
theorem Unwraps.twins (ha : Alike r r' shared) {us : List Field} {ms : List Model} {m₁ : Model}
    (hus : r.Unwraps m us ms m₁) (h : Twins r r' shared m m') : ∃ m₁', Twins r r' shared m₁ m₁' := by
  induction hus generalizing m' with
  | here => exact ⟨m', h⟩
  | into hf _ hm _ ih =>
    rcases h.target ha hf with ⟨hno, -⟩ | ⟨m₂, m₂', hm₂, -, h₂⟩
    · rw [hno] at hm; cases hm
    · rw [hm] at hm₂; cases hm₂
      exact ih h₂

end Registry

open Registry

/-! ## Resolution -/

variable {r r' : Registry} {shared : String → Prop} {byAlias : Bool}

/-- **Simulation.** What resolves from one twin resolves from the other, to the same names. -/
theorem Resolves.of_twins (ha : Alike r r' shared) {e : Entity TypeExpr} {segments names : List String}
    (hr : Resolves (r.catalog byAlias) e segments names) :
    ∀ m m', e = m.entity → Twins r r' shared m m' →
      Resolves (r'.catalog byAlias) m'.entity segments names := by
  induction hr with
  | last hf hne hass =>
    intro m m' he h
    subst he
    rw [mappings_congr ha h] at hf
    exact .last hf hne hass
  | @next e e' segment chain last rest names hf hl hass hn _ ih =>
    intro m m' he h
    subst he
    -- The chain ends at a visible field of twins, whose declared type leads to twins again.
    obtain ⟨us, p, ms, m₁, hus, hp, rfl⟩ := exists_unwraps_of_finds h.left hf
    obtain ⟨m₁', h₁⟩ := hus.twins ha h
    obtain rfl : p.property = last := by simpa using hl
    obtain ⟨m₂, hm₂, rfl⟩ := entity?_eq_some_iff.1 hn
    have hactual := actualType_of_model? hm₂
    rw [← hactual] at hm₂
    rcases h₁.target ha hp with ⟨hno, -⟩ | ⟨_, m₂', hm₂', hright, h₂⟩
    · rw [hno] at hm₂; cases hm₂
    · rw [hm₂] at hm₂'; cases hm₂'
      rw [mappings_congr ha h] at hf
      rw [hactual] at hright
      exact .next hf hl hass (entity?_eq_some_iff.2 ⟨m₂', hright, rfl⟩) (ih m₂ m₂' rfl h₂)

theorem walkPath_congr (byAlias : Bool) (ha : Alike r r' shared) {m m' : Model}
    (h : Twins r r' shared m m') (path : String) :
    ((r.catalog byAlias).walkPath ((r.catalog byAlias).mappings m.entity) path).value =
      ((r'.catalog byAlias).walkPath ((r'.catalog byAlias).mappings m'.entity) path).value := by
  refine Option.ext fun names => ?_
  rw [Catalog.walkPath_eq_some_iff, Catalog.walkPath_eq_some_iff]
  exact ⟨fun hr => hr.of_twins ha m m' rfl h, fun hr => hr.of_twins ha.symm m' m rfl h.symm⟩

/-- The registry of one model and what it leads to. -/
def Models.registered (ms : Models) (root : String) : Registry := (Registry.empty ms).addModel root

/-- The sorting by a model that is registered alone. -/
def Models.resolve (ms : Models) (root : String) (byAlias : Bool) (s : Option Sorting) :
    Except ResolutionError (Option Sorting) :=
  (((ms.registered root).catalog byAlias).resolve s ((ms.registered root).entity? (.model root))).value

theorem model?_registered {ms : Models} {root : String} {m : Model} (hm : ms.find? root = some m) :
    (ms.registered root).model? (.model root) = some m := by
  obtain rfl := Models.name_of_find? hm
  exact model?_eq_some_iff.2 ⟨rfl, hm,
    mem_managed_addModel (List.mem_map_of_mem (List.mem_of_find?_eq_some hm))⟩

theorem alike_registered {ms ms' : Models} (h : ms.AgreeOn shared ms') (root : String) :
    Alike (ms.registered root) (ms'.registered root) shared :=
  ⟨h, (closed_empty ms).addModel root, (closed_empty ms').addModel root⟩

/-- **Hidden fields do not interfere.** Where two collections of models agree on the visible fields of
shared models, every sorting by a shared model gives the same result in both. -/
theorem resolve_eq_of_agreeOn {ms ms' : Models} {shared : String → Prop} (h : ms.AgreeOn shared ms')
    {root : String} (hroot : shared root) (byAlias : Bool) (s : Option Sorting) :
    ms.resolve root byAlias s = ms'.resolve root byAlias s := by
  obtain ⟨m, m', hm, hm', -⟩ := h.agree root hroot
  have hl := model?_registered hm
  have hr := model?_registered hm'
  obtain rfl := Models.name_of_find? hm
  have hwalk := walkPath_congr byAlias (alike_registered h m.name) ⟨hroot, hl, hr⟩
  unfold Models.resolve
  rw [entity?_eq_some_iff.2 ⟨m, hl, rfl⟩, entity?_eq_some_iff.2 ⟨m', hr, rfl⟩]
  cases s with
  | none => rfl
  | some s =>
    rw [Catalog.value_resolve, Catalog.value_resolve, Catalog.value_resolveClauses_congr hwalk]

/-! ## A sample: a vault that only one collection has -/

namespace Sample

def place : Model := ⟨"Place", "shops", none, [field "city" text], by decide⟩

def vault : Model := ⟨"Vault", "shops", none, [field "city" text], by decide⟩

/-- A shop with an excluded vault, which would inline its own city. -/
def guardedShop : Model :=
  ⟨"Shop", "shops", none,
    [field "title" text,
     { field "vault" (.annotated (.model "Vault") [.unwrapped ⟨"", "", true⟩]) with
       options? := some { excluded := true } },
     field "place" (.annotated (.model "Place") [.unwrapped ⟨"", "", true⟩])], by decide⟩

/-- The shop without the vault and with a transient title of another form. -/
def plainShop : Model :=
  ⟨"Shop", "shops", none,
    [field "slug" (.annotated (.scalar .text) [.transient]), field "title" text,
     field "place" (.annotated (.model "Place") [.unwrapped ⟨"", "", true⟩])], by decide⟩

theorem agreeOn_shops :
    Models.AgreeOn (· ∈ ["Shop", "Place"]) [place, vault, guardedShop] [plainShop, place] where
  agree n hn := by
    simp only [List.mem_cons, List.not_mem_nil, or_false] at hn
    rcases hn with rfl | rfl
    · exact ⟨guardedShop, plainShop, rfl, rfl, rfl, rfl⟩
    · exact ⟨place, place, rfl, rfl, rfl, rfl⟩
  target n hn m hm f hf k hk := by
    simp only [List.mem_cons, List.not_mem_nil, or_false] at hn
    rw [← Model.mem_visible_iff] at hf
    rcases hn with rfl | rfl
    · obtain rfl : guardedShop = m := Option.some.inj hm
      have hv : guardedShop.visible = [field "title" text,
          field "place" (.annotated (.model "Place") [.unwrapped ⟨"", "", true⟩])] := rfl
      rw [hv] at hf
      rcases List.mem_cons.1 hf with rfl | hf
      · cases (show TypeExpr.scalar .text = .model k from hk)
      · obtain rfl := List.mem_singleton.1 hf
        obtain rfl : "Place" = k := TypeExpr.model.inj hk
        exact .inl (by simp)
    · obtain rfl : place = m := Option.some.inj hm
      have hv : place.visible = [field "city" text] := rfl
      rw [hv] at hf
      obtain rfl := List.mem_singleton.1 hf
      cases (show TypeExpr.scalar .text = .model k from hk)

/-- By the inlined city of the place, by the vault and by the slug. -/
def probes : Sorting :=
  ⟨[⟨"city", .ascending, .native, false, by decide⟩, ⟨"vault.city", .ascending, .native, false, by decide⟩,
    ⟨"slug", .ascending, .native, false, by decide⟩]⟩

theorem resolve_eq_of_agreeOn_shops :
    Models.AgreeOn (· ∈ ["Shop", "Place"]) [place, vault, guardedShop] [plainShop, place] ∧
    "Shop" ∈ ["Shop", "Place"] ∧
    Models.resolve [place, vault, guardedShop] "Shop" true (some probes) =
      Models.resolve [plainShop, place] "Shop" true (some probes) ∧
    Models.resolve [plainShop, place] "Shop" true (some probes) =
      .ok (some ⟨[⟨"place.city", .ascending, .native, false, by decide⟩]⟩) :=
  ⟨agreeOn_shops, by simp, resolve_eq_of_agreeOn agreeOn_shops (by simp) true (some probes),
    by with_unfolding_all rfl⟩

end Sample

end SortPath
