import SortPath.Repositories

/-!
# What registration reaches

Registering a model follows the references of what it finds, each model once (`discover`). The result is
`Closed`: whatever a registered model refers to is registered too, as far as it is declared.

Exposing a model registers it and notes it in two tables. They are `Sound` together: what a path leads to
is an exposed model, and its metadata is served.

Results:
* `mem_discover_of_pending`, `mem_discover_of_next`: discovery misses nothing that is pending, and
  nothing that a discovered element leads to.
* `Registry.Closed.addModel`: registration keeps a registry closed.
* `Repositories.Sound.registerAll`: exposing types keeps the tables sound.
-/
namespace SortPath

section
variable {α : Type} [DecidableEq α] {next : α → List α} {unseen pending : List α} {a b : α}

theorem mem_dropWhile_notMem (hb : b ∈ pending) (hu : b ∈ unseen) :
    b ∈ pending.dropWhile (· ∉ unseen) := by
  induction pending with
  | nil => cases hb
  | cons c cs ih =>
    by_cases hc : c ∈ unseen
    · simpa [hc] using hb
    · have hne : b ≠ c := fun he => hc (he ▸ hu)
      simpa [hc] using ih ((List.mem_cons.1 hb).resolve_left hne)

theorem mem_discover_of_pending (hb : b ∈ pending) (hu : b ∈ unseen) :
    b ∈ discover next unseen pending := by
  fun_induction discover next unseen pending with
  | case1 unseen pending hf =>
    have hd := mem_dropWhile_notMem hb hu
    rw [hf] at hd
    cases hd
  | case2 unseen pending a rest hf ih =>
    have hd := mem_dropWhile_notMem hb hu
    rw [hf] at hd
    rcases List.mem_cons.1 hd with rfl | hr
    · exact List.mem_cons_self ..
    · by_cases he : b = a
      · exact he ▸ List.mem_cons_self ..
      · exact List.mem_cons_of_mem _
          (ih (List.mem_append_right _ hr) ((List.mem_erase_of_ne he).2 hu))

theorem mem_discover_of_next (ha : a ∈ discover next unseen pending) (hb : b ∈ next a)
    (hu : b ∈ unseen) : b ∈ discover next unseen pending := by
  fun_induction discover next unseen pending with
  | case1 => cases ha
  | case2 unseen pending c rest hf ih =>
    by_cases he : b = c
    · exact he ▸ List.mem_cons_self ..
    · have hu' := (List.mem_erase_of_ne he).2 hu
      rcases List.mem_cons.1 ha with rfl | ha
      · exact List.mem_cons_of_mem _ (mem_discover_of_pending (List.mem_append_left _ hb) hu')
      · exact List.mem_cons_of_mem _ (ih ha hu')

end

namespace Registry

variable {r : Registry} {name : String}

/-- What a registered model refers to is registered, as far as it is declared. -/
def Closed (r : Registry) : Prop :=
  ∀ n ∈ r.managed, ∀ k ∈ r.references n, k ∈ r.models.map (·.name) → k ∈ r.managed

theorem closed_empty (ms : Models) : (empty ms).Closed := by
  intro n hn
  cases hn

theorem mem_managed_addModel (h : name ∈ r.models.map (·.name)) : name ∈ (r.addModel name).managed := by
  by_cases hm : name ∈ r.managed
  · exact List.mem_append_left _ hm
  · exact List.mem_append_right _
      (mem_discover_of_pending (List.mem_singleton_self _) (mem_unmanaged.2 ⟨h, hm⟩))

theorem entity?_addModel {n : String} {m : Model} (h : r.models.find? n = some m) :
    (r.addModel n).entity? (.model n) = some m.entity := by
  obtain rfl := Models.name_of_find? h
  have hd : m.name ∈ r.models.map (·.name) := List.mem_map_of_mem (List.mem_of_find?_eq_some h)
  exact entity?_eq_some_iff.2 ⟨m, model?_eq_some_iff.2 ⟨rfl, h, mem_managed_addModel hd⟩, rfl⟩

theorem entity?_addModel_of_entity? {t : TypeExpr} {e : Entity TypeExpr} (h : r.entity? t = some e)
    (name : String) : (r.addModel name).entity? t = some e := by
  obtain ⟨m, hm, rfl⟩ := entity?_eq_some_iff.1 h
  obtain ⟨rfl, hf, hmem⟩ := model?_eq_some_iff.1 hm
  exact entity?_eq_some_iff.2 ⟨m, model?_eq_some_iff.2 ⟨rfl, hf, List.mem_append_left _ hmem⟩, rfl⟩

theorem Closed.addModel (h : r.Closed) (name : String) : (r.addModel name).Closed := by
  intro n hn k hk hd
  by_cases hm : k ∈ r.managed
  · exact List.mem_append_left _ hm
  · have hu : k ∈ r.unmanaged := mem_unmanaged.2 ⟨hd, hm⟩
    rcases List.mem_append.1 hn with hn | hn
    · exact absurd (h n hn k hk hd) hm
    · exact List.mem_append_right _ (mem_discover_of_next hn hk hu)

end Registry

/-! ## Exposed models -/

namespace Repositories

variable {rs rs' : Repositories} {t? : Option TypeExpr} {path? : Option String} {path : String}
  {types : List (Option TypeExpr × Option String)}

/-- Whatever each registration keeps, registrations one after the other keep. -/
theorem registerAll_induction {P : Repositories → Prop} (h : P rs)
    (step : ∀ rs t? path? path rs', P rs → rs.register t? path? = .ok (path, rs') → P rs')
    (hr : rs.registerAll types = .ok rs') : P rs' := by
  induction types generalizing rs with
  | nil =>
    cases hr
    exact h
  | cons x types ih =>
    obtain ⟨t?, path?⟩ := x
    rw [registerAll] at hr
    split at hr
    · next path rs₁ h₁ => exact ih (step rs t? path? path rs₁ h h₁) hr
    · cases hr

theorem models_registerAll (hr : rs.registerAll types = .ok rs') :
    rs'.registry.models = rs.registry.models := by
  refine registerAll_induction (P := fun rs₁ => rs₁.registry.models = rs.registry.models) rfl ?_ hr
  intro rs₁ t? path? path rs₂ h h₂
  obtain ⟨-, -, m, -, -, rfl⟩ := register_eq_ok_iff.1 h₂
  exact h

/-- What a path leads to is an exposed model with metadata. -/
def Sound (rs : Repositories) : Prop :=
  ∀ path name, rs.byPath.get? path = some name → ∃ e, rs.entity? (.model name) = some e

theorem sound_empty (ms : Models) : (empty ms).Sound := by
  intro path name h
  cases h

theorem entity?_eq_some_iff {name : String} {e : Entity TypeExpr} :
    rs.entity? (.model name) = some e ↔
      (∃ path, rs.byModel.get? name = some path) ∧ rs.registry.entity? (.model name) = some e := by
  have hc : rs.contains (.model name) = (rs.byModel.get? name).isSome := rfl
  rw [entity?, hc, Option.ite_none_right_eq_some, Option.isSome_iff_exists]

theorem Sound.register (h : rs.Sound) (hr : rs.register t? path? = .ok (path, rs')) : rs'.Sound := by
  obtain ⟨-, -, m, -, hm, rfl⟩ := register_eq_ok_iff.1 hr
  intro p name hp
  rw [Table.get?_insert] at hp
  simp only [entity?_eq_some_iff, Table.get?_insert]
  split at hp
  · cases hp
    exact ⟨m.entity, ⟨path, if_pos rfl⟩, Registry.entity?_addModel hm⟩
  · obtain ⟨e, he⟩ := h p name hp
    obtain ⟨⟨q, hq⟩, he⟩ := entity?_eq_some_iff.1 he
    refine ⟨e, ?_, Registry.entity?_addModel_of_entity? he _⟩
    split
    · exact ⟨path, rfl⟩
    · exact ⟨q, hq⟩

/-- **Soundness.** Exposing types keeps the tables sound. -/
theorem Sound.registerAll (h : rs.Sound) (hr : rs.registerAll types = .ok rs') : rs'.Sound :=
  registerAll_induction h (fun _ _ _ _ _ => Sound.register) hr

end Repositories

end SortPath
