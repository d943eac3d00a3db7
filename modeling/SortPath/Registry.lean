import SortPath.Model
import SortPath.TypeExpr.Printer

/-!
# The metadata registry

The `Registry` holds the models whose metadata is served. Adding a model also adds every model that its
stored properties lead to, in depth-first order of declaration. Only the names are kept: the metadata of
a registered model is read off its declaration.

Results:
* `model?_eq_some_iff`: a registered model is the declared one of its name.
* `discover_cons`: discovery takes the pending models in order and goes into each before the next.
* `mem_of_mem_discover`, `discover_nodup`: discovery finds models that are not registered yet, each
  of them once.
-/
namespace SortPath

/-! ## Following references -/

section
variable {α : Type} [DecidableEq α]

theorem mem_of_dropWhile_notMem {unseen pending rest : List α} {a : α}
    (h : pending.dropWhile (· ∉ unseen) = a :: rest) : a ∈ unseen := by
  have hnot := List.head?_dropWhile_not (fun b => decide (b ∉ unseen)) pending
  rw [h] at hnot
  simpa using hnot

/-- The members of `unseen` that `pending` leads to: each with what it leads to before the next. -/
def discover (next : α → List α) (unseen pending : List α) : List α :=
  match _first : pending.dropWhile (· ∉ unseen) with
  | [] => []
  | a :: rest => a :: discover next (unseen.erase a) (next a ++ rest)
termination_by unseen.length
decreasing_by
  have hm := mem_of_dropWhile_notMem _first
  have := List.length_erase_of_mem hm
  have := List.length_pos_of_mem hm
  omega

theorem discover_nil (next : α → List α) (unseen : List α) : discover next unseen [] = [] := by
  rw [discover]; rfl

/-- One step: take the first pending element if it is new, or pass it over. -/
theorem discover_cons (next : α → List α) (unseen pending : List α) (a : α) :
    discover next unseen (a :: pending) =
      if a ∈ unseen then a :: discover next (unseen.erase a) (next a ++ pending)
      else discover next unseen pending := by
  by_cases h : a ∈ unseen
  · have hd : (a :: pending).dropWhile (· ∉ unseen) = a :: pending := by simp [h]
    rw [discover, if_pos h]
    split
    · next he => rw [hd] at he; cases he
    · next he => rw [hd] at he; cases he; rfl
  · have hd : (a :: pending).dropWhile (· ∉ unseen) = pending.dropWhile (· ∉ unseen) := by simp [h]
    rw [if_neg h, discover, discover, hd]

theorem mem_of_mem_discover {next : α → List α} {unseen pending : List α} {b : α}
    (h : b ∈ discover next unseen pending) : b ∈ unseen := by
  fun_induction discover next unseen pending with
  | case1 => simp at h
  | case2 unseen pending a rest hf ih =>
    rcases List.mem_cons.1 h with rfl | h
    · exact mem_of_dropWhile_notMem hf
    · exact List.mem_of_mem_erase (ih h)

theorem discover_nodup {next : α → List α} {unseen pending : List α} (hn : unseen.Nodup) :
    (discover next unseen pending).Nodup := by
  fun_induction discover next unseen pending with
  | case1 => exact List.nodup_nil
  | case2 unseen pending a rest hf ih =>
    exact List.nodup_cons.2 ⟨fun hm => (hn.mem_erase_iff.1 (mem_of_mem_discover hm)).1 rfl,
      ih (hn.erase a)⟩

end

/-! ## The registry -/

theorem nodup_eraseDups {α : Type} [BEq α] [LawfulBEq α] (l : List α) : l.eraseDups.Nodup := by
  induction h : l.length using Nat.strongRecOn generalizing l with
  | ind n ih =>
    cases l with
    | nil => simp
    | cons a as =>
      rw [List.eraseDups_cons]
      refine List.nodup_cons.2 ⟨fun hm => ?_, ih _ ?_ _ rfl⟩
      · simp [List.mem_eraseDups] at hm
      · have := List.length_filter_le (fun b => !b == a) as
        simp only [List.length_cons] at h; omega

/-- Declared models, and the names of those that are registered in the order of registration. -/
structure Registry where
  models : Models
  managed : List String
  nodup : managed.Nodup
  declared : ∀ n ∈ managed, n ∈ models.map (·.name)

namespace Registry

def empty (models : Models) : Registry := ⟨models, [], List.nodup_nil, by simp⟩

/-- The models that a model refers to, by name. -/
def references (r : Registry) (name : String) : List String :=
  ((r.models.find? name).map Model.references).getD []

/-- The declared models that are not registered. -/
def unmanaged (r : Registry) : List String :=
  ((r.models.map (·.name)).filter (· ∉ r.managed)).eraseDups

theorem mem_unmanaged {r : Registry} {n : String} :
    n ∈ r.unmanaged ↔ n ∈ r.models.map (·.name) ∧ n ∉ r.managed := by
  simp [unmanaged, List.mem_eraseDups]

/-- Register a model by name, with everything that it leads to. -/
def addModel (r : Registry) (name : String) : Registry where
  models := r.models
  managed := r.managed ++ discover r.references r.unmanaged [name]
  nodup := List.nodup_append.2 ⟨r.nodup, discover_nodup (nodup_eraseDups _), fun _ ha _ hb he =>
    (mem_unmanaged.1 (mem_of_mem_discover hb)).2 (he ▸ ha)⟩
  declared n hn := (List.mem_append.1 hn).elim (r.declared n) fun h =>
    (mem_unmanaged.1 (mem_of_mem_discover h)).1

/-- The registered model of a type. -/
def model? (r : Registry) (t : TypeExpr) : Option Model :=
  (r.models.ofType? t).filter fun m => m.name ∈ r.managed

/-- The metadata of a type, if it is registered. -/
def entity? (r : Registry) (t : TypeExpr) : Option (Entity TypeExpr) := (r.model? t).map Model.entity

theorem model?_eq_some_iff {r : Registry} {t : TypeExpr} {m : Model} :
    r.model? t = some m ↔
      t = .model m.name ∧ r.models.find? m.name = some m ∧ m.name ∈ r.managed := by
  simp only [model?, Models.ofType?, Option.filter_eq_some_iff, Option.bind_eq_some_iff,
    TypeExpr.model?_eq_some_iff, decide_eq_true_eq]
  constructor
  · intro h
    obtain ⟨⟨n, rfl, hf⟩, hm⟩ := h
    obtain rfl := Models.name_of_find? hf
    exact ⟨rfl, hf, hm⟩
  · intro h
    exact ⟨⟨m.name, h.1, h.2.1⟩, h.2.2⟩

theorem entity?_eq_some_iff {r : Registry} {t : TypeExpr} {e : Entity TypeExpr} :
    r.entity? t = some e ↔ ∃ m, r.model? t = some m ∧ m.entity = e := Option.map_eq_some_iff

/-- What was given is no model; it may be no type at all. -/
structure NotAModel where
  type? : Option TypeExpr
deriving Repr

/-- The reason, with the full names of declared models. -/
def NotAModel.message (ms : Models) (e : NotAModel) : String :=
  "Type " ++ (e.type?.map (·.display ms.fullName)).getD "None" ++ " is not a pydantic model"

/-- Register a type, which has to be a model, and answer with its metadata. -/
def add (r : Registry) (t? : Option TypeExpr) : Except NotAModel (Entity TypeExpr × Registry) :=
  match t?.bind r.models.ofType? with
  | some m => .ok (m.entity, r.addModel m.name)
  | none => .error ⟨t?⟩

/-- The properties of a type are asked for that is not registered. -/
inductive PropertyError
  | unregistered
deriving DecidableEq, Repr

def PropertyError.message : PropertyError → String
  | unregistered => "'NoneType' object has no attribute 'get_persistent_property'"

/-- A stored property of a registered type. -/
def property? (r : Registry) (t? : Option TypeExpr) (name : String) :
    Except PropertyError (Option (Property TypeExpr)) :=
  match t?.bind r.entity? with
  | some e => .ok (e.property? name)
  | none => .error .unregistered

end Registry

end SortPath
