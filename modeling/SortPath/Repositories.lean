import SortPath.Registry
import SortPath.Text.Blank
import SortPath.Text.Case

/-!
# Repositories

A repository exposes a registered model under a path. `byPath` lists the paths in the order in which
they were first taken, `byModel` the exposed models with the path that each was given last. A model may
be exposed under several paths; a path leads to one model for ever.

Results:
* `register_eq_ok_iff`: when a type can be exposed under a path, and what becomes of the tables.
* `register_path`: a registration answers with the requested path, or the default one, without the
  slashes around it.
-/
namespace SortPath

structure Repositories where
  registry : Registry
  /-- Model names by path. -/
  byPath : Table String String
  /-- Paths by model name. -/
  byModel : Table String String

inductive RegistrationError
  /-- The path leads to another model. -/
  | pathTaken (path : String) (owner : String)
  | notAModel (type? : Option TypeExpr)
  /-- No path was given, and what was given has no name to make one of. -/
  | nameless (type? : Option TypeExpr)
deriving Repr

/-- The reason, with the full names of declared models. -/
def RegistrationError.message (ms : Models) : RegistrationError → String
  | .pathTaken path owner => "Path '" ++ path ++ "' is already mapped to " ++ owner
  | .notAModel type? => (Registry.NotAModel.mk type?).message ms
  | .nameless none => "'NoneType' object has no attribute '__name__'"
  | .nameless (some _) => "'types.UnionType' object has no attribute '__name__'"

namespace Repositories

def empty (models : Models) : Repositories := ⟨.empty models, .empty, .empty⟩

/-- The path under which a type is exposed unless another is asked for. -/
def defaultPath? (t? : Option TypeExpr) : Option String :=
  (t?.bind (·.shortName?)).map fun name => Text.lower name ++ "s"

/-- The path for a request: the empty path asks for the default one. -/
def pathFor? (t? : Option TypeExpr) (path? : Option String) : Option String :=
  ((path?.filter (· ≠ "")).or (defaultPath? t?)).map Text.trimSlashes

/-- Expose a type under a path. A path that leads elsewhere is reported before a type that is no
model. -/
def register (rs : Repositories) (t? : Option TypeExpr) (path? : Option String) :
    Except RegistrationError (String × Repositories) :=
  match pathFor? t? path? with
  | none => .error (.nameless t?)
  | some path =>
    match (rs.byPath.get? path).filter fun owner => t?.bind (·.model?) ≠ some owner with
    | some owner => .error (.pathTaken path owner)
    | none =>
      match t?.bind rs.registry.models.ofType? with
      | none => .error (.notAModel t?)
      | some m =>
        .ok (path, ⟨rs.registry.addModel m.name, rs.byPath.insert path m.name,
          rs.byModel.insert m.name path⟩)

/-- Expose types one after the other. -/
def registerAll (rs : Repositories) :
    List (Option TypeExpr × Option String) → Except RegistrationError Repositories
  | [] => .ok rs
  | (t?, path?) :: es =>
    match rs.register t? path? with
    | .ok (_, rs') => rs'.registerAll es
    | .error e => .error e

/-- Register a type without exposing it. -/
def add (rs : Repositories) (t? : Option TypeExpr) :
    Except Registry.NotAModel (Entity TypeExpr × Repositories) :=
  match rs.registry.add t? with
  | .ok (e, registry) => .ok (e, { rs with registry })
  | .error e => .error e

/-- The model exposed under a path, which may have slashes around it. -/
def modelAt? (rs : Repositories) (path : String) : Option String :=
  rs.byPath.get? (Text.trimSlashes path)

/-- The path under which a type was exposed last. -/
def path? (rs : Repositories) (t : TypeExpr) : Option String := t.model?.bind rs.byModel.get?

/-- Whether a type is exposed. -/
def contains (rs : Repositories) (t : TypeExpr) : Bool := (rs.path? t).isSome

/-- The metadata of an exposed type. -/
def entity? (rs : Repositories) (t : TypeExpr) : Option (Entity TypeExpr) :=
  if rs.contains t then rs.registry.entity? t else none

def paths (rs : Repositories) : List String := rs.byPath.keys

/-- The exposed models, first exposed first. -/
def exposed (rs : Repositories) : List String := rs.byModel.keys

/-! ## What one registration does -/

variable {rs rs' : Repositories} {t? : Option TypeExpr} {path? : Option String} {path : String}

theorem bind_ofType?_eq_some_iff {ms : Models} {m : Model} :
    t?.bind ms.ofType? = some m ↔ t? = some (.model m.name) ∧ ms.find? m.name = some m := by
  simp only [Option.bind_eq_some_iff, Models.ofType?, TypeExpr.model?_eq_some_iff]
  constructor
  · intro h
    obtain ⟨t, rfl, n, rfl, hf⟩ := h
    rw [Models.name_of_find? hf]
    exact ⟨rfl, hf⟩
  · intro h
    exact ⟨_, h.1, _, rfl, h.2⟩

/-- No other model stands in the way of a type exactly if what the path leads to is the type. -/
theorem filter_owner_eq_none_iff {owner? : Option String} :
    (owner?.filter fun owner => t?.bind (·.model?) ≠ some owner) = none ↔
      ∀ owner, owner? = some owner → t? = some (.model owner) := by
  simp [Option.filter_eq_none_iff, Option.bind_eq_some_iff, TypeExpr.model?_eq_some_iff]

/-- A type can be exposed under a path if it is a declared model and the path leads nowhere else. It is
registered then, and both tables note it. -/
theorem register_eq_ok_iff : rs.register t? path? = .ok (path, rs') ↔
    pathFor? t? path? = some path ∧
      (∀ owner, rs.byPath.get? path = some owner → t? = some (.model owner)) ∧
      ∃ m, t? = some (.model m.name) ∧ rs.registry.models.find? m.name = some m ∧
        rs' = ⟨rs.registry.addModel m.name, rs.byPath.insert path m.name,
          rs.byModel.insert m.name path⟩ := by
  rw [register]
  constructor
  · intro h
    split at h
    · cases h
    · next p hp =>
      split at h
      · cases h
      · next ho =>
        split at h
        · cases h
        · next m hm =>
          cases h
          obtain ⟨ht, hf⟩ := bind_ofType?_eq_some_iff.1 hm
          exact ⟨hp, filter_owner_eq_none_iff.1 ho, m, ht, hf, rfl⟩
  · intro h
    obtain ⟨hp, ho, m, ht, hf, rfl⟩ := h
    have hm := bind_ofType?_eq_some_iff.2 ⟨ht, hf⟩
    rw [hp]
    dsimp only
    rw [filter_owner_eq_none_iff.2 ho]
    dsimp only
    rw [hm]

theorem register_path (h : rs.register t? path? = .ok (path, rs')) : pathFor? t? path? = some path :=
  (register_eq_ok_iff.1 h).1

end Repositories

end SortPath
