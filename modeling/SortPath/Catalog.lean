import SortPath.Entity

/-!
# Catalogs

A `Catalog` knows the entities of types and the mappings of their external names. What is asked of it is
recorded: a `Traced` value carries the lookups that were made for it, in order.
-/
namespace SortPath

/-! ## Recorded lookups -/

/-- One question to the catalog. -/
inductive Lookup (τ : Type)
  | flat (type : τ)
  | wrapped (type : τ)
  | entity (type : τ)
deriving DecidableEq, Repr

/-- A value with the lookups that were made for it, in order. -/
structure Traced (τ α : Type) where
  value : α
  lookups : List (Lookup τ)
deriving Repr

instance {τ : Type} : Monad (Traced τ) where
  pure a := ⟨a, []⟩
  bind x f := ⟨(f x.value).value, x.lookups ++ (f x.value).lookups⟩

namespace Traced
variable {τ α β : Type}

@[simp] theorem value_pure (a : α) : (pure a : Traced τ α).value = a := rfl

@[simp] theorem value_bind (x : Traced τ α) (f : α → Traced τ β) :
    (x >>= f).value = (f x.value).value := rfl

@[simp] theorem lookups_pure (a : α) : (pure a : Traced τ α).lookups = [] := rfl

@[simp] theorem lookups_bind (x : Traced τ α) (f : α → Traced τ β) :
    (x >>= f).lookups = x.lookups ++ (f x.value).lookups := rfl

end Traced

/-- Where entities and mappings come from. -/
structure Catalog (τ : Type) where
  /-- The entity of a type, if that has one. -/
  entity? : τ → Option (Entity τ)
  flat : Entity τ → FlatMapping τ
  wrapped : Entity τ → WrappedMapping τ

/-- The two mappings of one entity. -/
structure Mappings (τ : Type) where
  flat : FlatMapping τ
  wrapped : WrappedMapping τ

namespace Catalog
variable {τ : Type} (c : Catalog τ)

def mappings (e : Entity τ) : Mappings τ := ⟨c.flat e, c.wrapped e⟩

/-- Fetch the mappings of an entity, first the flat one. -/
def fetchMappings (e : Entity τ) : Traced τ (Mappings τ) :=
  ⟨c.mappings e, [.flat e.type, .wrapped e.type]⟩

def fetchEntity (t : τ) : Traced τ (Option (Entity τ)) := ⟨c.entity? t, [.entity t]⟩

end Catalog

end SortPath
