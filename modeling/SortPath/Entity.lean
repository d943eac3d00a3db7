import SortPath.Table

/-!
# Entities and the mappings of their external names

A stored type is described by an `Entity`: its properties in order of declaration. Types are values of
some `τ`; a property whose values are collections also names the type of their elements.

Two mappings lead from external names to properties. A `FlatMapping` gives one property for a name, a
`WrappedMapping` gives the chain of properties from a field that is inlined into its parent down to
the property that holds the value.

Results:
* `FlatMapping.fieldName?_eq_some`: reverse lookup gives a name that leads to a property so called.
* `FlatMapping.fieldName?_eq_some_iff`: it gives the only one, where no two properties are called alike.
-/
namespace SortPath

/-- A stored property of a type. -/
structure Property (τ : Type) where
  name : String
  /-- The declared type; for a collection the type of the collection itself. -/
  type : τ
  /-- The type of the elements of a collection. -/
  elementType : Option τ
  /-- Whether the property is a reference to another aggregate. -/
  isAssociation : Bool
deriving DecidableEq, Repr

namespace Property
variable {τ : Type}

def isCollection (p : Property τ) : Bool := p.elementType.isSome

/-- The type of the elements of a collection, otherwise the declared type. -/
def actualType (p : Property τ) : τ := p.elementType.getD p.type

end Property

/-- A stored type with its properties in order of declaration. -/
structure Entity (τ : Type) where
  type : τ
  properties : List (Property τ)
deriving DecidableEq, Repr

def Entity.property? {τ : Type} (e : Entity τ) (name : String) : Option (Property τ) :=
  e.properties.find? (·.name = name)

/-! ## Mappings -/

/-- External names of single properties. -/
structure FlatMapping (τ : Type) where
  table : Table String (Property τ)
deriving DecidableEq, Repr

namespace FlatMapping
variable {τ : Type}

def empty : FlatMapping τ := ⟨.empty⟩

/-- Of a repeated external name the last property counts. -/
def ofList (es : List (String × Property τ)) : FlatMapping τ := ⟨.ofList es⟩

def property? (m : FlatMapping τ) (name : String) : Option (Property τ) := m.table.get? name

/-- The external name of a property: the last one in the mapping that leads to it. -/
def fieldName? (m : FlatMapping τ) (propertyName : String) : Option String :=
  (m.table.entries.reverse.find? (·.2.name = propertyName)).map Prod.fst

def size (m : FlatMapping τ) : Nat := m.table.size

theorem fieldName?_eq_some {m : FlatMapping τ} {n f : String} (h : m.fieldName? n = some f) :
    ∃ p, m.property? f = some p ∧ p.name = n := by
  obtain ⟨e, he, rfl⟩ := Option.map_eq_some_iff.1 h
  have hm := List.mem_reverse.1 (List.mem_of_find?_eq_some he)
  exact ⟨e.2, Table.mem_entries_iff.1 hm, by simpa using List.find?_some he⟩

/-- Reverse lookup inverts a mapping in which no two names lead to properties of one name. -/
theorem fieldName?_eq_some_iff {m : FlatMapping τ}
    (hm : ∀ x y p q, m.property? x = some p → m.property? y = some q → p.name = q.name → x = y)
    {n x : String} : m.fieldName? n = some x ↔ ∃ p, m.property? x = some p ∧ p.name = n := by
  refine ⟨fieldName?_eq_some, fun h => ?_⟩
  obtain ⟨p, hp, hname⟩ := h
  have hfound : (m.fieldName? n).isSome := by
    unfold fieldName?
    rw [Option.isSome_map, List.find?_isSome]
    exact ⟨(x, p), List.mem_reverse.2 (Table.get?_eq_some_iff.1 hp), by simpa using hname⟩
  obtain ⟨y, hy⟩ := Option.isSome_iff_exists.1 hfound
  obtain ⟨q, hq, hname'⟩ := fieldName?_eq_some hy
  rw [hy, hm x y p q hp hq (hname.trans hname'.symm)]

end FlatMapping

/-- External names of chains of properties. -/
structure WrappedMapping (τ : Type) where
  table : Table String (List (Property τ))
deriving DecidableEq, Repr

namespace WrappedMapping
variable {τ : Type}

def empty : WrappedMapping τ := ⟨.empty⟩

/-- Of a repeated external name the last chain counts. -/
def ofList (es : List (String × List (Property τ))) : WrappedMapping τ := ⟨.ofList es⟩

def chain? (m : WrappedMapping τ) (name : String) : Option (List (Property τ)) := m.table.get? name

def size (m : WrappedMapping τ) : Nat := m.table.size

end WrappedMapping

end SortPath
