import SortPath.Fields
import SortPath.Text.Blank
import SortPath.Text.Case

/-!
# Sort clauses

A `Clause` asks for the order by one property: which way, where missing values go, and whether letter
case counts. Its property is never blank. A `Sorting` is a sequence of clauses, the most significant
first; asking for no order at all is `none` and not an empty sorting.

Results:
* `Clause.make?_eq_some_iff`: the clause that is made has the property and the flags it was made with.
* `Clause.withProperty?_eq_none_iff`: a clause can be pointed at any property that is not blank.
* `Sorting.ofClauses?_eq_none_iff`: clauses make a sorting unless there are none.
-/
namespace SortPath

/-! ## Directions -/

inductive Direction
  | ascending
  | descending
deriving DecidableEq, Repr

namespace Direction

def text : Direction → String
  | ascending => "asc"
  | descending => "desc"

def words : List (String × Direction) := [("asc", ascending), ("desc", descending)]

inductive Error
  /-- The text, trimmed and in lower case, is no keyword. -/
  | notAKeyword (value : String)
  /-- The value is not exactly a keyword. -/
  | notExact (value : Datum)
deriving Repr

def Error.message : Error → String
  | .notAKeyword value =>
    "Invalid value '" ++ value ++
      "' for orders given; Has to be either 'desc' or 'asc' (case insensitive)"
  | .notExact value => value.spelling ++ " is not a valid Direction"

/-- Read a keyword in any letter case, with white space around it. -/
def ofText? (value : String) : Option Direction := words.lookup (Text.lower (Text.trim value))

def ofText (value : String) : Except Error Direction :=
  match ofText? value with
  | some d => .ok d
  | none => .error (.notAKeyword value)

/-- Read a keyword exactly as it is written. -/
def ofKeyword (value : Datum) : Except Error Direction :=
  match value with
  | .text s => match words.lookup s with
    | some d => .ok d
    | none => .error (.notExact value)
  | _ => .error (.notExact value)

end Direction

/-! ## Missing values -/

/-- Where documents without the property go. -/
inductive NullPlacement
  /-- As the storage backend does by itself. -/
  | native
  | first
  | last
deriving DecidableEq, Repr

namespace NullPlacement

def text : NullPlacement → String
  | native => "native"
  | first => "nulls_first"
  | last => "nulls_last"

def words : List (String × NullPlacement) :=
  [("native", native), ("nulls_first", first), ("nulls_last", last)]

end NullPlacement

/-! ## Clauses -/

@[ext]
structure Clause where
  property : String
  direction : Direction
  nullPlacement : NullPlacement
  ignoreCase : Bool
  notBlank : Text.isAllBlank property = false
deriving DecidableEq

namespace Clause

/-- The clause for a property, unless that is blank. -/
def make? (property : String) (direction : Direction) (nullPlacement : NullPlacement)
    (ignoreCase : Bool) : Option Clause :=
  if h : Text.isAllBlank property = false then
    some ⟨property, direction, nullPlacement, ignoreCase, h⟩
  else none

/-- The plain clause for a property. -/
def plain? (property : String) (direction : Direction) : Option Clause :=
  make? property direction .native false

def isAscending (c : Clause) : Bool := c.direction == .ascending

/-- The same clause for another property, unless that is blank. -/
def withProperty? (c : Clause) (property : String) : Option Clause :=
  make? property c.direction c.nullPlacement c.ignoreCase

def ignoringCase (c : Clause) : Clause := { c with ignoreCase := true }

theorem withProperty?_eq_none_iff {c : Clause} {p : String} :
    c.withProperty? p = none ↔ Text.isAllBlank p = true := by
  by_cases h : Text.isAllBlank p = false <;> simp_all [withProperty?, make?]

theorem property_ne_empty (c : Clause) : c.property ≠ "" := by
  intro hempty
  have hblank := c.notBlank
  rw [hempty] at hblank
  cases hblank

theorem make?_eq_some_iff {p : String} {d : Direction} {n : NullPlacement} {i : Bool} {c : Clause} :
    make? p d n i = some c ↔
      c.property = p ∧ c.direction = d ∧ c.nullPlacement = n ∧ c.ignoreCase = i := by
  constructor
  · intro h
    simp only [make?] at h
    split at h
    · cases h; exact ⟨rfl, rfl, rfl, rfl⟩
    · cases h
  · rintro ⟨rfl, rfl, rfl, rfl⟩
    exact dif_pos c.notBlank

theorem withProperty?_eq_some_iff {c d : Clause} {p : String} :
    c.withProperty? p = some d ↔ d.property = p ∧ d.direction = c.direction ∧
      d.nullPlacement = c.nullPlacement ∧ d.ignoreCase = c.ignoreCase :=
  make?_eq_some_iff

/-! ## Clauses from records -/

/-- A property name that is not blank. -/
def readProperty : Datum → Except Problem { p : String // Text.isAllBlank p = false }
  | .text s => if h : Text.isAllBlank s = false then .ok ⟨s, h⟩ else .error .blankProperty
  | _ => .error .notText

/-- The clause that a record describes: `property`, and where they are present `direction`,
`null_handling` and `ignore_case`. -/
def ofRecord (r : Record) : Except Rejection Clause :=
  Checked.toExcept <|
    (fun p d n i => (⟨p.1, d, n, i, p.2⟩ : Clause))
      <$> r.field "property" none readProperty
      <*> r.field "direction" (some .ascending) (Datum.readWord Direction.words)
      <*> r.field "null_handling" (some .native) (Datum.readWord NullPlacement.words)
      <*> r.field "ignore_case" (some false) Datum.readBool

/-- `withProperty?` for a loose value. -/
def withPropertyOf (c : Clause) (value : Datum) : Except Rejection Clause :=
  match readProperty value with
  | .ok p => .ok { c with property := p.1, notBlank := p.2 }
  | .error e => .error ⟨[⟨"property", e⟩]⟩

/-- `plain?` for a loose value. -/
def plainOf (value : Datum) (direction : Direction) : Except Rejection Clause :=
  match readProperty value with
  | .ok p => .ok ⟨p.1, direction, .native, false, p.2⟩
  | .error e => .error ⟨[⟨"property", e⟩]⟩

end Clause

/-! ## Sortings -/

/-- Clauses in order of significance. -/
@[ext]
structure Sorting where
  clauses : List Clause
deriving DecidableEq

namespace Sorting

/-- The sorting of some clauses; none of them means no sorting. -/
def ofClauses? : List Clause → Option Sorting
  | [] => none
  | cs => some ⟨cs⟩

/-- The sorting that a list of records describes; the first bad record decides the error. -/
def ofRecords (rs : List Record) : Except Rejection Sorting := do
  return ⟨← rs.mapM Clause.ofRecord⟩

/-- The sorting by properties that share one direction. -/
def ofProperties (values : List Datum) (direction : Direction) : Except Rejection Sorting := do
  return ⟨← values.mapM (Clause.plainOf · direction)⟩

/-- How many different clauses a sorting has. -/
def distinct (s : Sorting) : Nat := s.clauses.eraseDups.length

theorem ofClauses?_eq_none_iff {cs : List Clause} : ofClauses? cs = none ↔ cs = [] := by
  cases cs <;> simp [ofClauses?]

theorem ofClauses?_eq_some_iff {cs : List Clause} {s : Sorting} :
    ofClauses? cs = some s ↔ cs ≠ [] ∧ s.clauses = cs := by
  cases cs with
  | nil => simp [ofClauses?]
  | cons c cs => simp [ofClauses?, Sorting.ext_iff, eq_comm]

end Sorting

end SortPath
