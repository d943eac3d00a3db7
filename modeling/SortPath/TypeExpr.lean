import SortPath.Marker

/-!
# Type annotations

The types of a model's fields are written in a small language: plain value types, models, type
formers with and without arguments, unions, and types with markers attached.

Two annotations are the `same` if they are equal up to the style of unions and the order of their
members and of the values of literal types. The builders `unionIn`, `unionOf`, `annotate` and `literals`
keep annotations in their normal form: no union stands directly in a union, no two members of one are
the same, a union of one member is that member, and markers attached twice form one list, the inner ones
first.
-/
namespace SortPath

/-- The types of plain values, and the types `null`, `any` and `object`. -/
inductive Scalar
  | text
  | bytes
  | bool
  | int
  | float
  | decimal
  | datetime
  | date
  | time
  | duration
  | uuid
  | enumeration
  | null
  | any
  | object
deriving DecidableEq, Repr

/-- What takes types, or values, as arguments and gives a type. -/
inductive Former
  | list
  | set
  | frozenSet
  | tuple
  | dictionary
  | sequence
  | deque
  | type
  | literal
  | callable
deriving DecidableEq, Repr

/-- Collections of elements of one type. -/
def Former.isCollection : Former → Bool
  | list | set | frozenSet | tuple => true
  | _ => false

inductive LiteralValue
  | text (value : String)
  | int (value : Int)
deriving DecidableEq, Repr

/-- How a union is written: by its name, or with bars between the members. -/
inductive UnionStyle
  | named
  | barred
deriving DecidableEq, Repr

inductive TypeExpr
  | scalar (kind : Scalar)
  | model (name : String)
  /-- A former without arguments; its two spellings are different types. -/
  | bare (former : Former) (capital : Bool)
  /-- A former with its arguments; a callable type lists its result last. -/
  | applied (former : Former) (arguments : List TypeExpr)
  /-- The sign for "and so on" among the arguments of a tuple. -/
  | ellipsis
  | literal (values : List LiteralValue)
  | union (style : UnionStyle) (members : List TypeExpr)
  | annotated (base : TypeExpr) (markers : List Marker)
deriving Repr, Inhabited

namespace TypeExpr

def null : TypeExpr := .scalar .null

def any : TypeExpr := .scalar .any

def isNull : TypeExpr → Bool
  | .scalar .null => true
  | _ => false

/-! ## Sameness -/

mutual
/-- Equality up to the style of unions and the order of their members and of literal values. -/
def same : TypeExpr → TypeExpr → Bool
  | .scalar a, .scalar b => a == b
  | .model a, .model b => a == b
  | .bare f c, .bare g d => f == g && c == d
  | .applied f as, .applied g bs => f == g && sameEach as bs
  | .ellipsis, .ellipsis => true
  | .literal vs, .literal ws => vs.all ws.contains && ws.all vs.contains
  | .union _ as, .union _ bs => allAmong as bs && bs.all (among as)
  | .annotated a ms, .annotated b ns => same a b && ms == ns
  | _, _ => false

def sameEach : List TypeExpr → List TypeExpr → Bool
  | [], [] => true
  | a :: as, b :: bs => same a b && sameEach as bs
  | _, _ => false

/-- Every type of the first list is the same as one of the second. -/
def allAmong : List TypeExpr → List TypeExpr → Bool
  | [], _ => true
  | a :: as, bs => bs.any (same a) && allAmong as bs

/-- The type is the same as one of the list. -/
def among : List TypeExpr → TypeExpr → Bool
  | [], _ => false
  | a :: as, b => same a b || among as b
end

/-! ## Building annotations -/

/-- The members without those that are the same as an earlier one. -/
def distinct : List TypeExpr → List TypeExpr
  | [] => []
  | t :: ts => t :: (distinct ts).filter fun u => !same t u

/-- The members of a union, and any other type by itself. -/
def members : TypeExpr → List TypeExpr
  | .union _ ts => ts
  | t => [t]

/-- The union of some types in a style. -/
def unionIn (style : UnionStyle) (ts : List TypeExpr) : TypeExpr :=
  match distinct (ts.flatMap members) with
  | [t] => t
  | us => .union style us

/-- The union of some types, by its name. -/
def unionOf (ts : List TypeExpr) : TypeExpr := unionIn .named ts

/-- A type between which and the next a bar makes a barred union. -/
def takesBar : TypeExpr → Bool
  | .scalar _ | .model _ | .bare _ false | .union .barred _ => true
  | _ => false

/-- The union with `null`. -/
def optional (t : TypeExpr) : TypeExpr := unionOf [t, null]

/-- Attach markers to a type; no markers leave it as it is. -/
def annotate : TypeExpr → List Marker → TypeExpr
  | t, [] => t
  | .annotated base inner, ms => .annotated base (inner ++ ms)
  | t, ms => .annotated t ms

/-- The type of some values. -/
def literals (vs : List LiteralValue) : TypeExpr := .literal vs.eraseDups

/-! ## Classes of types -/

/-- A model, by its name. -/
def model? : TypeExpr → Option String
  | .model name => some name
  | _ => none

theorem model?_eq_some_iff {t : TypeExpr} {name : String} : t.model? = some name ↔ t = .model name := by
  cases t <;> simp [model?]

def isModel (t : TypeExpr) : Bool := t.model?.isSome

/-- A type that is stored as a plain value. -/
def isSimple : TypeExpr → Bool
  | .scalar .null | .scalar .any | .scalar .object => false
  | .scalar _ => true
  | _ => false

mutual
/-- Whether a literal type without values stands in a type where its values would count: neither the
arguments of a callable type nor the type of a type have values. -/
def hasEmptyLiteral : TypeExpr → Bool
  | .literal values => values.isEmpty
  | .applied .callable _ | .applied .type _ => false
  | .applied _ ts | .union _ ts => anyHasEmptyLiteral ts
  | .annotated base _ => hasEmptyLiteral base
  | _ => false

def anyHasEmptyLiteral : List TypeExpr → Bool
  | [] => false
  | t :: ts => hasEmptyLiteral t || anyHasEmptyLiteral ts
end

end TypeExpr

end SortPath
