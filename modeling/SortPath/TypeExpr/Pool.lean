import SortPath.TypeExpr

/-!
# Shared annotations

Annotations that are the same need not look the same: the members of a union and the values of a literal
type may stand in another order. So that one type keeps one look, whoever builds annotations does it
with a `Pool`, and an annotation built from the same parts as an earlier one is that earlier one.

A part may be missing (`none`); inside an annotation it counts as `null`, but alone it is no type.
Unions between bars are not shared, and literal types are taken as they are written.
-/
namespace SortPath.TypeExpr

/-- What an annotation is built from. -/
inductive Parts
  | applied (former : Former) (arguments : List (Option TypeExpr))
  | union (members : List (Option TypeExpr))
  | annotated (base : Option TypeExpr) (markers : List Marker)
deriving Repr

namespace Parts

/-- Two parts are the same if both are missing or both are there and the same. -/
def sameOption : Option TypeExpr → Option TypeExpr → Bool
  | none, none => true
  | some t, some u => t.same u
  | _, _ => false

def sameOptions : List (Option TypeExpr) → List (Option TypeExpr) → Bool
  | [], [] => true
  | t :: ts, u :: us => sameOption t u && sameOptions ts us
  | _, _ => false

/-- The style of a part that is a union. -/
def style? : Option TypeExpr → Option UnionStyle
  | some (.union style _) => some style
  | _ => none

/-- Here the order of the members of a union counts, and the style of a union with markers. -/
def same : Parts → Parts → Bool
  | .applied f ts, .applied g us => f == g && sameOptions ts us
  | .union ts, .union us => sameOptions ts us
  | .annotated t ms, .annotated u ns => style? t == style? u && sameOption t u && ms == ns
  | _, _ => false

/-- The annotation as its parts give it. -/
def type : Parts → TypeExpr
  | .applied f ts => .applied f (ts.map (·.getD null))
  | .union ts => unionOf (ts.map (·.getD null))
  | .annotated t ms => (t.getD null).annotate ms

end Parts

/-! ## The pool -/

/-- The annotations built so far with their parts, the oldest first. -/
abbrev Pool := List (Parts × TypeExpr)

namespace Pool

/-- The annotation that some parts stand for. -/
def find? (p : Pool) (parts : Parts) : Option TypeExpr :=
  (List.find? (fun e => e.1.same parts) p).map Prod.snd

/-- The annotation with the given parts and the pool with it. -/
def obtain (p : Pool) (parts : Parts) : TypeExpr × Pool :=
  match p.find? parts with
  | some t => (t, p)
  | none => (parts.type, p ++ [(parts, parts.type)])

end Pool

/-! ## Building with a pool -/

/-- Why an annotation cannot be built. -/
inductive BuildError
  | emptyUnion
  | noBars
  /-- A bar between two missing types. -/
  | missingOperands
  | unmarked
deriving DecidableEq, Repr

def BuildError.message : BuildError → String
  | emptyUnion => "Cannot take a Union of no types."
  | noBars => "reduce() of empty iterable with no initial value"
  | missingOperands => "unsupported operand type(s) for |: 'NoneType' and 'NoneType'"
  | unmarked =>
    "Annotated[...] should be used with at least two arguments (a type and an annotation)."

/-- Building with a pool, which keeps what was built before an error. -/
abbrev Building := ExceptT BuildError (StateM Pool)

namespace Building

/-- The annotation with the given parts, shared with earlier ones. -/
def shared (parts : Parts) : Building TypeExpr := modifyGet fun p => Pool.obtain p parts

def apply (f : Former) (ts : List (Option TypeExpr)) : Building TypeExpr := shared (.applied f ts)

def union (ts : List (Option TypeExpr)) : Building TypeExpr :=
  if ts.isEmpty then throw .emptyUnion else shared (.union ts)

def optional (t : Option TypeExpr) : Building TypeExpr := union [t, some null]

def annotate (t : Option TypeExpr) (ms : List Marker) : Building TypeExpr :=
  if ms.isEmpty then throw .unmarked else shared (.annotated t ms)

/-- A bar between two types: between other types than plain ones it makes a named union. -/
def bar (t u : Option TypeExpr) : Building TypeExpr :=
  if t.isNone && u.isNone then throw .missingOperands
  else
    let left := t.getD null
    let right := u.getD null
    if left.takesBar && right.takesBar then return unionIn .barred [left, right] else union [t, u]

/-- Types with bars between them, read from the left; one type alone stays as it is. -/
def bars : List (Option TypeExpr) → Building (Option TypeExpr)
  | [] => throw .noBars
  | t :: ts => ts.foldlM (fun left right => some <$> bar left right) t

end Building

end SortPath.TypeExpr
