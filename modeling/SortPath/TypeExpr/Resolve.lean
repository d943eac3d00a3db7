import SortPath.TypeExpr

/-!
# The stored type of an annotation

Two searches look through the wrappers of an annotation, that is through attached markers and through
unions with exactly one member besides `null`: `core` finds the type inside and `markers` collects the
markers on the way. `resolve` reads off the declared type and, for collections, the type of the
elements.
-/
namespace SortPath.TypeExpr

/-- The members of a union besides `null`. -/
def nonNull (ts : List TypeExpr) : List TypeExpr := ts.filter fun t => !t.isNull

mutual
/-- The type inside all wrappers. -/
def core : TypeExpr → TypeExpr
  | .annotated base _ => core base
  | .union style ts => if (nonNull ts).length = 1 then coreOfFirst ts else .union style ts
  | t => t

/-- The core of the first type that is not `null`. -/
def coreOfFirst : List TypeExpr → TypeExpr
  | [] => .union .named []
  | t :: ts => if t.isNull then coreOfFirst ts else core t
end

mutual
/-- The markers of all wrappers, the outermost first. -/
def markers : TypeExpr → List Marker
  | .annotated base ms => ms ++ markers base
  | .union _ ts => if (nonNull ts).length = 1 then markersOfFirst ts else []
  | _ => []

/-- The markers of the first type that is not `null`. -/
def markersOfFirst : List TypeExpr → List Marker
  | [] => []
  | t :: ts => if t.isNull then markersOfFirst ts else markers t
end

/-- The first argument that is a type. -/
def firstArgument : List TypeExpr → Option TypeExpr
  | [] => none
  | .ellipsis :: ts => firstArgument ts
  | t :: _ => some t

/-- The declared type of an annotation and, for a collection, the type of its elements. A type former
is declared without its arguments. -/
def resolve (t : TypeExpr) : TypeExpr × Option TypeExpr :=
  match core t with
  | .applied f args =>
    (.bare f false, if f.isCollection then some (((firstArgument args).map core).getD any) else none)
  | .bare f _ => (.bare f false, if f.isCollection then some any else none)
  | .literal _ => (.bare .literal false, none)
  | u => (u, none)

/-- A type that is declared as a model has no elements. -/
theorem resolve_snd_of_model {t : TypeExpr} {name : String} (h : t.resolve.1 = .model name) :
    t.resolve.2 = none := by
  unfold resolve at *
  split at h
  · cases h
  · cases h
  · cases h
  · rfl

end SortPath.TypeExpr
