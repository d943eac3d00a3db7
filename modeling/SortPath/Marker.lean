/-!
# Markers

Markers are attached to the type of a model's field and say how the field is stored and serialized.
Several markers of one kind may be attached; the first one counts.
-/
namespace SortPath

/-- How the fields of an inlined value are named in its parent. -/
structure Unwrapping where
  lead : String
  trail : String
  enabled : Bool
deriving DecidableEq, Repr

/-- The name in the parent of the inlined field `name`. -/
def Unwrapping.rename (u : Unwrapping) (name : String) : String := u.lead ++ name ++ u.trail

inductive Marker
  /-- The fields of the value stand among those of its parent. -/
  | unwrapped (u : Unwrapping)
  /-- The field refers to another aggregate. -/
  | association
  /-- The field is not stored. -/
  | transient
  /-- A remark that concerns neither storing nor serializing. -/
  | note (text : String)
deriving DecidableEq, Repr

namespace Marker

def unwrapping? : Marker → Option Unwrapping
  | unwrapped u => some u
  | _ => none

end Marker

end SortPath
