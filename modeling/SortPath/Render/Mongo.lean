import SortPath.Clause
import SortPath.Table

/-!
# Sort keys for MongoDB

A sorting becomes a list of keys, each a property path with 1 for ascending or -1 for descending order.
The `$sort` stage of an aggregation holds the same keys in a table, where a repeated path keeps its
first place and takes the last direction.

Results:
* `stage_eq_none_iff`: there is no stage exactly when there are no keys.
-/
namespace SortPath.Mongo

def sign : Direction → Int
  | .ascending => 1
  | .descending => -1

/-- The keys for a cursor. -/
def keys (sorting : Option Sorting) : List (String × Int) :=
  ((sorting.map (·.clauses)).getD []).map fun c => (c.property, sign c.direction)

/-- The stage of an aggregation, unless there is nothing to sort by. -/
def stage (sorting : Option Sorting) : Option (Table String Int) :=
  match keys sorting with
  | [] => none
  | ks => some (.ofList ks)

theorem stage_eq_none_iff {sorting : Option Sorting} : stage sorting = none ↔ keys sorting = [] := by
  unfold stage; split <;> simp_all

end SortPath.Mongo
