/-!
# Runs of code points

Classes and mappings of characters as lists of runs. A run `(first, last, stride)` holds every
`stride`-th code point from `first` to `last`. A run `(first, last, stride, target)` maps `first` to
`target`, and every `stride`-th code point up to `last` to the code point at the same distance from
`target`.
-/
namespace SortPath.Text

abbrev MappingRuns := List (Nat × Nat × Nat × Nat)

abbrev Runs := List (Nat × Nat × Nat)

/-- The image of a code point, if a run holds it. -/
def MappingRuns.image? (runs : MappingRuns) (n : Nat) : Option Nat :=
  runs.findSome? fun (first, last, stride, target) =>
    if first ≤ n ∧ n ≤ last ∧ (n - first) % stride = 0 then some (n - first + target) else none

def Runs.holds (runs : Runs) (n : Nat) : Bool :=
  runs.any fun (first, last, stride) => first ≤ n && n ≤ last && (n - first) % stride == 0

end SortPath.Text
