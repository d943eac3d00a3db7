import SortPath.Clause

/-!
# Sort clauses for Elasticsearch

A sorting becomes a list of clauses with a property path, a direction, and where missing values go
unless that is left to the backend. Letter case is a matter of the index and not of the clause.
-/
namespace SortPath.Elasticsearch

inductive Missing
  | first
  | last
deriving DecidableEq, Repr

def Missing.text : Missing → String
  | first => "_first"
  | last => "_last"

/-- Where a clause tells the backend to put missing values. -/
def missing? : NullPlacement → Option Missing
  | .native => none
  | .first => some .first
  | .last => some .last

structure SortClause where
  path : String
  order : Direction
  missing : Option Missing
deriving DecidableEq, Repr

def clauses (sorting : Option Sorting) : List SortClause :=
  ((sorting.map (·.clauses)).getD []).map fun c => ⟨c.property, c.direction, missing? c.nullPlacement⟩

/-- A clause as a search request holds it. -/
def SortClause.toRecord (c : SortClause) : Record :=
  [(c.path, .record (("order", .text c.order.text) ::
    (c.missing.map fun m => ("missing", .text m.text)).toList))]

/-- The entries of the `sort` section of a search request. -/
def entries (cs : List SortClause) : List Datum := cs.map fun c => .record c.toRecord

end SortPath.Elasticsearch
