import SortPath.Render.Elasticsearch
import SortPath.Render.Mongo
import SortPath.Sample
import SortPath.Serialization

/-!
# A demonstration

Some sortings over the sample models, each with what it resolves to and the forms of the two backends.
-/
namespace SortPath.Demo

def bracketed (texts : List String) : String := "[" ++ ", ".intercalate texts ++ "]"

def properties (s : Sorting) : String := bracketed (s.clauses.map fun c => Text.quoted c.property)

def mongoKeys (s : Option Sorting) : String :=
  bracketed ((Mongo.keys s).map fun k => "(" ++ Text.quoted k.1 ++ ", " ++ toString k.2 ++ ")")

def elasticsearchClause (c : Elasticsearch.SortClause) : String :=
  let order := Text.quoted "order" ++ ": " ++ Text.quoted c.order.text
  let missing := c.missing.elim "" fun m => ", " ++ Text.quoted "missing" ++ ": " ++ Text.quoted m.text
  "\x7b" ++ Text.quoted c.path ++ ": \x7b" ++ order ++ missing ++ "\x7d\x7d"

def elasticsearchClauses (s : Option Sorting) : String :=
  bracketed ((Elasticsearch.clauses s).map elasticsearchClause)

def sortings : List Sorting :=
  [⟨[⟨"userProfile_displayName", .ascending, .native, false, by decide⟩]⟩,
   ⟨[⟨"address.streetName", .descending, .native, false, by decide⟩,
     ⟨"last", .ascending, .native, false, by decide⟩]⟩,
   ⟨[⟨"birthDate", .ascending, .last, false, by decide⟩]⟩,
   ⟨[⟨"owner.username", .ascending, .native, false, by decide⟩]⟩]

/-- What is shown for one sorting: an empty line, what is asked for, and what becomes of it. -/
def report (c : Catalog TypeExpr) (root : Option (Entity TypeExpr)) (s : Sorting) : List String :=
  ["", "Requested:  " ++ properties s] ++
  match (c.resolve (some s) root).value with
  | .ok (some t) =>
    ["Translated: " ++ properties t, "pymongo:    " ++ mongoKeys (some t),
     "ES:         " ++ elasticsearchClauses (some t)]
  | .ok none => ["Translated: <no sort>"]
  | .error e => [e.message]

/-- The lines of the demonstration. -/
def lines : List String :=
  let registry := (Registry.empty Sample.models).addModel "Person"
  sortings.flatMap (report (registry.catalog true) (registry.entity? (.model "Person")))

end SortPath.Demo
