import SortPath.Text.Split
import SortPath.Text.Utf8

/-!
# Query strings

A query string is a sequence of `name=value` pieces between ampersands. Its bytes are read one
character each, so a character beyond ASCII that is not escaped falls apart into its UTF-8 bytes. In
names and values a plus sign stands for a space, and each run of `%XX` escapes for the UTF-8 text of
its bytes.
-/
namespace SortPath.Query

def hexDigit? (c : Char) : Option Nat :=
  if c.isDigit then some (c.toNat - '0'.toNat)
  else if 'a' ≤ c ∧ c ≤ 'f' then some (c.toNat - 'a'.toNat + 10)
  else if 'A' ≤ c ∧ c ≤ 'F' then some (c.toNat - 'A'.toNat + 10)
  else none

/-- The byte that two hexadecimal digits stand for. -/
def byte? (high low : Char) : Option Nat := do return 16 * (← hexDigit? high) + (← hexDigit? low)

/-- Decode the escapes of a text after the bytes of a run of escapes. -/
def unescapeAfter (bytes : List Nat) : List Char → List Char
  | '%' :: h :: l :: cs =>
    match byte? h l with
    | some b => unescapeAfter (bytes ++ [b]) cs
    | none => Text.Utf8.decode bytes ++ '%' :: unescapeAfter [] (h :: l :: cs)
  | c :: cs => Text.Utf8.decode bytes ++ c :: unescapeAfter [] cs
  | [] => Text.Utf8.decode bytes

/-- The text of a name or a value. -/
def component (cs : List Char) : String :=
  String.ofList (unescapeAfter [] (cs.map fun c => if c = '+' then ' ' else c))

/-- The parameter of one piece; a piece without `=` has the empty value. -/
def parameter (piece : List Char) : String × String :=
  let (name, value) := Text.cutFirst '=' piece
  (component name, component value)

/-- The parameters of a query string; empty pieces are none. -/
def parameters (query : String) : List (String × String) :=
  let bytes := (Text.Utf8.encode query.toList).map Char.ofNat
  ((Text.splitFrom ['&'] 0 [] bytes).filter (· ≠ [])).map parameter

/-- The values of a parameter, in order. -/
def values (query name : String) : List String :=
  (parameters query).filterMap fun p => if p.1 = name then some p.2 else none

end SortPath.Query
