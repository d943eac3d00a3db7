import SortPath.Number.Shortest
import SortPath.Text.Quoted

/-!
# Records of loose values

Clauses, settings and events are built from records whose values come from outside and may have any
shape. `Datum` is such a value. Reading a field yields a value of the expected kind or a `Problem`;
`Checked` collects the problems of all fields, in the order in which the fields are read.

The texts of the problems are `Problem.message` and `Rejection.message`.
-/
namespace SortPath

/-- A value of unknown shape. -/
inductive Datum
  | null
  | bool (value : Bool)
  | int (value : Int)
  /-- A number that is written with a point or an exponent. -/
  | real (value : Binary64)
  | text (value : String)
  | list (items : List Datum)
  | record (fields : List (String × Datum))
deriving Repr, Inhabited

/-- Values by field name; of a repeated name the first counts. -/
abbrev Record := List (String × Datum)

/-! ## Equality of loose values -/

namespace Datum

/-- The integer that a value equals; the truth values are the integers 0 and 1 for comparisons. -/
def asInt? : Datum → Option Int
  | .bool b => some (if b then 1 else 0)
  | .int i => some i
  | .real x => x.toInt?
  | _ => none

/-- Numeric equality of truth values and numbers. -/
def sameNumber : Datum → Datum → Bool
  | .real x, .real y => x.same y
  | d, e => match d.asInt?, e.asInt? with
    | some i, some j => i == j
    | _, _ => false

mutual
/-- Equality, where numbers of any kind are compared by value and records whatever the order of their
fields. -/
def same : Datum → Datum → Bool
  | .null, .null => true
  | .text s, .text t => s == t
  | .list xs, .list ys => sameItems xs ys
  | .record xs, .record ys => xs.length == ys.length && sameFields xs ys
  | d, e => sameNumber d e

def sameItems : List Datum → List Datum → Bool
  | [], [] => true
  | x :: xs, y :: ys => same x y && sameItems xs ys
  | _, _ => false

/-- Every field of the first list is in the second one with the same value. -/
def sameFields : List (String × Datum) → List (String × Datum) → Bool
  | [], _ => true
  | (k, x) :: xs, ys => (match ys.lookup k with
    | some y => same x y
    | none => false) && sameFields xs ys
end

end Datum

/-! ## Showing loose values -/

namespace Datum

mutual
/-- A value as error messages show it. -/
def spelling : Datum → String
  | .null => "None"
  | .bool b => if b then "True" else "False"
  | .int i => toString i
  | .real x => x.spelling
  | .text s => Text.quoted s
  | .list xs => "[" ++ ", ".intercalate (spellItems xs) ++ "]"
  | .record fs => "\x7b" ++ ", ".intercalate (spellFields fs) ++ "\x7d"

def spellItems : List Datum → List String
  | [] => []
  | x :: xs => spelling x :: spellItems xs

def spellFields : List (String × Datum) → List String
  | [] => []
  | (k, x) :: fs => (Text.quoted k ++ ": " ++ spelling x) :: spellFields fs
end

end Datum

/-! ## Problems -/

/-- What is wrong with one field. -/
inductive Problem
  | missing
  | notText
  /-- The value is none of the listed words. -/
  | notOneOf (words : List String)
  | notBoolean
  /-- The value is a text or a number, but not one that stands for a truth value. -/
  | unreadableBoolean
  | blankProperty
  /-- An assignment to a field of a finished value. -/
  | frozen
deriving DecidableEq, Repr

/-- The words in quotes, the last two joined by `or`. -/
def listWords : List String → String
  | [] => ""
  | [w] => "'" ++ w ++ "'"
  | [w, v] => "'" ++ w ++ "' or '" ++ v ++ "'"
  | w :: ws => "'" ++ w ++ "', " ++ listWords ws

def Problem.message : Problem → String
  | .missing => "Field required"
  | .notText => "Input should be a valid string"
  | .notOneOf words => "Input should be " ++ listWords words
  | .notBoolean => "Input should be a valid boolean"
  | .unreadableBoolean => "Input should be a valid boolean, unable to interpret input"
  | .blankProperty => "Value error, Property must not be None or empty"
  | .frozen => "Instance is frozen"

structure FieldProblem where
  field : String
  problem : Problem
deriving DecidableEq, Repr

/-- Why a record was turned down: the problems of its fields, in the order of the fields. -/
structure Rejection where
  problems : List FieldProblem
deriving DecidableEq, Repr

def Rejection.message (r : Rejection) : String :=
  "; ".intercalate (r.problems.map fun p => p.field ++ ": " ++ p.problem.message)

/-- The refusal of an assignment to `field` of a finished value. -/
def Rejection.frozen (field : String) : Rejection := ⟨[⟨field, .frozen⟩]⟩

/-! ## Reading fields -/

/-- A value, or all the problems on the way to it. -/
def Checked (α : Type) := Except (List FieldProblem) α

namespace Checked
variable {α β : Type}

/-- Apply one to the other; where both fail, the problems of the first come first. -/
def apply (f : Checked (α → β)) (x : Checked α) : Checked β :=
  match f, x with
  | .ok f, .ok a => .ok (f a)
  | .ok _, .error q => .error q
  | .error p, .ok _ => .error p
  | .error p, .error q => .error (p ++ q)

instance : Applicative Checked where
  pure a := .ok a
  seq f x := f.apply (x ())

def toExcept : Checked α → Except Rejection α
  | .ok a => .ok a
  | .error ps => .error ⟨ps⟩

end Checked

namespace Record
variable {α : Type}

/-- Read `field` by `read`; a record without it gives the default, or a problem if there is none. -/
def field (r : Record) (name : String) (default? : Option α) (read : Datum → Except Problem α) :
    Checked α :=
  match r.lookup name with
  | none => match default? with
    | some a => .ok a
    | none => .error [⟨name, .missing⟩]
  | some d => match read d with
    | .ok a => .ok a
    | .error p => .error [⟨name, p⟩]

end Record

namespace Datum

def readText : Datum → Except Problem String
  | .text s => .ok s
  | _ => .error .notText

def readAny (d : Datum) : Except Problem Datum := .ok d

/-- A text or nothing. -/
def readOptionalText : Datum → Except Problem (Option String)
  | .null => .ok none
  | .text s => .ok (some s)
  | _ => .error .notText

/-- The value that the table of words gives for the text. -/
def readWord {α : Type} (words : List (String × α)) : Datum → Except Problem α
  | .text s => match words.lookup s with
    | some a => .ok a
    | none => .error (.notOneOf (words.map Prod.fst))
  | _ => .error (.notOneOf (words.map Prod.fst))

/-- The words for a truth value, in lower case. -/
def booleanWords : List (String × Bool) :=
  [("1", true), ("true", true), ("t", true), ("yes", true), ("y", true), ("on", true),
   ("0", false), ("false", false), ("f", false), ("no", false), ("n", false), ("off", false)]

/-- The integers that are read as numbers; those beyond 64 bits are not. -/
def inReach (i : Int) : Bool := -Int.pow 2 63 ≤ i && i < Int.pow 2 63

/-- The truth value of an integer, which is 0 or 1. -/
def boolOfInt (i : Int) : Except Problem Bool :=
  if i = 0 then .ok false else if i = 1 then .ok true else .error .unreadableBoolean

/-- A truth value, 0 or 1, or one of the words for it in any ASCII letter case. -/
def readBool : Datum → Except Problem Bool
  | .bool b => .ok b
  | .int i => if inReach i then boolOfInt i else .error .notBoolean
  | .real x => match x.toInt? with
    | some i => if inReach i ∧ i ≠ -Int.pow 2 63 then boolOfInt i else .error .notBoolean
    | none => .error .notBoolean
  | .text s => match booleanWords.lookup (s.map Char.toLower) with
    | some b => .ok b
    | none => .error .unreadableBoolean
  | _ => .error .notBoolean

end Datum

end SortPath
