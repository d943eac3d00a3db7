import SortPath.Clause
import SortPath.Text.Split

/-!
# The sort parameter

A value of the sort parameter lists properties, then perhaps a direction, then perhaps the word
`ignorecase`: `name,age,desc,ignorecase`. White space around the elements does not count, and neither do
blank elements. A word can only be a modifier if something stands before it. Each value makes clauses
of its own; they are joined in order.

Results:
* `takeIgnoreCase_append`, `takeDirection_append`: a modifier at the end is taken away, if something stands
  before it.
* `clauses_append`: the clauses of two lists of values are those of the one and then those of the other.
-/
namespace SortPath.SortParameter

/-- The last element, if another stands before it. -/
def lastOfSeveral? : List String → Option String
  | _ :: e :: es => (e :: es).getLast?
  | _ => none

theorem lastOfSeveral?_eq_some_iff {es : List String} {e : String} :
    lastOfSeveral? es = some e ↔ ∃ front, front ≠ [] ∧ es = front ++ [e] := by
  constructor
  · intro h
    unfold lastOfSeveral? at h
    split at h
    · next first e' rest =>
      obtain ⟨front, hfront⟩ := List.getLast?_eq_some_iff.1 h
      exact ⟨first :: front, by simp, congrArg (first :: ·) hfront⟩
    · cases h
  · intro h
    obtain ⟨front, hne, rfl⟩ := h
    obtain ⟨first, front, rfl⟩ := List.exists_cons_of_ne_nil hne
    obtain ⟨second, rest, hrest⟩ : ∃ second rest, front ++ [e] = second :: rest :=
      List.exists_cons_of_ne_nil (by simp)
    rw [List.cons_append, hrest, lastOfSeveral?, ← hrest, List.getLast?_concat]

theorem lastOfSeveral?_append {es : List String} (h : es ≠ []) (e : String) :
    lastOfSeveral? (es ++ [e]) = some e := lastOfSeveral?_eq_some_iff.2 ⟨es, h, rfl⟩

/-- The elements without a final `ignorecase`, and whether there was one. -/
def takeIgnoreCase (es : List String) : List String × Bool :=
  if (lastOfSeveral? es).any fun e => Text.lower e = "ignorecase" then (es.dropLast, true)
  else (es, false)

/-- The elements without a final direction, and that direction. -/
def takeDirection (es : List String) : List String × Option Direction :=
  match (lastOfSeveral? es).bind Direction.ofText? with
  | some d => (es.dropLast, some d)
  | none => (es, none)

/-! ## Modifiers at the end -/

section
variable {es : List String} {e : String}

theorem takeIgnoreCase_of_ne (h : ∀ e, lastOfSeveral? es = some e → Text.lower e ≠ "ignorecase") :
    takeIgnoreCase es = (es, false) := by
  unfold takeIgnoreCase
  cases he : lastOfSeveral? es with
  | none => rfl
  | some e => simp [h e he]

theorem takeDirection_of_none (h : ∀ e, lastOfSeveral? es = some e → Direction.ofText? e = none) :
    takeDirection es = (es, none) := by
  unfold takeDirection
  cases he : lastOfSeveral? es with
  | none => rfl
  | some e => simp [h e he]

theorem takeIgnoreCase_append_of_ne (hne : es ≠ []) (h : Text.lower e ≠ "ignorecase") :
    takeIgnoreCase (es ++ [e]) = (es ++ [e], false) := by
  refine takeIgnoreCase_of_ne fun e' he' => ?_
  rw [lastOfSeveral?_append hne, Option.some.injEq] at he'
  exact he' ▸ h

theorem takeIgnoreCase_append (hne : es ≠ []) (h : Text.lower e = "ignorecase") :
    takeIgnoreCase (es ++ [e]) = (es, true) := by
  unfold takeIgnoreCase
  simp [lastOfSeveral?_append hne, h]

theorem takeDirection_append {direction : Direction} (hne : es ≠ [])
    (h : Direction.ofText? e = some direction) : takeDirection (es ++ [e]) = (es, some direction) := by
  unfold takeDirection
  simp [lastOfSeveral?_append hne, h]

end

/-! ## Values -/

/-- The clauses for the trimmed elements of one value. -/
def ofElements (es : List String) : List Clause :=
  let (es, ignoreCase) := takeIgnoreCase es
  let (es, direction?) := takeDirection es
  es.filterMap fun e => Clause.make? e (direction?.getD .ascending) .native ignoreCase

/-- The clauses of one value, whose elements stand between delimiters. -/
def ofValue (delimiter value : String) : List Clause :=
  ofElements ((Text.splitAt delimiter value).map Text.trim)

/-- The delimiter is empty, so no value can be split. -/
inductive Error
  | emptyDelimiter
deriving DecidableEq, Repr

def Error.message : Error → String
  | .emptyDelimiter => "empty separator"

/-- The clauses of all values; absent values have none. -/
def clauses (delimiter : String) (values : List (Option String)) : List Clause :=
  (values.filterMap id).flatMap (ofValue delimiter)

/-- The sorting that the values ask for. -/
def parse (delimiter : String) (values : List (Option String)) : Except Error (Option Sorting) :=
  if delimiter = "" ∧ values.any (·.isSome) then .error .emptyDelimiter
  else .ok (Sorting.ofClauses? (clauses delimiter values))

theorem clauses_append (delimiter : String) (vs ws : List (Option String)) :
    clauses delimiter (vs ++ ws) = clauses delimiter vs ++ clauses delimiter ws := by
  simp [clauses, List.filterMap_append]

end SortPath.SortParameter
