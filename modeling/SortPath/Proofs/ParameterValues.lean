import SortPath.SortParameter

/-!
# What values of the sort parameter ask for

A value is cut at the delimiter, its elements are trimmed, and of those that are not empty each becomes a
clause. A clause is refused if its property is blank, but no value can run into that: an element that is empty
once it is trimmed is passed over, and one that is not empty then is not blank.

`checkedParse` is parsing where nothing is passed over silently. It takes value after value and stops at the
first `Failure`: there is no delimiter to cut at, or a property does not pass its check.

Results:
* `checkedParse_eq`: parsing with every check made is parsing; only the delimiter can be at fault.
* `mem_ofValue`: what a clause of one value looks like.
* `parse_values`: when parsing fails, what it yields otherwise, and that it yields this value by value.
-/
namespace SortPath

/-- The clauses of a sorting; no sorting has none. -/
def clausesOf (s : Option Sorting) : List Clause := s.elim [] Sorting.clauses

@[simp] theorem clausesOf_ofClauses? (cs : List Clause) : clausesOf (Sorting.ofClauses? cs) = cs := by
  cases cs <;> rfl

theorem ofClauses?_inj {ks ks' : List Clause} :
    Sorting.ofClauses? ks = Sorting.ofClauses? ks' ↔ ks = ks' := by
  refine ⟨fun h => ?_, congrArg Sorting.ofClauses?⟩
  rw [← clausesOf_ofClauses? ks, h, clausesOf_ofClauses?]

namespace SortParameter

variable {delimiter value e : String} {es : List String} {values : List (Option String)} {k : Clause}

/-! ## Parsing with every check -/

/-- What stops parsing. -/
inductive Failure
  /-- There is a value, and it cannot be cut. -/
  | delimiter (e : Error)
  /-- A clause is refused its property. -/
  | clause (r : Rejection)
deriving DecidableEq, Repr

/-- The clause for an element, made as for any loose value. -/
def checkedClause (d : Direction) (ignoreCase : Bool) (e : String) : Except Rejection Clause := do
  let k ← Clause.plainOf (.text e) d
  return if ignoreCase then k.ignoringCase else k

/-- The clauses for the trimmed elements of one value. Empty elements are passed over, all others must
pass. -/
def checkedElements (es : List String) : Except Rejection (List Clause) :=
  let (es, ignoreCase) := takeIgnoreCase es
  let (es, direction?) := takeDirection es
  (es.filter (· ≠ "")).mapM (checkedClause (direction?.getD .ascending) ignoreCase)

def checkedValue (delimiter value : String) : Except Failure (List Clause) :=
  if delimiter = "" then .error (.delimiter .emptyDelimiter)
  else (checkedElements ((Text.splitAt delimiter value).map Text.trim)).mapError .clause

/-- The clauses of all values, up to the first failure. -/
def checkedClauses (delimiter : String) : List (Option String) → Except Failure (List Clause)
  | [] => .ok []
  | none :: values => checkedClauses delimiter values
  | some value :: values => do
    let ks ← checkedValue delimiter value
    let rest ← checkedClauses delimiter values
    return ks ++ rest

def checkedParse (delimiter : String) (values : List (Option String)) : Except Failure (Option Sorting) :=
  (checkedClauses delimiter values).map Sorting.ofClauses?

/-! ## The elements of one value -/

theorem isPrefix_takeIgnoreCase (es : List String) : (takeIgnoreCase es).1 <+: es := by
  unfold takeIgnoreCase
  split
  · exact List.dropLast_prefix es
  · exact List.prefix_refl es

theorem isPrefix_takeDirection (es : List String) : (takeDirection es).1 <+: es := by
  unfold takeDirection
  split
  · exact List.dropLast_prefix es
  · exact List.prefix_refl es

/-- The clauses of some elements are those of the first ones, all with one direction and one flag. -/
theorem exists_ofElements (es : List String) : ∃ front d ignoreCase, front <+: es ∧
    ofElements es = front.filterMap (Clause.make? · d .native ignoreCase) ∧
    checkedElements es = (front.filter (· ≠ "")).mapM (checkedClause d ignoreCase) :=
  ⟨_, _, _, (isPrefix_takeDirection _).trans (isPrefix_takeIgnoreCase es), rfl, rfl⟩

theorem mapM_checkedClause (h : ∀ e ∈ es, Text.Trimmed e) (d : Direction) (ignoreCase : Bool) :
    (es.filter (· ≠ "")).mapM (checkedClause d ignoreCase) =
      .ok (es.filterMap (Clause.make? · d .native ignoreCase)) := by
  induction es with
  | nil => rfl
  | cons e es ih =>
    obtain ⟨he, hes⟩ := List.forall_mem_cons.1 h
    by_cases hempty : e = ""
    · have hmake : Clause.make? e d .native ignoreCase = none := by
        rw [hempty]
        rfl
      rw [List.filter_cons_of_neg (by simpa using hempty), ih hes]
      simp only [List.filterMap_cons, hmake]
    · have hblank : Text.isAllBlank e = false := (Text.isAllBlank_eq_false_iff he).2 hempty
      have hmake : Clause.make? e d .native ignoreCase = some ⟨e, d, .native, ignoreCase, hblank⟩ :=
        dif_pos hblank
      have hchecked : checkedClause d ignoreCase e = .ok ⟨e, d, .native, ignoreCase, hblank⟩ := by
        simp only [checkedClause, Clause.plainOf, Clause.readProperty, hblank, dite_true]
        cases ignoreCase <;> rfl
      rw [List.filter_cons_of_pos (by simpa using hempty), List.mapM_cons, hchecked, ih hes]
      simp only [List.filterMap_cons, hmake]
      rfl

theorem checkedElements_eq (h : ∀ e ∈ es, Text.Trimmed e) : checkedElements es = .ok (ofElements es) := by
  obtain ⟨front, d, ignoreCase, hfront, hof, hchecked⟩ := exists_ofElements es
  rw [hchecked, hof]
  exact mapM_checkedClause (fun e he => h e (hfront.subset he)) d ignoreCase

/-! ## One value -/

/-- A property that a value can name: one or more characters without white space around them, among which
the delimiter does not stand. -/
structure Nameable (delimiter property : String) : Prop where
  ne_empty : property ≠ ""
  trimmed : Text.Trimmed property
  undivided : ¬ delimiter.toList <:+: property.toList

theorem checkedValue_eq (h : delimiter ≠ "") (value : String) :
    checkedValue delimiter value = .ok (ofValue delimiter value) := by
  have htrimmed : ∀ e ∈ (Text.splitAt delimiter value).map Text.trim, Text.Trimmed e :=
    List.forall_mem_map.2 fun p _ => Text.trimmed_trim p
  rw [checkedValue, if_neg h, checkedElements_eq htrimmed]
  rfl

/-- The clauses of one value name pieces of it, all with one direction and one flag. -/
theorem mem_ofValue (h : delimiter ≠ "") (value : String) : ∃ d ignoreCase,
    ∀ k ∈ ofValue delimiter value, Nameable delimiter k.property ∧ k.direction = d ∧
      k.nullPlacement = .native ∧ k.ignoreCase = ignoreCase := by
  obtain ⟨front, d, ignoreCase, hfront, hof, -⟩ :=
    exists_ofElements ((Text.splitAt delimiter value).map Text.trim)
  refine ⟨d, ignoreCase, fun k hk => ?_⟩
  rw [ofValue, hof] at hk
  obtain ⟨e, he, hmake⟩ := List.mem_filterMap.1 hk
  obtain ⟨rfl, hflags⟩ := Clause.make?_eq_some_iff.1 hmake
  obtain ⟨p, hp, hpe⟩ := List.mem_map.1 (hfront.subset he)
  refine ⟨⟨k.property_ne_empty, hpe ▸ Text.trimmed_trim p, fun hpart => ?_⟩, hflags⟩
  rw [← hpe] at hpart
  exact Text.not_infix_of_mem_splitAt h hp (hpart.trans (Text.trim_infix_toList p))

/-! ## All values -/

/-- Some value has to be cut, and there is nothing to cut it at. -/
def Uncuttable (delimiter : String) (values : List (Option String)) : Prop :=
  delimiter = "" ∧ ∃ value, some value ∈ values

theorem any_isSome_iff : values.any (·.isSome) = true ↔ ∃ value, some value ∈ values := by
  rw [List.any_eq_true]
  constructor
  · rintro ⟨value?, hvalue, hsome⟩
    obtain ⟨value, rfl⟩ := Option.isSome_iff_exists.1 hsome
    exact ⟨value, hvalue⟩
  · rintro ⟨value, hvalue⟩
    exact ⟨_, hvalue, rfl⟩

theorem parse_eq_error_iff {e : Error} : parse delimiter values = .error e ↔ Uncuttable delimiter values := by
  cases e
  rw [Uncuttable, ← any_isSome_iff, parse]
  split
  · next h => exact iff_of_true rfl h
  · next h => exact iff_of_false (by simp) h

theorem parse_eq_ok_iff {s : Option Sorting} : parse delimiter values = .ok s ↔
    ¬ Uncuttable delimiter values ∧ s = Sorting.ofClauses? (clauses delimiter values) := by
  rw [Uncuttable, ← any_isSome_iff, parse]
  split
  · next h => exact iff_of_false (by simp) fun hs => hs.1 h
  · next h =>
    constructor
    · intro hs
      exact ⟨h, (Except.ok.inj hs).symm⟩
    · intro hs
      exact congrArg Except.ok hs.2.symm

theorem mem_clauses_iff : k ∈ clauses delimiter values ↔
    ∃ value, some value ∈ values ∧ k ∈ ofValue delimiter value := by
  simp [clauses]

/-- Where values can be cut they are taken one after the other, and else the first one fails. -/
theorem checkedClauses_eq (delimiter : String) (values : List (Option String)) :
    checkedClauses delimiter values =
      if delimiter = "" ∧ values.any (·.isSome) then .error (.delimiter .emptyDelimiter)
      else .ok (clauses delimiter values) := by
  induction values with
  | nil => simp [checkedClauses, clauses]
  | cons value? values ih =>
    cases value? with
    | none => simpa [checkedClauses, clauses] using ih
    | some value =>
      by_cases hd : delimiter = ""
      · rw [checkedClauses, checkedValue, if_pos hd]
        simp [hd]
        rfl
      · rw [checkedClauses, checkedValue_eq hd, ih]
        simp [hd, clauses]
        rfl

/-- Parsing with every check made is parsing; only the delimiter can be at fault. -/
theorem checkedParse_eq (delimiter : String) (values : List (Option String)) :
    checkedParse delimiter values = (parse delimiter values).mapError .delimiter := by
  rw [checkedParse, checkedClauses_eq, parse]
  split <;> rfl

/-- Parsing goes value by value. It fails exactly where a value is to be cut at an empty delimiter, and
never at the check of a property. What it yields otherwise are the clauses of the values in order: they name
trimmed parts of the values, and those of one value agree in direction and flag. No sorting is empty. -/
theorem parse_values (delimiter : String) (values more : List (Option String)) :
    checkedParse delimiter values = (parse delimiter values).mapError .delimiter ∧
    (∀ e, parse delimiter values = .error e ↔
      Uncuttable delimiter values ∧ e.message = "empty separator") ∧
    (¬ Uncuttable delimiter (values ++ more) → ∃ s t u,
      parse delimiter values = .ok s ∧ parse delimiter more = .ok t ∧
      parse delimiter (values ++ more) = .ok u ∧ clausesOf u = clausesOf s ++ clausesOf t) ∧
    (∀ s, parse delimiter values = .ok s →
      (s = none ↔ clausesOf s = []) ∧ ∀ k ∈ clausesOf s, Nameable delimiter k.property) ∧
    (∀ value s, parse delimiter [some value] = .ok s →
      ∃ d ignoreCase, ∀ k ∈ clausesOf s, k.direction = d ∧ k.ignoreCase = ignoreCase) := by
  refine ⟨checkedParse_eq delimiter values, ?error, ?append, ?wellFormed, ?uniform⟩
  case error =>
    intro e
    rw [parse_eq_error_iff]
    exact (and_iff_left rfl).symm
  case append =>
    intro h
    have hvalues : ¬ Uncuttable delimiter values := fun ⟨hd, value, hv⟩ =>
      h ⟨hd, value, List.mem_append_left more hv⟩
    have hmore : ¬ Uncuttable delimiter more := fun ⟨hd, value, hv⟩ =>
      h ⟨hd, value, List.mem_append_right values hv⟩
    refine ⟨_, _, _, parse_eq_ok_iff.2 ⟨hvalues, rfl⟩, parse_eq_ok_iff.2 ⟨hmore, rfl⟩,
      parse_eq_ok_iff.2 ⟨h, rfl⟩, ?_⟩
    simp only [clausesOf_ofClauses?, clauses_append]
  case wellFormed =>
    rintro s hs
    obtain ⟨hcut, rfl⟩ := parse_eq_ok_iff.1 hs
    rw [clausesOf_ofClauses?, Sorting.ofClauses?_eq_none_iff]
    refine ⟨Iff.rfl, fun k hk => ?_⟩
    obtain ⟨value, hvalue, hk⟩ := mem_clauses_iff.1 hk
    obtain ⟨d, ignoreCase, hall⟩ := mem_ofValue (fun hd => hcut ⟨hd, value, hvalue⟩) value
    exact (hall k hk).1
  case uniform =>
    rintro value s hs
    obtain ⟨hcut, rfl⟩ := parse_eq_ok_iff.1 hs
    obtain ⟨d, ignoreCase, hall⟩ :=
      mem_ofValue (fun hd => hcut ⟨hd, value, List.mem_singleton_self _⟩) value
    have hone : clauses delimiter [some value] = ofValue delimiter value := by simp [clauses]
    rw [clausesOf_ofClauses?, hone]
    exact ⟨d, ignoreCase, fun k hk => ⟨(hall k hk).2.1, (hall k hk).2.2.2⟩⟩

/-- Three letters `a` hold the delimiter `aa` once, so that the last of them is left to the next property. -/
theorem parse_values_overlapping : ∃ s t u,
    parse "aa" [some "baaacaaDESC", none] = .ok s ∧ parse "aa" [some " d "] = .ok t ∧
    parse "aa" [some "baaacaaDESC", none, some " d "] = .ok u ∧
    clausesOf u = clausesOf s ++ clausesOf t ∧
    (u = none ↔ clausesOf u = []) ∧ (∀ k ∈ clausesOf u, Nameable "aa" k.property) ∧
    (clausesOf u).map (fun k => (k.property, k.direction)) =
      [("b", .descending), ("ac", .descending), ("d", .ascending)] ∧
    ∃ d ignoreCase, ∀ k ∈ clausesOf t, k.direction = d ∧ k.ignoreCase = ignoreCase := by
  have hcut : ¬ Uncuttable "aa" ([some "baaacaaDESC", none] ++ [some " d "]) := fun h =>
    absurd h.1 (by decide)
  obtain ⟨-, -, happend, -, -⟩ := parse_values "aa" [some "baaacaaDESC", none] [some " d "]
  obtain ⟨s, t, u, hs, ht, hu, hclauses⟩ := happend hcut
  obtain ⟨-, -, -, hwellFormed, huniform⟩ :=
    parse_values "aa" [some "baaacaaDESC", none, some " d "] []
  obtain ⟨hnone, hnameable⟩ := hwellFormed u hu
  have hrun : (parse "aa" [some "baaacaaDESC", none, some " d "]).toOption.map (fun u =>
      (clausesOf u).map fun k => (k.property, k.direction)) =
        some [("b", .descending), ("ac", .descending), ("d", .ascending)] := by decide +kernel
  rw [show parse "aa" [some "baaacaaDESC", none, some " d "] = .ok u from hu] at hrun
  exact ⟨s, t, u, hs, ht, hu, hclauses, hnone, hnameable, Option.some.inj hrun, huniform _ t ht⟩

end SortParameter
end SortPath
