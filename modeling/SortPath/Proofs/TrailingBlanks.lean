import SortPath.Proofs.ParameterValues

/-!
# Blank elements at the end of a value

Blank elements make no clauses, but at the end of a value they still count. The modifiers are looked for
at the end of the elements, before the blank ones are passed over: behind a blank element no word is a
modifier, and a word that would be one without it becomes a property. So `name,desc` asks for one clause
and `name,desc,` for two.

Results:
* `ofElements_eq_plain_iff`: elements are read as properties only, unless they end in a keyword.
* `elements_intercalate`: blank elements behind a value are empty elements behind those of the value.
* `parse_trailing_blanks`: how a value with blank elements behind it is read, and when they make no
  difference.
* `parse_trailing_delimiter`: one delimiter at the end that makes a difference.
-/
namespace SortPath.SortParameter

variable {d : Char} {e : String} {es front blanks : List String}

/-! ## Elements that end in a keyword -/

/-- The last of several elements is a keyword. -/
def EndsInKeyword (es : List String) : Prop :=
  ∃ e, lastOfSeveral? es = some e ∧
    (Text.lower e = "ignorecase" ∨ (Direction.ofText? e).isSome = true)

/-- A plain ascending clause for each element that is not blank, be it a keyword or not. -/
def plainClauses (es : List String) : List Clause := es.filterMap (Clause.plain? · .ascending)

theorem lower_empty : Text.lower "" = "" := by decide

theorem ofText?_empty : Direction.ofText? "" = none := by decide

theorem notBlank_of_keyword (ht : Text.Trimmed e)
    (hkey : Text.lower e = "ignorecase" ∨ (Direction.ofText? e).isSome = true) :
    Text.isAllBlank e = false := by
  rw [Text.isAllBlank_eq_false_iff ht]
  rintro rfl
  rw [lower_empty, ofText?_empty] at hkey
  simp at hkey

/-- How many clauses elements make depends on the blank ones only, and not on the flags. -/
theorem length_filterMap_make? (es : List String) (direction : Direction) (ignoreCase : Bool) :
    (es.filterMap (Clause.make? · direction .native ignoreCase)).length =
      es.countP (!Text.isAllBlank ·) := by
  rw [List.length_filterMap_eq_countP]
  refine List.countP_congr fun e _ => ?_
  by_cases hblank : Text.isAllBlank e = false <;> simp [Clause.make?, hblank]

theorem ofElements_eq_plain (h : ¬ EndsInKeyword es) : ofElements es = plainClauses es := by
  have hlast : ∀ e, lastOfSeveral? es = some e →
      Text.lower e ≠ "ignorecase" ∧ Direction.ofText? e = none := by
    intro e he
    by_cases hdirection : Direction.ofText? e = none
    · exact ⟨fun hflag => h ⟨e, he, .inl hflag⟩, hdirection⟩
    · exact absurd ⟨e, he, .inr (Option.isSome_iff_ne_none.2 hdirection)⟩ h
  have hflag := takeIgnoreCase_of_ne fun e he => (hlast e he).1
  have hdirection := takeDirection_of_none fun e he => (hlast e he).2
  unfold ofElements
  rw [hflag]
  simp only [hdirection]
  rfl

/-- A keyword at the end is taken away, so what is left stands before it. -/
theorem prefix_of_keyword (hne : front ≠ [])
    (hkey : Text.lower e = "ignorecase" ∨ (Direction.ofText? e).isSome = true) :
    (takeDirection (takeIgnoreCase (front ++ [e])).1).1 <+: front := by
  by_cases hflag : Text.lower e = "ignorecase"
  · rw [takeIgnoreCase_append hne hflag]
    exact isPrefix_takeDirection front
  · obtain ⟨direction, hdirection⟩ := Option.isSome_iff_exists.1 (hkey.resolve_left hflag)
    have hleft : (takeDirection (takeIgnoreCase (front ++ [e])).1).1 = front := by
      rw [takeIgnoreCase_append_of_ne hne hflag, takeDirection_append hne hdirection]
    exact ⟨[], by rw [hleft, List.append_nil]⟩

/-- A keyword at the end makes one clause less. -/
theorem length_ofElements_lt (ht : ∀ e ∈ es, Text.Trimmed e) (h : EndsInKeyword es) :
    (ofElements es).length < (plainClauses es).length := by
  obtain ⟨e, he, hkey⟩ := h
  obtain ⟨front, hne, rfl⟩ := lastOfSeveral?_eq_some_iff.1 he
  have hnotBlank : Text.isAllBlank e = false := notBlank_of_keyword (ht e (by simp)) hkey
  have hleft := (prefix_of_keyword hne hkey).sublist.countP_le (p := (!Text.isAllBlank ·))
  have hread : (ofElements (front ++ [e])).length =
      ((takeDirection (takeIgnoreCase (front ++ [e])).1).1).countP (!Text.isAllBlank ·) :=
    length_filterMap_make? ..
  have hplain : (plainClauses (front ++ [e])).length = front.countP (!Text.isAllBlank ·) + 1 := by
    have hall : (plainClauses (front ++ [e])).length = (front ++ [e]).countP (!Text.isAllBlank ·) :=
      length_filterMap_make? ..
    rw [hall]
    simp [hnotBlank]
  omega

/-- Trimmed elements are read as properties only, unless they end in a keyword. -/
theorem ofElements_eq_plain_iff (ht : ∀ e ∈ es, Text.Trimmed e) :
    plainClauses es = ofElements es ↔ ¬ EndsInKeyword es := by
  constructor
  · intro heq hkey
    have hlt := length_ofElements_lt ht hkey
    rw [heq] at hlt
    omega
  · intro h
    exact (ofElements_eq_plain h).symm

/-! ## Blank elements behind a value -/

/-- The trimmed elements of a value. -/
def elements (delimiter value : String) : List String := (Text.splitAt delimiter value).map Text.trim

theorem elements_ne_nil (delimiter value : String) : elements delimiter value ≠ [] := by
  simp [elements, Text.splitAt, Text.splitFrom_ne_nil]

theorem trimmed_of_mem_elements {delimiter value : String} :
    ∀ e ∈ elements delimiter value, Text.Trimmed e := by
  unfold elements
  exact List.forall_mem_map.2 fun p _ => Text.trimmed_trim p

theorem elements_append (value rest : String) :
    elements (String.singleton d) (value ++ String.singleton d ++ rest) =
      elements (String.singleton d) value ++ elements (String.singleton d) rest := by
  unfold elements
  rw [Text.splitAt_append, List.map_append]

/-- Blank elements behind a value are empty elements behind those of the value. -/
theorem elements_intercalate (hd : Text.isBlank d = false) (value : String) (hne : blanks ≠ [])
    (hblanks : ∀ b ∈ blanks, Text.isAllBlank b = true) :
    elements (String.singleton d) ((String.singleton d).intercalate (value :: blanks)) =
      elements (String.singleton d) value ++ List.replicate blanks.length "" := by
  have hundivided : ∀ b ∈ blanks, d ∉ b.toList := by
    intro b hb hmem
    have hblank := List.all_eq_true.1 (hblanks b hb) d hmem
    rw [hd] at hblank
    cases hblank
  have hempty : elements (String.singleton d) ((String.singleton d).intercalate blanks) =
      List.replicate blanks.length "" := by
    unfold elements
    rw [Text.splitAt_intercalate hne hundivided, ← List.map_const']
    exact List.map_congr_left fun b hb => Text.trim_eq_nil_iff.2 (hblanks b hb)
  obtain ⟨b, bs, rfl⟩ := List.exists_cons_of_ne_nil hne
  rw [String.intercalate_cons_cons, elements_append, hempty]

/-- Behind an empty element no word is a keyword. -/
theorem not_endsInKeyword_append (hne : es ≠ []) (n : Nat) :
    ¬ EndsInKeyword (es ++ List.replicate (n + 1) "") := by
  have hfront : es ++ List.replicate n "" ≠ [] := List.append_ne_nil_of_left_ne_nil hne _
  rw [List.replicate_succ', ← List.append_assoc]
  intro h
  obtain ⟨e, he, hkey⟩ := h
  rw [lastOfSeveral?_append hfront, Option.some.injEq] at he
  subst he
  rw [lower_empty, ofText?_empty] at hkey
  simp at hkey

theorem plainClauses_append_replicate (es : List String) (n : Nat) :
    plainClauses (es ++ List.replicate n "") = plainClauses es := by
  have hempty : Clause.plain? "" .ascending = none := rfl
  unfold plainClauses
  induction n with
  | zero => simp
  | succ n ih => rw [List.replicate_succ', ← List.append_assoc, List.filterMap_append, ih]; simp [hempty]

/-! ## Parsing -/

theorem parse_singleton (value : String) : parse (String.singleton d) [some value] =
    .ok (Sorting.ofClauses? (ofElements (elements (String.singleton d) value))) := by
  have hdelimiter : String.singleton d ≠ "" := fun h => by simpa using congrArg String.toList h
  unfold parse
  rw [if_neg fun h => hdelimiter h.1]
  simp [clauses, ofValue, elements]

/-- **Trailing blanks.** With blank elements behind it a value is read as its properties, each ascending
and with regard to letter case; its keywords are properties too. So the blank elements make no difference
exactly where the value itself does not end in a keyword. -/
theorem parse_trailing_blanks (hd : Text.isBlank d = false) (value : String) (hne : blanks ≠ [])
    (hblanks : ∀ b ∈ blanks, Text.isAllBlank b = true) :
    parse (String.singleton d) [some ((String.singleton d).intercalate (value :: blanks))] =
        .ok (Sorting.ofClauses? (plainClauses (elements (String.singleton d) value))) ∧
      (parse (String.singleton d) [some ((String.singleton d).intercalate (value :: blanks))] =
          parse (String.singleton d) [some value] ↔
        ¬ EndsInKeyword (elements (String.singleton d) value)) := by
  have hread : ofElements (elements (String.singleton d)
      ((String.singleton d).intercalate (value :: blanks))) =
        plainClauses (elements (String.singleton d) value) := by
    obtain ⟨b, bs, rfl⟩ := List.exists_cons_of_ne_nil hne
    rw [elements_intercalate hd value hne hblanks, List.length_cons,
      ofElements_eq_plain (not_endsInKeyword_append (elements_ne_nil _ value) _),
      plainClauses_append_replicate]
  rw [parse_singleton, parse_singleton, hread]
  refine ⟨rfl, ?_⟩
  rw [Except.ok.injEq, ofClauses?_inj]
  exact ofElements_eq_plain_iff trimmed_of_mem_elements

/-- A direction, blank elements, and the same behind a flag and without any keyword. -/
theorem parse_trailing_blanks_keywords :
    (∀ b ∈ ["", " \t"], Text.isAllBlank b = true) ∧
    parse (String.singleton ';') [some ((String.singleton ';').intercalate ["name;DESC", "", " \t"])] =
      .ok (some ⟨[⟨"name", .ascending, .native, false, rfl⟩, ⟨"DESC", .ascending, .native, false, rfl⟩]⟩) ∧
    parse (String.singleton ';') [some ((String.singleton ';').intercalate ["name;DESC", "", " \t"])] ≠
      parse (String.singleton ';') [some "name;DESC"] ∧
    parse (String.singleton ';') [some ((String.singleton ';').intercalate ["desc;; name", "", " \t"])] =
      parse (String.singleton ';') [some "desc;; name"] := by
  have hblanks : ∀ b ∈ ["", " \t"], Text.isAllBlank b = true := by decide
  have hkey : EndsInKeyword (elements (String.singleton ';') "name;DESC") :=
    ⟨"DESC", by decide +kernel, .inr (by decide +kernel)⟩
  have hplain : ¬ EndsInKeyword (elements (String.singleton ';') "desc;; name") := by
    intro h
    obtain ⟨e, he, hkey⟩ := h
    obtain rfl : "name" = e := Option.some.inj (Eq.trans (by decide +kernel) he)
    exact absurd hkey (by decide +kernel)
  obtain ⟨hread, hiff⟩ := parse_trailing_blanks (d := ';') (by decide) "name;DESC" (by simp) hblanks
  obtain ⟨-, hiff'⟩ := parse_trailing_blanks (d := ';') (by decide) "desc;; name" (by simp) hblanks
  refine ⟨hblanks, ?_, fun h => hiff.1 h hkey, hiff'.2 hplain⟩
  rw [hread, Except.ok.injEq]
  decide +kernel

/-- One delimiter at the end turns the direction into a property. -/
theorem parse_trailing_delimiter :
    parse (String.singleton ',') [some "name,desc"] =
        .ok (some ⟨[⟨"name", .descending, .native, false, rfl⟩]⟩) ∧
      parse (String.singleton ',') [some ((String.singleton ',').intercalate ["name,desc", ""])] =
        .ok (some ⟨[⟨"name", .ascending, .native, false, rfl⟩,
          ⟨"desc", .ascending, .native, false, rfl⟩]⟩) ∧
      ¬ ∀ (d : Char) (value : String) (blanks : List String), Text.isBlank d = false →
        (∀ b ∈ blanks, Text.isAllBlank b = true) →
        parse (String.singleton d) [some ((String.singleton d).intercalate (value :: blanks))] =
          parse (String.singleton d) [some value] := by
  have hvalue : parse (String.singleton ',') [some "name,desc"] =
      .ok (some ⟨[⟨"name", .descending, .native, false, rfl⟩]⟩) := by
    rw [parse_singleton, Except.ok.injEq]
    decide +kernel
  have hdelimiter :
      parse (String.singleton ',') [some ((String.singleton ',').intercalate ["name,desc", ""])] =
        .ok (some ⟨[⟨"name", .ascending, .native, false, rfl⟩,
          ⟨"desc", .ascending, .native, false, rfl⟩]⟩) := by
    rw [parse_singleton, Except.ok.injEq]
    decide +kernel
  refine ⟨hvalue, hdelimiter, fun h => ?_⟩
  have heq := h ',' "name,desc" [""] (by decide) (by decide)
  rw [hvalue, hdelimiter] at heq
  cases heq

end SortPath.SortParameter
