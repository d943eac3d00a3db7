import SortPath.SortParameter
import Mathlib.Data.List.Forall2

/-!
# Writing a sorting as values

A `Group` of properties that share a direction and a flag is written as one value: the properties, the word
for the direction and, where the flag is set, `ignorecase`, joined by the delimiter. The two words may be in
any letter case, and white space may stand around every element (`Group.Writes`).

The reader knows the words by their place only: it takes `ignorecase` and then a direction off the end, each
if something is left before it. The direction is always written, and a group has a property; so both are
found where they were written and every property, be it one of the words, is left alone.

Results:
* `ofElements_of_spells`: the elements that spell a group are read as its clauses.
* `ofValue_of_writes`, `parse_of_writes`: so are values that write groups.
* `parse_round_trip`: written groups are parsed back, and every sorting of such clauses can be written.
-/
namespace SortPath.SortParameter

variable {d c : Char} {s e x keyword : String} {es xs : List String}

/-! ## Keywords -/

def keywords : List String := ["asc", "desc", "ignorecase"]

/-- `s` is the keyword, each of its letters as it is or as a capital. -/
def InAnyCase (keyword s : String) : Prop :=
  List.Forall₂ (fun k c => c ∈ [k, k.toUpper]) keyword.toList s.toList

/-- The letters of the keywords, small and capital. -/
def letters : List Char := keywords.flatMap fun keyword => keyword.toList ++ keyword.toList.map Char.toUpper

theorem letters_check : (keywords.all fun keyword => keyword.toList.all fun k => [k, k.toUpper].all fun c =>
    c.toNat != 0x3A3 && Text.lowerChar c == [k] && !Text.isBlank c && letters.contains c) = true := by
  decide +kernel

/-- A letter of a keyword, small or capital, is no white space and has the small letter as its lower-case
form. -/
theorem of_mem_keyword {k : Char} (hkeyword : keyword ∈ keywords) (hk : k ∈ keyword.toList)
    (hc : c ∈ [k, k.toUpper]) :
    c.toNat ≠ 0x3A3 ∧ Text.lowerChar c = [k] ∧ Text.isBlank c = false ∧ c ∈ letters := by
  have hcheck := List.all_eq_true.1 (List.all_eq_true.1 (List.all_eq_true.1 letters_check keyword hkeyword)
    k hk) c hc
  simpa [and_assoc] using hcheck

theorem lowerAfter_of_forall₂ {ks cs : List Char}
    (h : List.Forall₂ (fun k c => c ∈ [k, k.toUpper]) ks cs)
    (hletters : ∀ k ∈ ks, ∀ c ∈ [k, k.toUpper], c.toNat ≠ 0x3A3 ∧ Text.lowerChar c = [k])
    (before : List Char) : Text.lowerAfter before cs = ks := by
  induction h generalizing before with
  | nil => rfl
  | @cons k c ks cs hkc _ ih =>
    obtain ⟨hk, hks⟩ := List.forall_mem_cons.1 hletters
    obtain ⟨hsigma, hlower⟩ := hk c hkc
    rw [Text.lowerAfter, if_neg hsigma, hlower, ih hks]
    rfl

theorem InAnyCase.lower (hk : keyword ∈ keywords) (h : InAnyCase keyword s) : Text.lower s = keyword := by
  have hafter : Text.lowerAfter [] s.toList = keyword.toList := by
    refine lowerAfter_of_forall₂ h (fun k hmem c hc => ?_) []
    obtain ⟨hsigma, hlower, -⟩ := of_mem_keyword hk hmem hc
    exact ⟨hsigma, hlower⟩
  rw [Text.lower, hafter, String.ofList_toList]

theorem forall_mem_of_forall₂ {α β : Type} {R : α → β → Prop} {P : β → Prop} {as : List α} {bs : List β}
    (h : List.Forall₂ R as bs) (hP : ∀ a ∈ as, ∀ b, R a b → P b) : ∀ b ∈ bs, P b := by
  induction h with
  | nil => exact fun b hb => absurd hb (by simp)
  | cons hab _ ih =>
    obtain ⟨ha, has⟩ := List.forall_mem_cons.1 hP
    exact List.forall_mem_cons.2 ⟨ha _ hab, ih has⟩

theorem InAnyCase.trimmed (hk : keyword ∈ keywords) (h : InAnyCase keyword s) : Text.Trimmed s := by
  have hchars : ∀ c ∈ s.toList, Text.isBlank c = false :=
    forall_mem_of_forall₂ h fun k hmem c hc => (of_mem_keyword hk hmem hc).2.2.1
  exact Text.trimmed_iff.2
    ⟨fun c hc => hchars c (List.mem_of_mem_head? hc), fun c hc => hchars c (List.mem_of_getLast? hc)⟩

theorem text_mem_keywords (direction : Direction) : direction.text ∈ keywords := by
  cases direction <;> decide

theorem words_lookup_text (direction : Direction) :
    Direction.words.lookup direction.text = some direction := by
  cases direction <;> decide

/-! ## Writing -/

/-- A character that can stand between elements: neither white space nor a letter of a keyword. -/
structure Delimits (d : Char) : Prop where
  notBlank : Text.isBlank d = false
  notLetter : d ∉ letters

/-- Properties that share a direction and a flag, and that can stand between delimiters. -/
structure Group (d : Char) where
  properties : List String
  direction : Direction
  ignoreCase : Bool
  ne_nil : properties ≠ []
  ne_empty : ∀ p ∈ properties, p ≠ ""
  trimmed : ∀ p ∈ properties, Text.Trimmed p
  undivided : ∀ p ∈ properties, d ∉ p.toList

namespace Group

theorem notBlank (g : Group d) : ∀ p ∈ g.properties, Text.isAllBlank p = false := fun p hp =>
  (Text.isAllBlank_eq_false_iff (g.trimmed p hp)).2 (g.ne_empty p hp)

/-- The clauses that a group stands for. -/
def clauses (g : Group d) : List Clause :=
  g.properties.pmap (fun p h => ⟨p, g.direction, .native, g.ignoreCase, h⟩) g.notBlank

/-- The elements of a group: its properties, its direction, and the flag where that is set. -/
def Spells (g : Group d) (es : List String) : Prop :=
  ∃ direction flag, InAnyCase g.direction.text direction ∧ InAnyCase "ignorecase" flag ∧
    es = g.properties ++ direction :: if g.ignoreCase then [flag] else []

end Group

/-- `x` is `e` with white space around it. -/
def Padded (e x : String) : Prop :=
  ∃ a b, Text.isAllBlank a = true ∧ Text.isAllBlank b = true ∧ x = a ++ e ++ b

/-- The value is made of the elements of the group, with white space around each. -/
def Group.Writes (g : Group d) (value : String) : Prop :=
  ∃ es xs, g.Spells es ∧ List.Forall₂ Padded es xs ∧ value = (String.singleton d).intercalate xs

/-! ## Reading the elements -/

theorem filterMap_make? {es : List String} (h : ∀ p ∈ es, Text.isAllBlank p = false)
    (direction : Direction) (ignoreCase : Bool) :
    es.filterMap (Clause.make? · direction .native ignoreCase) =
      es.pmap (fun p h => ⟨p, direction, .native, ignoreCase, h⟩) h := by
  induction es with
  | nil => rfl
  | cons e es ih =>
    obtain ⟨he, hes⟩ := List.forall_mem_cons.1 h
    have hmake : Clause.make? e direction .native ignoreCase =
      some ⟨e, direction, .native, ignoreCase, he⟩ := dif_pos he
    simp only [List.filterMap_cons, hmake, List.pmap_cons, ih hes]

/-- The elements that spell a group are read as its clauses. -/
theorem ofElements_of_spells {g : Group d} (h : g.Spells es) : ofElements es = g.clauses := by
  obtain ⟨direction, flag, hdirection, hflag, rfl⟩ := h
  have hword := text_mem_keywords g.direction
  have hlower : Text.lower direction = g.direction.text := hdirection.lower hword
  have hdistinct : g.direction.text ≠ "ignorecase" := by cases g.direction <;> decide
  have hread : Direction.ofText? direction = some g.direction := by
    rw [Direction.ofText?, Text.trim_of_trimmed (hdirection.trimmed hword), hlower]
    exact words_lookup_text g.direction
  -- set or not, the flag leaves the direction at the end, behind a property
  have htake : takeIgnoreCase (g.properties ++ direction :: if g.ignoreCase then [flag] else []) =
      (g.properties ++ [direction], g.ignoreCase) := by
    cases g.ignoreCase with
    | false => exact takeIgnoreCase_append_of_ne g.ne_nil (hlower ▸ hdistinct)
    | true =>
      have hne : g.properties ++ [direction] ≠ [] := by simp
      have htwo := takeIgnoreCase_append hne (hflag.lower (by decide))
      rw [List.append_assoc] at htwo
      exact htwo
  rw [ofElements, htake]
  simp only [takeDirection_append g.ne_nil hread, Option.getD_some]
  exact filterMap_make? g.notBlank g.direction g.ignoreCase

/-! ## Reading values -/

/-- What holds of the properties and of the keywords in any letter case, holds of all elements. -/
theorem Group.Spells.forall_mem {g : Group d} {P : String → Prop} (h : g.Spells es)
    (hproperty : ∀ p ∈ g.properties, P p)
    (hword : ∀ keyword ∈ keywords, ∀ s, InAnyCase keyword s → P s) : ∀ e ∈ es, P e := by
  obtain ⟨direction, flag, hdirection, hflag, rfl⟩ := h
  have hlast : ∀ e ∈ if g.ignoreCase then [flag] else [], P e := by
    split
    · exact List.forall_mem_singleton.2 (hword _ (by decide) flag hflag)
    · simp
  exact List.forall_mem_append.2 ⟨hproperty, List.forall_mem_cons.2
    ⟨hword _ (text_mem_keywords g.direction) direction hdirection, hlast⟩⟩

theorem Group.Spells.trimmed {g : Group d} (h : g.Spells es) : ∀ e ∈ es, Text.Trimmed e :=
  h.forall_mem g.trimmed fun _ hk _ hs => hs.trimmed hk

theorem Delimits.notMem (hd : Delimits d) (hk : keyword ∈ keywords) (h : InAnyCase keyword s) :
    d ∉ s.toList := by
  have hletters : ∀ c ∈ s.toList, c ∈ letters :=
    forall_mem_of_forall₂ h fun k hmem c hc => (of_mem_keyword hk hmem hc).2.2.2
  exact fun hmem => hd.notLetter (hletters d hmem)

theorem Group.Spells.undivided {g : Group d} (hd : Delimits d) (h : g.Spells es) :
    ∀ e ∈ es, d ∉ e.toList :=
  h.forall_mem g.undivided fun _ hk _ hs => hd.notMem hk hs

theorem Padded.trim (h : Padded e x) (he : Text.Trimmed e) : Text.trim x = e :=
  Text.trim_eq_iff.2 ⟨he, h⟩

theorem Padded.notMem (h : Padded e x) (hd : Text.isBlank d = false) (he : d ∉ e.toList) :
    d ∉ x.toList := by
  obtain ⟨a, b, ha, hb, rfl⟩ := h
  have hnotMem : ∀ {s : String}, Text.isAllBlank s = true → d ∉ s.toList := by
    intro s hs hmem
    rw [List.all_eq_true.1 hs d hmem] at hd
    cases hd
  simp [hnotMem ha, hnotMem hb, he]

theorem map_trim_of_padded (h : List.Forall₂ Padded es xs) (hes : ∀ e ∈ es, Text.Trimmed e) :
    xs.map Text.trim = es := by
  induction h with
  | nil => rfl
  | cons hpadded _ ih =>
    obtain ⟨he, hes⟩ := List.forall_mem_cons.1 hes
    rw [List.map_cons, hpadded.trim he, ih hes]

theorem ofValue_of_writes (hd : Delimits d) {g : Group d} {value : String} (h : g.Writes value) :
    ofValue (String.singleton d) value = g.clauses := by
  obtain ⟨es, xs, hspells, hpadded, rfl⟩ := h
  have hes := hspells.undivided hd
  have hxs : ∀ x ∈ xs, d ∉ x.toList :=
    forall_mem_of_forall₂ hpadded fun e he x hx => hx.notMem hd.notBlank (hes e he)
  have hne : xs ≠ [] := by
    obtain ⟨direction, flag, -, -, rfl⟩ := hspells
    rintro rfl
    exact absurd (List.forall₂_nil_right_iff.1 hpadded) (by simp)
  rw [ofValue, Text.splitAt_intercalate hne hxs, map_trim_of_padded hpadded hspells.trimmed]
  exact ofElements_of_spells hspells

theorem clauses_of_writes (hd : Delimits d) {groups : List (Group d)} {values : List String}
    (h : List.Forall₂ Group.Writes groups values) :
    clauses (String.singleton d) (values.map some) = groups.flatMap Group.clauses := by
  induction h with
  | nil => rfl
  | @cons g value groups values hg _ ih =>
    rw [List.flatMap_cons, ← ih, ← ofValue_of_writes hd hg]
    rfl

/-- Values that write groups are parsed as the sorting by the clauses of the groups, in order. -/
theorem parse_of_writes (hd : Delimits d) {groups : List (Group d)} {values : List String}
    (hne : groups ≠ []) (h : List.Forall₂ Group.Writes groups values) :
    parse (String.singleton d) (values.map some) = .ok (some ⟨groups.flatMap Group.clauses⟩) := by
  have hdelimiter : String.singleton d ≠ "" := fun h => by simpa using congrArg String.toList h
  have hclauses : groups.flatMap Group.clauses ≠ [] := by
    obtain ⟨g, groups, rfl⟩ := List.exists_cons_of_ne_nil hne
    simp [Group.clauses, g.ne_nil]
  have hsome : Sorting.ofClauses? (groups.flatMap Group.clauses) =
      some ⟨groups.flatMap Group.clauses⟩ := Sorting.ofClauses?_eq_some_iff.2 ⟨hclauses, rfl⟩
  rw [parse, if_neg fun h => hdelimiter h.1, clauses_of_writes hd h, hsome]

/-! ## Writing a sorting -/

/-- Every group can be written: as it stands, with small letters and without white space. -/
theorem Group.exists_writes (g : Group d) : ∃ value, g.Writes value := by
  have hsame : ∀ s, InAnyCase s s := fun s => List.forall₂_same.2 fun k _ => List.mem_cons_self ..
  have hpadded : ∀ e, Padded e e := fun e => ⟨"", "", rfl, rfl, by simp⟩
  exact ⟨_, _, _, ⟨g.direction.text, "ignorecase", hsame _, hsame _, rfl⟩,
    List.forall₂_same.2 fun e _ => hpadded e, rfl⟩

/-- A clause that values can ask for. -/
structure Writable (d : Char) (k : Clause) : Prop where
  native : k.nullPlacement = .native
  trimmed : Text.Trimmed k.property
  undivided : d ∉ k.property.toList

theorem Writable.exists_group {k : Clause} (h : Writable d k) : ∃ g : Group d, g.clauses = [k] := by
  refine ⟨⟨[k.property], k.direction, k.ignoreCase, by simp,
    List.forall_mem_singleton.2 k.property_ne_empty, List.forall_mem_singleton.2 h.trimmed,
    List.forall_mem_singleton.2 h.undivided⟩, ?_⟩
  exact congrArg (fun k => [k]) (Clause.ext rfl rfl h.native.symm rfl)

theorem exists_groups {ks : List Clause} (h : ∀ k ∈ ks, Writable d k) :
    ∃ (groups : List (Group d)) (values : List String),
      List.Forall₂ Group.Writes groups values ∧ groups.flatMap Group.clauses = ks := by
  induction ks with
  | nil => exact ⟨[], [], .nil, rfl⟩
  | cons k ks ih =>
    obtain ⟨hk, hks⟩ := List.forall_mem_cons.1 h
    obtain ⟨groups, values, hwrites, hclauses⟩ := ih hks
    obtain ⟨g, hg⟩ := hk.exists_group
    obtain ⟨value, hvalue⟩ := g.exists_writes
    refine ⟨g :: groups, value :: values, .cons hvalue hwrites, ?_⟩
    rw [List.flatMap_cons, hg, hclauses]
    rfl

/-- Values that write groups are parsed as the sorting by all clauses of the groups, in order. Every sorting
of clauses that a value can ask for is the sorting by such groups, so it can be written, and is parsed back
as it was. -/
theorem parse_round_trip (hd : Delimits d) :
    (∀ (groups : List (Group d)) (values : List String), groups ≠ [] →
      List.Forall₂ Group.Writes groups values →
      parse (String.singleton d) (values.map some) = .ok (some ⟨groups.flatMap Group.clauses⟩)) ∧
    (∀ s : Sorting, s.clauses ≠ [] → (∀ k ∈ s.clauses, Writable d k) →
      ∃ (groups : List (Group d)) (values : List String), List.Forall₂ Group.Writes groups values ∧
        parse (String.singleton d) (values.map some) = .ok (some s)) := by
  refine ⟨fun groups values => parse_of_writes hd, fun s hne hwritable => ?_⟩
  obtain ⟨groups, values, hwrites, hclauses⟩ := exists_groups hwritable
  have hgroups : groups ≠ [] := by
    rintro rfl
    exact hne hclauses.symm
  refine ⟨groups, values, hwrites, ?_⟩
  rw [parse_of_writes hd hgroups hwrites, hclauses]

/-- Two groups whose properties are themselves keywords. -/
def keywordGroups : List (Group ';') :=
  [⟨["desc", "ignorecase"], .descending, true, by decide, by decide, by decide, by decide⟩,
   ⟨["asc"], .ascending, false, by decide, by decide, by decide, by decide⟩]

theorem parse_round_trip_keywords :
    parse (String.singleton ';') ([" desc;ignorecase ;DESC; IgnoreCase\t", "asc; aSC"].map some) =
      .ok (some ⟨keywordGroups.flatMap Group.clauses⟩) ∧
    ∃ (groups : List (Group ';')) (values : List String), List.Forall₂ Group.Writes groups values ∧
      parse (String.singleton ';') (values.map some) = .ok (some
        ⟨[⟨"desc", .descending, .native, true, rfl⟩, ⟨"asc", .ascending, .native, false, rfl⟩]⟩) := by
  have hd : Delimits ';' := ⟨by decide, by decide⟩
  obtain ⟨hread, hwrite⟩ := parse_round_trip hd
  refine ⟨hread keywordGroups _ (by simp [keywordGroups]) ?_, hwrite _ (by simp) ?_⟩
  · have hfirst : Group.Writes keywordGroups[0] " desc;ignorecase ;DESC; IgnoreCase\t" :=
      ⟨["desc", "ignorecase", "DESC", "IgnoreCase"], [" desc", "ignorecase ", "DESC", " IgnoreCase\t"],
        ⟨"DESC", "IgnoreCase", by unfold InAnyCase; decide, by unfold InAnyCase; decide, rfl⟩,
        .cons ⟨" ", "", rfl, rfl, rfl⟩ (.cons ⟨"", " ", rfl, rfl, rfl⟩ (.cons ⟨"", "", rfl, rfl, rfl⟩
          (.cons ⟨" ", "\t", rfl, rfl, rfl⟩ .nil))), by decide⟩
    have hsecond : Group.Writes keywordGroups[1] "asc; aSC" :=
      ⟨["asc", "aSC"], ["asc", " aSC"],
        ⟨"aSC", "ignorecase", by unfold InAnyCase; decide, by unfold InAnyCase; decide, rfl⟩,
        .cons ⟨"", "", rfl, rfl, rfl⟩ (.cons ⟨" ", "", rfl, rfl, rfl⟩ .nil), by decide⟩
    exact .cons hfirst (.cons hsecond .nil)
  · exact List.forall_mem_cons.2 ⟨⟨rfl, by decide, by decide⟩,
      List.forall_mem_singleton.2 ⟨rfl, by decide, by decide⟩⟩

end SortPath.SortParameter
