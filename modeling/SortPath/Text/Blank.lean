/-!
# White space and trimming

`isBlank` is the class of white space characters that trimming removes and blank checks ignore: the
control characters that separate lines, fields and records, and the Unicode space separators.
Zero-width characters (U+200B, U+FEFF) and the Mongolian vowel separator (U+180E) are not in it.

Results:
* `trim_eq_nil_iff`: trimming leaves nothing exactly when every character is white space.
* `trim_eq_iff`, `trimSlashes_eq_iff`: trimming leaves what stands between white space, or between
  slashes, and begins and ends with none.
-/
namespace SortPath.Text

/-- The first and last code points of the runs of white space. -/
def blankRanges : List (Nat × Nat) :=
  [(0x09, 0x0D), (0x1C, 0x20), (0x85, 0x85), (0xA0, 0xA0), (0x1680, 0x1680), (0x2000, 0x200A),
   (0x2028, 0x2029), (0x202F, 0x202F), (0x205F, 0x205F), (0x3000, 0x3000)]

def isBlank (c : Char) : Bool := blankRanges.any fun r => r.1 ≤ c.toNat && c.toNat ≤ r.2

/-- The characters between the first and the last that `p` rejects. -/
def trimBy (p : Char → Bool) (cs : List Char) : List Char :=
  ((cs.dropWhile p).reverse.dropWhile p).reverse

/-- A text without the white space at its two ends. -/
def trim (s : String) : String := String.ofList (trimBy isBlank s.toList)

/-- A text without the slashes at its two ends. -/
def trimSlashes (s : String) : String := String.ofList (trimBy (· = '/') s.toList)

/-- A text of white space only, the empty text included. -/
def isAllBlank (s : String) : Bool := s.toList.all isBlank

/-- A text that neither begins nor ends with white space. -/
def Trimmed (s : String) : Prop :=
  s.toList.head?.any isBlank = false ∧ s.toList.getLast?.any isBlank = false

instance (s : String) : Decidable (Trimmed s) := inferInstanceAs (Decidable (_ ∧ _))

/-- A text of slashes only, the empty text included. -/
def Slashes (s : String) : Prop := ∀ c ∈ s.toList, c = '/'

instance (s : String) : Decidable (Slashes s) := List.decidableBAll (fun c => c = '/') s.toList

/-- A text that neither begins nor ends with a slash. -/
def Bare (s : String) : Prop := s.toList.head? ≠ some '/' ∧ s.toList.getLast? ≠ some '/'

instance (s : String) : Decidable (Bare s) := inferInstanceAs (Decidable (_ ∧ _))

/-! ## What trimming keeps -/

theorem dropWhile_eq_nil_iff {p : Char → Bool} {cs : List Char} :
    cs.dropWhile p = [] ↔ ∀ c ∈ cs, p c = true := by
  induction cs with
  | nil => simp
  | cons c cs ih => by_cases h : p c = true <;> simp [h, ih]

theorem head_dropWhile {p : Char → Bool} {cs : List Char} {c : Char} {r : List Char}
    (h : cs.dropWhile p = c :: r) : p c = false := by
  have hnot := List.head?_dropWhile_not p cs
  rwa [h] at hnot

theorem trimBy_eq_nil_iff {p : Char → Bool} {cs : List Char} :
    trimBy p cs = [] ↔ ∀ c ∈ cs, p c = true := by
  constructor
  · intro h
    rw [trimBy, List.reverse_eq_nil_iff, dropWhile_eq_nil_iff] at h
    rw [← dropWhile_eq_nil_iff]
    cases hd : cs.dropWhile p with
    | nil => rfl
    | cons c r =>
      have := h c (by simp [hd])
      rw [head_dropWhile hd] at this; cases this
  · intro h
    rw [trimBy, dropWhile_eq_nil_iff.2 h]; rfl

theorem trim_eq_nil_iff {s : String} : trim s = "" ↔ isAllBlank s = true := by
  rw [isAllBlank, List.all_eq_true, ← trimBy_eq_nil_iff, trim, ← String.toList_inj,
    String.toList_ofList, String.toList_empty]

/-! ## What trimming takes away -/

section
variable {p : Char → Bool} {as bs cs ds : List Char} {s t : String}

theorem dropWhile_of_head? (h : ∀ c ∈ cs.head?, p c = false) : cs.dropWhile p = cs := by
  cases cs with
  | nil => rfl
  | cons c cs => rw [List.dropWhile_cons_of_neg (by simp [h c rfl])]

/-- What stands between characters of the class is what trimming leaves, if it begins and ends with none
of them. -/
theorem trimBy_append (ha : ∀ c ∈ as, p c = true) (hb : ∀ c ∈ bs, p c = true)
    (hhead : ∀ c ∈ ds.head?, p c = false) (hlast : ∀ c ∈ ds.getLast?, p c = false) :
    trimBy p (as ++ ds ++ bs) = ds := by
  rw [← List.head?_reverse] at hlast
  rw [List.append_assoc, trimBy, List.dropWhile_append_of_pos ha]
  cases ds with
  | nil =>
    rw [List.nil_append, dropWhile_eq_nil_iff.2 hb]
    rfl
  | cons d ds =>
    have hhead' : ∀ c ∈ (d :: ds ++ bs).head?, p c = false := hhead
    rw [dropWhile_of_head? hhead', List.reverse_append,
      List.dropWhile_append_of_pos (by simpa using hb), dropWhile_of_head? hlast, List.reverse_reverse]

/-- Trimming leaves what stands between characters of the class, and begins and ends with none of them. -/
theorem trimBy_eq_iff : trimBy p cs = ds ↔
    ((∀ c ∈ ds.head?, p c = false) ∧ ∀ c ∈ ds.getLast?, p c = false) ∧
      ∃ as bs, (∀ c ∈ as, p c = true) ∧ (∀ c ∈ bs, p c = true) ∧ cs = as ++ ds ++ bs := by
  constructor
  · rintro rfl
    have hrest : cs.dropWhile p = trimBy p cs ++ ((cs.dropWhile p).reverse.takeWhile p).reverse := by
      rw [trimBy, ← List.reverse_append, List.takeWhile_append_dropWhile, List.reverse_reverse]
    refine ⟨⟨?_, ?_⟩, cs.takeWhile p, ((cs.dropWhile p).reverse.takeWhile p).reverse, ?_, ?_, ?_⟩
    · intro c hc
      obtain ⟨r, hr⟩ := List.head?_eq_some_iff.1 (Option.mem_def.1 hc)
      rw [hr, List.cons_append] at hrest
      exact head_dropWhile hrest
    · intro c hc
      rw [trimBy, List.getLast?_reverse] at hc
      obtain ⟨r, hr⟩ := List.head?_eq_some_iff.1 (Option.mem_def.1 hc)
      exact head_dropWhile hr
    · exact List.all_eq_true.1 List.all_takeWhile
    · intro c hc
      exact List.all_eq_true.1 List.all_takeWhile c (List.mem_reverse.1 hc)
    · rw [List.append_assoc, ← hrest, List.takeWhile_append_dropWhile]
  · rintro ⟨⟨hhead, hlast⟩, as, bs, ha, hb, rfl⟩
    exact trimBy_append ha hb hhead hlast

theorem trimmed_iff : Trimmed s ↔
    (∀ c ∈ s.toList.head?, isBlank c = false) ∧ ∀ c ∈ s.toList.getLast?, isBlank c = false := by
  rw [Trimmed, Option.any_eq_false, Option.any_eq_false]
  simp only [Option.mem_def]

/-- Trimming leaves what stands between white space, and begins and ends with none. -/
theorem trim_eq_iff : trim s = t ↔
    Trimmed t ∧ ∃ a b, isAllBlank a = true ∧ isAllBlank b = true ∧ s = a ++ t ++ b := by
  rw [trimmed_iff, trim, ← String.toList_inj, String.toList_ofList, trimBy_eq_iff]
  refine and_congr_right fun _ => ⟨?_, ?_⟩
  · rintro ⟨as, bs, ha, hb, hs⟩
    refine ⟨String.ofList as, String.ofList bs, ?_, ?_, String.toList_inj.1 ?_⟩
    · simpa [isAllBlank] using ha
    · simpa [isAllBlank] using hb
    · simpa using hs
  · rintro ⟨a, b, ha, hb, rfl⟩
    exact ⟨a.toList, b.toList, List.all_eq_true.1 ha, List.all_eq_true.1 hb, by simp⟩

theorem trimmed_trim (s : String) : Trimmed (trim s) := (trim_eq_iff.1 rfl).1

theorem trim_of_trimmed (h : Trimmed s) : trim s = s :=
  trim_eq_iff.2 ⟨h, "", "", rfl, rfl, by simp⟩

theorem isAllBlank_eq_false_iff (h : Trimmed s) : isAllBlank s = false ↔ s ≠ "" := by
  rw [← Bool.not_eq_true, ← trim_eq_nil_iff, trim_of_trimmed h]

theorem trim_infix_toList (s : String) : (trim s).toList <:+: s.toList := by
  obtain ⟨a, b, -, -, hs⟩ := (trim_eq_iff.1 (Eq.refl (trim s))).2
  exact ⟨a.toList, b.toList, by rw [← String.toList_append, ← String.toList_append, ← hs]⟩

theorem bare_iff : Bare s ↔
    (∀ c ∈ s.toList.head?, decide (c = '/') = false) ∧
      ∀ c ∈ s.toList.getLast?, decide (c = '/') = false := by
  simp only [Bare, decide_eq_false_iff_not, Option.mem_def, ne_eq]
  refine and_congr ?_ ?_ <;> exact ⟨fun h c hc he => h (he ▸ hc), fun h hc => h _ hc rfl⟩

theorem trimSlashes_eq_iff : trimSlashes s = t ↔
    Bare t ∧ ∃ a b, Slashes a ∧ Slashes b ∧ s = a ++ t ++ b := by
  rw [bare_iff, trimSlashes, ← String.toList_inj, String.toList_ofList, trimBy_eq_iff]
  refine and_congr_right fun _ => ⟨?_, ?_⟩
  · rintro ⟨as, bs, ha, hb, hs⟩
    refine ⟨String.ofList as, String.ofList bs, ?_, ?_, String.toList_inj.1 ?_⟩
    · simpa [Slashes] using ha
    · simpa [Slashes] using hb
    · simpa using hs
  · rintro ⟨a, b, ha, hb, rfl⟩
    exact ⟨a.toList, b.toList, fun c hc => decide_eq_true (ha c hc),
      fun c hc => decide_eq_true (hb c hc), by simp⟩

theorem bare_trimSlashes (s : String) : Bare (trimSlashes s) := (trimSlashes_eq_iff.1 rfl).1

theorem trimSlashes_of_bare (h : Bare s) : trimSlashes s = s :=
  trimSlashes_eq_iff.2 ⟨h, "", "", by decide, by decide, by simp⟩

end

end SortPath.Text
