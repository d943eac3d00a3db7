import SortPath.Text.Case

/-!
# Property paths

A request names a property by a path of external names: `address.streetName`, `userProfile_bio`. The
delimiters `_` and `.` separate the segments of a path. Only the first delimiter after a segment
separates; further ones belong to the next segment, and delimiters at the end are dropped.

A segment is matched against external names in its normal form: a segment of capitals, digits,
delimiters and dollar signs stands for itself, any other begins with a small letter unless its first
two characters are capitals.

Results:
* `mem_segments`: every segment is some delimiters and then at least one other character.
-/
namespace SortPath.PropertyPath

def isDelimiter (c : Char) : Bool := c = '_' || c = '.'

/-- The segments of a text, where `lead` are the delimiters and `word` the other characters that have
been read of the current segment. -/
def scan (lead word : List Char) : List Char → List (List Char)
  | [] => if word = [] then [] else [lead ++ word]
  | c :: cs =>
    if isDelimiter c then
      if word = [] then scan (lead ++ [c]) [] cs else (lead ++ word) :: scan [] [] cs
    else scan lead (word ++ [c]) cs

/-- The segments of a path. -/
def segments (path : String) : List String := (scan [] [] path.toList).map String.ofList

/-! ## The normal form of a segment -/

/-- The characters of constant-style names. -/
def isConstantChar (c : Char) : Bool :=
  c.isUpper || c.isDigit || c = '.' || c = '_' || c = '$'

/-- Lower-case the first character, unless the first two are capitals. -/
def decapitalizeChars : List Char → List Char
  | [] => []
  | [c] => Text.lowerChar c
  | c :: d :: cs =>
    if Text.isUpperChar c && Text.isUpperChar d then c :: d :: cs else Text.lowerChar c ++ d :: cs

def decapitalize (name : String) : String := String.ofList (decapitalizeChars name.toList)

def normalizeChars (cs : List Char) : List Char :=
  if cs ≠ [] ∧ cs.all isConstantChar then cs else decapitalizeChars cs

/-- The form in which a segment is looked up among the external names. -/
def normalize (segment : String) : String := String.ofList (normalizeChars segment.toList)

/-! ## The shape of segments -/

/-- Some delimiters, and then at least one other character and no delimiter. -/
def IsSegment (cs : List Char) : Prop :=
  ∃ lead word, cs = lead ++ word ∧ lead.all isDelimiter = true ∧ word ≠ [] ∧
    ∀ c ∈ word, isDelimiter c = false

theorem mem_scan {lead word cs s : List Char} (hl : lead.all isDelimiter = true)
    (hw : ∀ c ∈ word, isDelimiter c = false) (h : s ∈ scan lead word cs) : IsSegment s := by
  fun_induction scan lead word cs with
  | case1 => simp at h
  | case2 lead word hne =>
    rw [List.mem_singleton] at h
    exact ⟨lead, word, h, hl, hne, hw⟩
  | case3 lead c cs hc ih => exact ih (by simp_all) (by simp) h
  | case4 lead word c cs hc hne ih =>
    rcases List.mem_cons.1 h with rfl | h
    · exact ⟨lead, word, rfl, hl, hne, hw⟩
    · exact ih rfl (by simp) h
  | case5 lead word c cs hc ih =>
    refine ih hl (fun d hd => ?_) h
    rcases List.mem_append.1 hd with hd | hd
    · exact hw d hd
    · rw [List.mem_singleton.1 hd]; simpa using hc

theorem mem_segments {path s : String} (h : s ∈ segments path) : IsSegment s.toList := by
  obtain ⟨cs, hcs, rfl⟩ := List.mem_map.1 h
  rw [String.toList_ofList]
  exact mem_scan rfl (by simp) hcs

end SortPath.PropertyPath
