/-!
# Splitting at a separator

`splitAt sep` cuts a text at the occurrences of a non-empty separator, taken from the left and
without overlap; a text without an occurrence is one piece, so there is always at least one.
`cutFirst c` cuts at the first occurrence of one character.

Results:
* `splitAt_append`: a text is cut at a character by cutting what stands before and behind one occurrence.
* `splitAt_intercalate`: cutting at a character gives back the pieces that it joins.
* `not_infix_of_mem_splitAt`: the separator stands in no piece, also where it can overlap itself.
-/
namespace SortPath.Text

/-- The pieces of a text, where `skip` characters of a separator are still to be passed over and
`piece` is what has been read of the current piece. -/
def splitFrom (sep : List Char) : Nat → List Char → List Char → List (List Char)
  | _, piece, [] => [piece]
  | skip + 1, piece, _ :: cs => splitFrom sep skip piece cs
  | 0, piece, c :: cs =>
    if sep.isPrefixOf (c :: cs) then piece :: splitFrom sep (sep.length - 1) [] cs
    else splitFrom sep 0 (piece ++ [c]) cs

/-- The pieces of `s` between the occurrences of the non-empty separator `sep`. -/
def splitAt (sep s : String) : List String :=
  (splitFrom sep.toList 0 [] s.toList).map String.ofList

/-- What stands before and after the first `c`; the second part is empty where there is none. -/
def cutFirst (c : Char) (cs : List Char) : List Char × List Char :=
  (cs.takeWhile (· ≠ c), (cs.dropWhile (· ≠ c)).drop 1)

section
variable {sep w : List Char} {d : Char}

theorem splitFrom_ne_nil (sep : List Char) (skip : Nat) (piece cs : List Char) :
    splitFrom sep skip piece cs ≠ [] := by
  fun_induction splitFrom sep skip piece cs <;> simp_all

/-! ## Joining and cutting -/

/-- Up to the first separator character everything belongs to the piece being read. -/
theorem splitFrom_append_of_notMem (hw : d ∉ w) (piece rest : List Char) :
    splitFrom [d] 0 piece (w ++ rest) = splitFrom [d] 0 (piece ++ w) rest := by
  induction w generalizing piece with
  | nil => simp
  | cons c w ih =>
    rw [List.mem_cons, not_or] at hw
    have hc : [d].isPrefixOf (c :: (w ++ rest)) = false := by simp [List.isPrefixOf, hw.1]
    rw [List.cons_append, splitFrom, hc]
    simp [ih hw.2]

/-- At a separator character the piece being read ends, and what stands behind is cut by itself. -/
theorem splitFrom_append (piece cs rest : List Char) :
    splitFrom [d] 0 piece (cs ++ d :: rest) = splitFrom [d] 0 piece cs ++ splitFrom [d] 0 [] rest := by
  induction cs generalizing piece with
  | nil => simp [splitFrom]
  | cons c cs ih =>
    by_cases hc : d = c
    · subst hc
      simp [splitFrom, ih]
    · simp [splitFrom, hc, ih]

theorem splitAt_append (s rest : String) :
    splitAt (String.singleton d) (s ++ String.singleton d ++ rest) =
      splitAt (String.singleton d) s ++ splitAt (String.singleton d) rest := by
  have hsep : (String.singleton d).toList = [d] := String.toList_singleton d
  have htext : (s ++ String.singleton d ++ rest).toList = s.toList ++ d :: rest.toList := by simp
  unfold splitAt
  rw [hsep, htext, splitFrom_append, List.map_append]

theorem splitAt_intercalate {es : List String} (hne : es ≠ []) (h : ∀ e ∈ es, d ∉ e.toList) :
    splitAt (String.singleton d) ((String.singleton d).intercalate es) = es := by
  have hsep : (String.singleton d).toList = [d] := String.toList_singleton d
  have hsplit : splitFrom [d] 0 [] ((String.singleton d).intercalate es).toList = es.map String.toList := by
    induction es with
    | nil => exact absurd rfl hne
    | cons e es ih =>
      obtain ⟨he, hes⟩ := List.forall_mem_cons.1 h
      cases es with
      | nil =>
        have hlast := splitFrom_append_of_notMem he [] []
        simpa [splitFrom] using hlast
      | cons e' es =>
        have hjoin : ((String.singleton d).intercalate (e :: e' :: es)).toList =
            e.toList ++ d :: ((String.singleton d).intercalate (e' :: es)).toList := by
          simp [String.intercalate_cons_cons]
        rw [hjoin, splitFrom_append_of_notMem he, splitFrom]
        simpa using ih (by simp) hes
  rw [splitAt, hsep, hsplit, List.map_map]
  simp

/-! ## What pieces do not hold -/

/-- Where the separator does not begin within the piece that is being read, it stands in no piece. -/
theorem not_infix_of_mem_splitFrom {skip : Nat} {piece cs p : List Char} (hsep : sep ≠ [])
    (hskip : skip ≠ 0 → piece = [])
    (hpiece : ∀ u, u ≠ [] → u <:+ piece → ¬ sep <+: u ++ cs) (hp : p ∈ splitFrom sep skip piece cs) :
    ¬ sep <:+: p := by
  have hnil : ∀ rest u : List Char, u ≠ [] → u <:+ [] → ¬ sep <+: u ++ rest :=
    fun _ _ hu hsuffix => absurd (List.suffix_nil.1 hsuffix) hu
  have hdone : ∀ {piece rest : List Char}, (∀ u, u ≠ [] → u <:+ piece → ¬ sep <+: u ++ rest) →
      ¬ sep <:+: piece := by
    rintro piece rest h ⟨a, b, rfl⟩
    refine h (sep ++ b) (by simp [hsep]) ⟨a, by simp⟩ ⟨b ++ rest, by simp⟩
  fun_induction splitFrom sep skip piece cs with
  | case1 skip piece =>
    obtain rfl := List.mem_singleton.1 hp
    exact hdone hpiece
  | case2 skip piece c cs ih =>
    obtain rfl := hskip (by simp)
    exact ih (fun _ => rfl) (hnil cs) hp
  | case3 piece c cs hprefix ih =>
    rcases List.mem_cons.1 hp with rfl | hp
    · exact hdone hpiece
    · exact ih (fun _ => rfl) (hnil cs) hp
  | case4 piece c cs hprefix ih =>
    -- a suffix of the longer piece is a suffix of the shorter one with the new character behind it
    refine ih (by simp) (fun u hne hu => ?_) hp
    obtain rfl | ⟨v, rfl, hv⟩ := List.suffix_concat_iff.1 hu
    · exact absurd rfl hne
    rw [List.append_assoc]
    by_cases hnew : v = []
    · rw [hnew]
      exact fun h => hprefix (List.isPrefixOf_iff_prefix.2 h)
    · exact hpiece v hnew hv

theorem not_infix_of_mem_splitAt {delimiter s p : String} (hne : delimiter ≠ "")
    (hp : p ∈ splitAt delimiter s) : ¬ delimiter.toList <:+: p.toList := by
  obtain ⟨cs, hcs, rfl⟩ := List.mem_map.1 hp
  rw [String.toList_ofList]
  refine not_infix_of_mem_splitFrom (by simpa using hne) (fun _ => rfl) ?_ hcs
  exact fun u hu hsuffix => absurd (List.suffix_nil.1 hsuffix) hu

end

end SortPath.Text
