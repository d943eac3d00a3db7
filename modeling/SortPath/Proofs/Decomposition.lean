import SortPath.PropertyPath

/-!
# The segments of a path are its only decomposition

With one delimiter written in front, every path is a sequence of segments, each behind a single delimiter,
and then perhaps some more delimiters. A segment may itself begin with delimiters and ends with at least
one other character, so a run of delimiters could seem to be shared out between a separator, the segment
behind it and the end of the path in several ways. There is only one: the first delimiter behind a segment
separates, the others belong to the next segment if there is one, and to the end of the path if there is
none. The tokenizer finds it.

Results:
* `Decomposes.scan_eq`, `decomposes_scan`: the tokenizer reads the segments of a decomposition, and what it
  reads is one.
* `decomposes_iff`: the segments of a path are its one and only decomposition.
* `segments_decomposition`: so joined segments are read off again, and two paths with the same segments
  differ in their separators and in the delimiters at the end only.
-/
namespace SortPath.PropertyPath

variable {cs rest lead word t : List Char} {d : Char} {s : String} {ss : List String}

/-! ## Decompositions -/

def Delimiters (cs : List Char) : Prop := ∀ c ∈ cs, isDelimiter c = true

/-- The segments, each behind its separator, and what follows the last one. -/
def spelled (ds : List Char) (ss : List String) (t : List Char) : List Char :=
  (List.zipWith (fun d s => d :: s.toList) ds ss).flatten ++ t

/-- The segments with separators between them, and what follows the last one. -/
def joined (ds : List Char) (ss : List String) (t : List Char) : List Char :=
  match ss with
  | [] => t
  | s :: ss => s.toList ++ spelled ds ss t

/-- The text is the segments in their order, each behind one delimiter, and then delimiters only. -/
def Decomposes (cs : List Char) (ss : List String) : Prop :=
  (∀ s ∈ ss, IsSegment s.toList) ∧ ∃ ds t, ds.length = ss.length ∧ Delimiters ds ∧ Delimiters t ∧
    cs = spelled ds ss t

theorem decomposes_nil_iff : Decomposes cs [] ↔ Delimiters cs := by
  constructor
  · rintro ⟨-, ds, t, hlen, -, ht, rfl⟩
    obtain rfl := List.length_eq_zero_iff.1 hlen
    exact ht
  · intro h
    exact ⟨by simp, [], cs, rfl, by simp [Delimiters], h, rfl⟩

theorem decomposes_cons_iff : Decomposes cs (s :: ss) ↔ IsSegment s.toList ∧
    ∃ d rest, isDelimiter d = true ∧ cs = d :: (s.toList ++ rest) ∧ Decomposes rest ss := by
  constructor
  · rintro ⟨hss, ds, t, hlen, hds, ht, rfl⟩
    obtain ⟨hs, hss⟩ := List.forall_mem_cons.1 hss
    cases ds with
    | nil => cases hlen
    | cons d ds =>
      obtain ⟨hd, hds⟩ := List.forall_mem_cons.1 hds
      exact ⟨hs, d, spelled ds ss t, hd, by simp [spelled], hss, ds, t, Nat.succ.inj hlen, hds, ht, rfl⟩
  · rintro ⟨hs, d, rest, hd, rfl, hss, ds, t, hlen, hds, ht, rfl⟩
    exact ⟨List.forall_mem_cons.2 ⟨hs, hss⟩, d :: ds, t, congrArg Nat.succ hlen,
      List.forall_mem_cons.2 ⟨hd, hds⟩, ht, by simp [spelled]⟩

theorem Decomposes.head_isDelimiter {c : Char} (h : Decomposes (c :: cs) ss) : isDelimiter c = true := by
  cases ss with
  | nil => exact decomposes_nil_iff.1 h c (List.mem_cons_self ..)
  | cons s ss =>
    obtain ⟨-, d, rest, hd, he, -⟩ := decomposes_cons_iff.1 h
    exact (List.cons.inj he).1 ▸ hd

theorem Decomposes.eq_nil (h : Decomposes [] ss) : ss = [] := by
  cases ss with
  | nil => rfl
  | cons s ss =>
    obtain ⟨-, d, rest, -, he, -⟩ := decomposes_cons_iff.1 h
    cases he

/-! ## What the tokenizer does with each part -/

theorem scan_delimiters (hl : Delimiters lead) (before cs : List Char) :
    scan before [] (lead ++ cs) = scan (before ++ lead) [] cs := by
  induction lead generalizing before with
  | nil => simp
  | cons d lead ih =>
    obtain ⟨hd, hl⟩ := List.forall_mem_cons.1 hl
    rw [List.cons_append, scan, if_pos hd, if_pos rfl, ih hl, List.append_assoc]
    rfl

theorem scan_word (hw : ∀ c ∈ word, isDelimiter c = false) (lead before cs : List Char) :
    scan lead before (word ++ cs) = scan lead (before ++ word) cs := by
  induction word generalizing before with
  | nil => simp
  | cons c word ih =>
    obtain ⟨hc, hw⟩ := List.forall_mem_cons.1 hw
    rw [List.cons_append, scan, if_neg (by simp [hc]), ih hw, List.append_assoc]
    rfl

/-- Behind a segment the scan ends, or a delimiter separates and it begins anew. -/
theorem scan_segment (hs : IsSegment cs) (hrest : ∀ c ∈ rest.head?, isDelimiter c = true) :
    scan [] [] (cs ++ rest) = cs :: scan [] [] rest.tail := by
  obtain ⟨lead, word, rfl, hl, hne, hw⟩ := hs
  have hlead : Delimiters lead := List.all_eq_true.1 hl
  rw [List.append_assoc, scan_delimiters hlead, scan_word hw, List.nil_append, List.nil_append]
  cases rest with
  | nil => rw [scan, if_neg hne]; rfl
  | cons c rest => rw [scan, if_pos (hrest c rfl), if_neg hne]; rfl

/-- The tokenizer reads the segments of a decomposition. -/
theorem Decomposes.scan_eq (h : Decomposes (d :: cs) ss) : (scan [] [] cs).map String.ofList = ss := by
  induction ss generalizing d cs with
  | nil =>
    have hcs : Delimiters cs := (List.forall_mem_cons.1 (decomposes_nil_iff.1 h)).2
    have hscan : scan [] [] cs = scan cs [] [] := by
      simpa using scan_delimiters hcs [] []
    rw [hscan]
    rfl
  | cons s ss ih =>
    obtain ⟨hs, d', rest, -, he, hrest⟩ := decomposes_cons_iff.1 h
    obtain ⟨rfl, rfl⟩ := List.cons.inj he
    cases rest with
    | nil =>
      rw [hrest.eq_nil, scan_segment hs (by simp), List.map_cons, String.ofList_toList]
      rfl
    | cons e rest =>
      have hhead : ∀ c ∈ (e :: rest).head?, isDelimiter c = true := by
        intro c hc
        obtain rfl := Option.some.inj hc
        exact hrest.head_isDelimiter
      rw [scan_segment hs hhead, List.map_cons, String.ofList_toList, List.tail_cons, ih hrest]

/-- What the tokenizer reads decomposes the text, together with what it has read before. -/
theorem decomposes_scan (hd : isDelimiter d = true) (hl : Delimiters lead)
    (hw : ∀ c ∈ word, isDelimiter c = false) :
    Decomposes (d :: (lead ++ word ++ cs)) ((scan lead word cs).map String.ofList) := by
  fun_induction scan lead word cs generalizing d with
  | case1 lead =>
    refine decomposes_nil_iff.2 (List.forall_mem_cons.2 ⟨hd, ?_⟩)
    rwa [List.append_nil, List.append_nil]
  | case2 lead word hne =>
    have hs : IsSegment (lead ++ word) := ⟨lead, word, rfl, List.all_eq_true.2 hl, hne, hw⟩
    refine decomposes_cons_iff.2 ⟨by rwa [String.toList_ofList], d, [], hd, ?_, ?_⟩
    · rw [String.toList_ofList]
    · exact decomposes_nil_iff.2 (by simp [Delimiters])
  | case3 lead c cs hc ih =>
    have hlead : Delimiters (lead ++ [c]) := by
      intro b hb
      rcases List.mem_append.1 hb with hb | hb
      · exact hl b hb
      · rwa [List.mem_singleton.1 hb]
    have h := ih hd hlead (by simp)
    simpa using h
  | case4 lead word c cs hc hne ih =>
    -- The delimiter separates, and what follows it decomposes by itself.
    have hs : IsSegment (lead ++ word) := ⟨lead, word, rfl, List.all_eq_true.2 hl, hne, hw⟩
    have hrest := ih hc (by simp [Delimiters]) (by simp)
    rw [List.map_cons]
    refine decomposes_cons_iff.2 ⟨by rwa [String.toList_ofList], d, c :: cs, hd, ?_, by simpa using hrest⟩
    rw [String.toList_ofList]
  | case5 lead word c cs hc ih =>
    have hword : ∀ b ∈ word ++ [c], isDelimiter b = false := by
      intro b hb
      rcases List.mem_append.1 hb with hb | hb
      · exact hw b hb
      · rw [List.mem_singleton.1 hb]
        simpa using hc
    have h := ih hd hl hword
    simpa using h

/-! ## The only decomposition -/

/-- With a delimiter in front, the segments of a path are its one and only decomposition. -/
theorem decomposes_iff (hd : isDelimiter d = true) (p : String) :
    Decomposes (d :: p.toList) ss ↔ ss = segments p := by
  constructor
  · intro h
    exact h.scan_eq.symm
  · rintro rfl
    exact decomposes_scan hd (by simp [Delimiters]) (by simp)

theorem decomposes_joined {ds : List Char} (hd : isDelimiter d = true) (hss : ∀ s ∈ ss, IsSegment s.toList)
    (hlen : ds.length = ss.length - 1) (hds : Delimiters ds) (ht : Delimiters t) :
    Decomposes (d :: joined ds ss t) ss := by
  cases ss with
  | nil => exact decomposes_nil_iff.2 (List.forall_mem_cons.2 ⟨hd, ht⟩)
  | cons s ss =>
    obtain ⟨hs, hss⟩ := List.forall_mem_cons.1 hss
    exact decomposes_cons_iff.2 ⟨hs, d, spelled ds ss t, hd, rfl, hss, ds, t, hlen, hds, ht, rfl⟩

/-- **The tokenizer.** With an underscore in front, the segments of a path are the only sequence of
segments that it decomposes into. So segments joined by any separators, with any delimiters at the end, are
read off again, and a text has the same segments as a path exactly if it spells them with other separators
and other delimiters at the end. -/
theorem segments_decomposition (p : String) :
    (∀ ss, Decomposes ('_' :: p.toList) ss ↔ ss = segments p) ∧
    (∀ ss ds t, (∀ s ∈ ss, IsSegment s.toList) → ds.length = ss.length - 1 → Delimiters ds →
      Delimiters t → segments (String.ofList (joined ds ss t)) = ss) ∧
    ∀ q, segments q = segments p ↔ ∃ ds t, ds.length = (segments p).length ∧ Delimiters ds ∧
      Delimiters t ∧ '_' :: q.toList = spelled ds (segments p) t := by
  refine ⟨fun ss => decomposes_iff rfl p, fun ss ds t hss hlen hds ht => ?_, fun q => ?_⟩
  · have hjoined : Decomposes ('_' :: joined ds ss t) ss := decomposes_joined rfl hss hlen hds ht
    rw [← String.toList_ofList (l := joined ds ss t)] at hjoined
    exact ((decomposes_iff rfl _).1 hjoined).symm
  · have hiff : Decomposes ('_' :: q.toList) (segments p) ↔ segments p = segments q := decomposes_iff rfl q
    rw [eq_comm, ← hiff]
    exact and_iff_right fun s => mem_segments

/-- Three segments, of which the second begins with a delimiter, with two delimiters at the end. -/
theorem segments_decomposition_mixed : (∀ s ∈ ["a", "_b", "c"], IsSegment s.toList) ∧
    Delimiters ['.', '_'] ∧ segments "a._b_c._" = ["a", "_b", "c"] := by
  have hsegments : ∀ s ∈ ["a", "_b", "c"], IsSegment s.toList := by
    intro s hs
    simp only [List.mem_cons, List.not_mem_nil, or_false] at hs
    rcases hs with rfl | rfl | rfl
    · exact ⟨[], ['a'], rfl, rfl, by simp, by simp [isDelimiter]⟩
    · exact ⟨['_'], ['b'], rfl, rfl, by simp, by simp [isDelimiter]⟩
    · exact ⟨[], ['c'], rfl, rfl, by simp, by simp [isDelimiter]⟩
  have hdelimiters : Delimiters ['.', '_'] := by simp [Delimiters, isDelimiter]
  exact ⟨hsegments, hdelimiters, (segments_decomposition "").2.1 ["a", "_b", "c"] ['.', '_'] ['.', '_']
    hsegments rfl hdelimiters hdelimiters⟩

end SortPath.PropertyPath
