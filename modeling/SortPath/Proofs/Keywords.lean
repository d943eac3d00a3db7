import SortPath.Proofs.LetterCase
import SortPath.Proofs.ParameterRoundTrip

/-!
# What is read as a keyword

A word is compared with a keyword by its lower-case form, and that is made by the case table of all
characters. There are characters beyond ASCII whose lower-case forms lie in it: the Kelvin sign becomes `k`,
and U+0130 begins with `i`. None of them gets into a keyword, for no keyword has a `k`, and U+0130 leaves a
dot behind. So the words that are read as a keyword are those that writing may use (`InAnyCase`).

Results:
* `eq_toLower_of_lowerAfter`: a text whose lower-case form lies in ASCII without `k` lies in ASCII.
* `lower_eq_keyword_iff`: what has the lower-case form of a keyword.
* `ofText?_eq_some_iff`, `takeIgnoreCase_eq_iff`: what is read as a direction, and as the flag.
* `reads_keywords`: both, and what is not.
-/
namespace SortPath.SortParameter

variable {s e keyword : String} {es front : List String} {direction : Direction}

/-! ## Lower-case forms in ASCII -/

/-- Where the lower-case form lies in ASCII and has no `k`, each character does, and is lowered by itself. -/
theorem eq_toLower_of_lowerAfter {before cs : List Char}
    (h : ∀ k ∈ Text.lowerAfter before cs, k.toNat < 0x80 ∧ k ≠ 'k') :
    (∀ c ∈ cs, c.toNat < 0x80) ∧ Text.lowerAfter before cs = cs.map Char.toLower := by
  induction cs generalizing before with
  | nil => exact ⟨by simp, rfl⟩
  | cons c cs ih =>
    rw [Text.lowerAfter, List.forall_mem_append] at h
    obtain ⟨hhead, htail⟩ := h
    obtain ⟨hcs, hrest⟩ := ih htail
    by_cases hsigma : c.toNat = 0x3A3
    · rw [if_pos hsigma, List.forall_mem_singleton] at hhead
      exact absurd hhead.1 (Nat.not_lt.2 (Text.lowerSigma_beyond before cs))
    · rw [if_neg hsigma] at hhead
      rcases Text.lowerChar_ascii fun k hk => (hhead k hk).1 with ⟨hc, hform⟩ | ⟨-, hform⟩
      · refine ⟨List.forall_mem_cons.2 ⟨hc, hcs⟩, ?_⟩
        rw [Text.lowerAfter, if_neg hsigma, hform, hrest]
        rfl
      · exact absurd rfl (hhead 'k' (by simp [hform])).2

theorem forall₂_map_toLower {cs : List Char} (h : ∀ c ∈ cs, c.toNat < 0x80) :
    List.Forall₂ (fun k c => c ∈ [k, k.toUpper]) (cs.map Char.toLower) cs := by
  induction cs with
  | nil => exact .nil
  | cons c cs ih =>
    obtain ⟨hc, hcs⟩ := List.forall_mem_cons.1 h
    exact .cons (Text.mem_toLower_toUpper hc) (ih hcs)

/-! ## Keywords -/

theorem keywords_check : (keywords.all fun keyword => keyword.toList.all fun k =>
    Nat.blt k.toNat 0x80 && k != 'k') = true := by
  decide +kernel

/-- The words with the lower-case form of a keyword are those that write it, and they lie in ASCII. -/
theorem lower_eq_keyword_iff (hk : keyword ∈ keywords) : Text.lower s = keyword ↔ InAnyCase keyword s := by
  refine ⟨fun h => ?_, InAnyCase.lower hk⟩
  have hform : Text.lowerAfter [] s.toList = keyword.toList := by
    rw [← h, Text.lower, String.toList_ofList]
  have hletters : ∀ k ∈ Text.lowerAfter [] s.toList, k.toNat < 0x80 ∧ k ≠ 'k' := fun k hmem => by
    rw [hform] at hmem
    have hcheck := List.all_eq_true.1 (List.all_eq_true.1 keywords_check keyword hk) k hmem
    simpa using hcheck
  obtain ⟨hascii, hlower⟩ := eq_toLower_of_lowerAfter hletters
  rw [InAnyCase, ← hform, hlower]
  exact forall₂_map_toLower hascii

theorem InAnyCase.ascii (hk : keyword ∈ keywords) (h : InAnyCase keyword s) :
    ∀ c ∈ s.toList, c.toNat < 0x80 := by
  have hletters : (letters.all fun c => Nat.blt c.toNat 0x80) = true := by decide +kernel
  refine forall_mem_of_forall₂ h fun k hmem c hc => ?_
  simpa using List.all_eq_true.1 hletters c (of_mem_keyword hk hmem hc).2.2.2

theorem words_lookup_eq_some_iff : Direction.words.lookup s = some direction ↔ s = direction.text := by
  refine ⟨fun h => ?_, fun h => h ▸ words_lookup_text direction⟩
  rw [Direction.words, List.lookup_cons, List.lookup_cons] at h
  split at h
  · next hs =>
    cases h
    exact beq_iff_eq.1 hs
  · split at h
    · next hs =>
      cases h
      exact beq_iff_eq.1 hs
    · cases h

/-! ## Directions -/

/-- A direction is read off its keyword, with white space around it. -/
theorem ofText?_eq_some_iff :
    Direction.ofText? s = some direction ↔ ∃ w, Padded w s ∧ InAnyCase direction.text w := by
  have hword := text_mem_keywords direction
  rw [Direction.ofText?, words_lookup_eq_some_iff, lower_eq_keyword_iff hword]
  constructor
  · intro h
    exact ⟨_, (Text.trim_eq_iff.1 rfl).2, h⟩
  · intro h
    obtain ⟨w, hpadded, hw⟩ := h
    rwa [Text.trim_eq_iff.2 ⟨hw.trimmed hword, hpadded⟩]

theorem ofText_eq_ok_iff : Direction.ofText s = .ok direction ↔ Direction.ofText? s = some direction := by
  unfold Direction.ofText
  split
  · next h => simp [h]
  · next h => simp [h]

theorem ofText?_eq_none_iff :
    Direction.ofText? s = none ↔ ∀ (d : Direction) w, Padded w s → ¬ InAnyCase d.text w := by
  simp only [Option.eq_none_iff_forall_ne_some, ne_eq, ofText?_eq_some_iff, not_exists, not_and]

theorem ofText_eq_error_iff {error : Direction.Error} : Direction.ofText s = .error error ↔
    error = .notAKeyword s ∧ Direction.ofText? s = none := by
  unfold Direction.ofText
  split
  · next h => simp [h]
  · next h => simp [h, eq_comm]

/-! ## The flag -/

/-- The elements end in the flag, and something stands before it. -/
def EndsInFlag (es : List String) : Prop :=
  ∃ front e, front ≠ [] ∧ InAnyCase "ignorecase" e ∧ es = front ++ [e]

theorem endsInFlag_iff :
    EndsInFlag es ↔ ∃ e, lastOfSeveral? es = some e ∧ Text.lower e = "ignorecase" := by
  simp only [lastOfSeveral?_eq_some_iff, lower_eq_keyword_iff (by decide : "ignorecase" ∈ keywords)]
  constructor
  · intro h
    obtain ⟨front, e, hne, he, hes⟩ := h
    exact ⟨e, ⟨front, hne, hes⟩, he⟩
  · intro h
    obtain ⟨e, ⟨front, hne, hes⟩, he⟩ := h
    exact ⟨front, e, hne, he, hes⟩

/-- The flag is taken off the elements that end in it, and nothing is taken off other elements. -/
theorem takeIgnoreCase_eq_iff {found : Bool} : takeIgnoreCase es = (front, found) ↔
    found = true ∧ EndsInFlag es ∧ front = es.dropLast ∨ found = false ∧ ¬ EndsInFlag es ∧ front = es := by
  have hany : ((lastOfSeveral? es).any fun e => Text.lower e = "ignorecase") = true ↔ EndsInFlag es := by
    rw [endsInFlag_iff, Option.any_eq_true]
    simp
  unfold takeIgnoreCase
  split
  · next h => cases found <;> simp [hany.1 h, eq_comm]
  · next h => cases found <;> simp [mt hany.2 h, eq_comm]

/-- A character beyond ASCII keeps a text from being read as a direction, unless it is white space. -/
theorem ofText?_of_beyond {c : Char} (hmem : c ∈ s.toList) (hbeyond : 0x80 ≤ c.toNat)
    (hblank : Text.isBlank c = false) : Direction.ofText? s = none := by
  rw [ofText?_eq_none_iff]
  intro d w hpadded hw
  obtain ⟨a, b, ha, hb, rfl⟩ := hpadded
  rw [String.toList_append, String.toList_append, List.mem_append, List.mem_append] at hmem
  rcases hmem with (hmem | hmem) | hmem
  · exact absurd (List.all_eq_true.1 ha c hmem) (by simp [hblank])
  · exact absurd (hw.ascii (text_mem_keywords d) c hmem) (by omega)
  · exact absurd (List.all_eq_true.1 hb c hmem) (by simp [hblank])

theorem not_endsInFlag_of_beyond {c : Char} (hlast : es.getLast? = some e) (hmem : c ∈ e.toList)
    (hbeyond : 0x80 ≤ c.toNat) : ¬ EndsInFlag es := by
  intro h
  obtain ⟨front, flag, -, hflag, rfl⟩ := h
  rw [List.getLast?_concat, Option.some.injEq] at hlast
  subst hlast
  exact absurd (hflag.ascii (by decide) c hmem) (by omega)

/-- The clauses of some elements do not regard letter case exactly if the elements end in the flag. -/
theorem ignoreCase_of_mem_ofElements {k : Clause} (hk : k ∈ ofElements es) :
    k.ignoreCase = true ↔ EndsInFlag es := by
  obtain ⟨e, -, hmake⟩ := List.mem_filterMap.1 hk
  obtain ⟨-, -, -, hflag⟩ := Clause.make?_eq_some_iff.1 hmake
  rcases takeIgnoreCase_eq_iff.1 (Eq.refl (takeIgnoreCase es)) with ⟨hfound, hends, -⟩ | ⟨hfound, hends, -⟩
  · simp [hflag, hfound, hends]
  · simp [hflag, hfound, hends]

/-- **Keywords.** A text is read as a direction exactly if it is the word for it, in any letter case of ASCII
and with white space around it; any other text is refused. Elements lose their last one to the flag exactly
if it stands behind another one and is the word for the flag in any letter case of ASCII; where they do not,
they are left as they are. The clauses of a value tell which. Apart from white space around a direction, a
character beyond ASCII stands in no keyword. -/
theorem reads_keywords (s : String) (es : List String) :
    (∀ d : Direction, (Direction.ofText s = .ok d ↔ ∃ w, Padded w s ∧ InAnyCase d.text w) ∧
      (Direction.ofText? s = some d ↔ ∃ w, Padded w s ∧ InAnyCase d.text w)) ∧
    ((Direction.ofText? s = none ↔ ∀ (d : Direction) w, Padded w s → ¬ InAnyCase d.text w) ∧
      ∀ error, Direction.ofText s = .error error ↔
        error = .notAKeyword s ∧ Direction.ofText? s = none) ∧
    ((∀ front, takeIgnoreCase es = (front, true) ↔
        ∃ e, front ≠ [] ∧ InAnyCase "ignorecase" e ∧ es = front ++ [e]) ∧
      (takeIgnoreCase es = (es, false) ↔ ¬ EndsInFlag es) ∧
      ∀ delimiter, ∀ k ∈ ofValue delimiter s,
        (k.ignoreCase = true ↔ EndsInFlag ((Text.splitAt delimiter s).map Text.trim))) ∧
    (∀ c, 0x80 ≤ c.toNat → (Text.isBlank c = false → c ∈ s.toList → Direction.ofText? s = none) ∧
      ∀ e, es.getLast? = some e → c ∈ e.toList → takeIgnoreCase es = (es, false)) := by
  have hleft : takeIgnoreCase es = (es, false) ↔ ¬ EndsInFlag es := by simp [takeIgnoreCase_eq_iff]
  refine ⟨fun d => ⟨by rw [ofText_eq_ok_iff, ofText?_eq_some_iff], ofText?_eq_some_iff⟩,
    ⟨ofText?_eq_none_iff, fun error => ofText_eq_error_iff⟩, ⟨fun front => ?_, hleft, ?_⟩, fun c hc => ⟨?_, ?_⟩⟩
  · simp only [takeIgnoreCase_eq_iff, true_and, Bool.true_eq_false, false_and, or_false]
    constructor
    · intro h
      obtain ⟨⟨front', e, hne, he, rfl⟩, rfl⟩ := h
      rw [List.dropLast_concat]
      exact ⟨e, hne, he, rfl⟩
    · intro h
      obtain ⟨e, hne, he, rfl⟩ := h
      exact ⟨⟨front, e, hne, he, rfl⟩, by rw [List.dropLast_concat]⟩
  · exact fun delimiter k hk => ignoreCase_of_mem_ofElements hk
  · exact fun hblank hmem => ofText?_of_beyond hmem hc hblank
  · exact fun e hlast hmem => hleft.2 (not_endsInFlag_of_beyond hlast hmem hc)

/-- Capitals with white space around them, and words that only look like keywords: with a long s, with wide
letters, with a Kelvin sign, and with a dotted capital I. -/
theorem reads_keywords_lookalikes :
    Direction.ofText "\u3000DeSc\u0085" = .ok .descending ∧
    (∀ word ∈ ["a\u017Fc", "\uFF21\uFF33\uFF23", "DES\u212A"], Direction.ofText? word = none) ∧
    takeIgnoreCase ["name", "IgnoreCase"] = (["name"], true) ∧
    takeIgnoreCase ["name", "\u0130GNORECASE"] = (["name", "\u0130GNORECASE"], false) := by
  have hdesc : InAnyCase "desc" "DeSc" := (lower_eq_keyword_iff (by decide)).1 (by decide +kernel)
  have hflag : InAnyCase "ignorecase" "IgnoreCase" :=
    (lower_eq_keyword_iff (by decide)).1 (by decide +kernel)
  obtain ⟨hread, -, -, -⟩ := reads_keywords "\u3000DeSc\u0085" []
  obtain ⟨-, -, ⟨htake, -, -⟩, -⟩ := reads_keywords "" ["name", "IgnoreCase"]
  refine ⟨(hread .descending).1.2 ⟨"DeSc", ⟨"\u3000", "\u0085", by decide, by decide, by decide⟩, hdesc⟩,
    fun word hword => ?_, (htake ["name"]).2 ⟨"IgnoreCase", by simp, hflag, rfl⟩, ?_⟩
  · have hcheck : (["a\u017Fc", "\uFF21\uFF33\uFF23", "DES\u212A"].all fun word =>
        word.toList.any fun c => Nat.ble 0x80 c.toNat && !Text.isBlank c) = true := by decide +kernel
    obtain ⟨c, hc, hbeyond⟩ := List.any_eq_true.1 (List.all_eq_true.1 hcheck word hword)
    obtain ⟨hbeyond, hblank⟩ : 0x80 ≤ c.toNat ∧ Text.isBlank c = false := by simpa using hbeyond
    exact ((reads_keywords word []).2.2.2 c hbeyond).1 hblank hc
  · exact ((reads_keywords "" ["name", "\u0130GNORECASE"]).2.2.2 '\u0130' (by decide)).2 _ rfl (by decide)

end SortPath.SortParameter
