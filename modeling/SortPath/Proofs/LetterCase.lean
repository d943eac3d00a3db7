import SortPath.Text.Case

/-!
# Lower-case forms

`lowerChar` reads the table `lowerRuns` for what is beyond ASCII. What is said of its images here holds
because it can be checked run by run: the images under one run lie between two code points, so they are
not mapped again by a run that lies elsewhere, or by one that holds every second code point and misses
them.

Results:
* `lowerChar_of_mem`: the characters of a lower-case form are their own lower-case forms.
* `lowerChar_ascii`: beyond ASCII only the Kelvin sign has a lower-case form that lies in ASCII.
* `mem_lowerChar`: a character that is not kept is replaced by small letters of ASCII and by characters
  beyond it.
-/
namespace SortPath.Text

variable {c d : Char} {n k : Nat} {runs : MappingRuns} {r q : Nat × Nat × Nat × Nat}

/-! ## The table -/

theorem MappingRuns.image?_eq_some (h : runs.image? n = some k) :
    ∃ r ∈ runs, r.1 ≤ n ∧ n ≤ r.2.1 ∧ (n - r.1) % r.2.2.1 = 0 ∧ k = n - r.1 + r.2.2.2 := by
  obtain ⟨⟨first, last, stride, target⟩, hr, hk⟩ := List.exists_of_findSome?_eq_some h
  obtain ⟨⟨hfirst, hlast, hstride⟩, hk⟩ := Option.ite_none_right_eq_some.1 hk
  exact ⟨_, hr, hfirst, hlast, hstride, (Option.some.inj hk).symm⟩

/-- No image under the run `r` is mapped by the run `q`: it is beyond the ends of `q`, or `q` holds every
second code point and the images under `r` are among the others. -/
def apart (r q : Nat × Nat × Nat × Nat) : Bool :=
  Nat.blt q.2.1 r.2.2.2 || Nat.blt (r.2.1 + r.2.2.2) (q.1 + r.1) ||
    Nat.beq q.2.2.1 2 && (Nat.beq r.2.2.1 2 || Nat.beq r.1 r.2.1) && Nat.beq ((r.2.2.2 + q.1) % 2) 1

theorem not_mapped_of_apart (h : apart r q = true) (hfirst : r.1 ≤ n) (hlast : n ≤ r.2.1)
    (hstride : (n - r.1) % r.2.2.1 = 0) (hk : k = n - r.1 + r.2.2.2) :
    ¬ (q.1 ≤ k ∧ k ≤ q.2.1 ∧ (k - q.1) % q.2.2.1 = 0) := by
  simp only [apart, Bool.or_eq_true, Bool.and_eq_true, Nat.blt_eq, Nat.beq_eq] at h
  rintro ⟨hq, hq', hs⟩
  rcases h with (h | h) | ⟨⟨h2, hr⟩, hodd⟩
  · omega
  · omega
  · rw [h2] at hs
    rcases hr with hr | hr
    · rw [hr] at hstride
      omega
    · omega

theorem lowerRuns_apart : (lowerRuns.all fun r => lowerRuns.all (apart r)) = true := by decide +kernel

/-- Where the images of a run lie: from the small letters on, and beside the surrogates. -/
theorem lowerRuns_targets : (lowerRuns.all fun r =>
    Nat.ble 0x61 r.2.2.2 && (Nat.ble (r.2.1 + r.2.2.2) (0x7A + r.1) || Nat.ble 0x131 r.2.2.2 ||
      Nat.ble 0x80 r.2.2.2 && Nat.ble (r.2.1 + r.2.2.2) (0x12F + r.1)) &&
    (Nat.ble (r.2.1 + r.2.2.2) (0xD7FF + r.1) ||
      Nat.ble 0xE000 r.2.2.2 && Nat.ble (r.2.1 + r.2.2.2) (0x10FFFF + r.1))) = true := by
  decide +kernel

/-- What the table maps to, it does not map. -/
theorem image?_lowerRuns_image (h : lowerRuns.image? n = some k) : lowerRuns.image? k = none := by
  obtain ⟨r, hr, hfirst, hlast, hstride, hk⟩ := MappingRuns.image?_eq_some h
  refine List.findSome?_eq_none_iff.2 fun q hq => if_neg ?_
  have hapart : apart r q = true := List.all_eq_true.1 (List.all_eq_true.1 lowerRuns_apart r hr) q hq
  exact not_mapped_of_apart hapart hfirst hlast hstride hk

/-- What the table maps to are small letters of ASCII, and characters beyond it other than U+0130. -/
theorem image?_lowerRuns_range (h : lowerRuns.image? n = some k) :
    k.isValidChar ∧ 0x61 ≤ k ∧ (k ≤ 0x7A ∨ 0x80 ≤ k ∧ k ≠ 0x130) := by
  obtain ⟨r, hr, hfirst, hlast, -, rfl⟩ := MappingRuns.image?_eq_some h
  have htarget := List.all_eq_true.1 lowerRuns_targets r hr
  simp only [Bool.and_eq_true, Bool.or_eq_true, Nat.ble_eq] at htarget
  unfold Nat.isValidChar
  omega

theorem lowerRuns_ascii :
    (lowerRuns.all fun r => Nat.ble 0x80 r.2.2.2 || r == (0x212A, 0x212A, 1, 0x6B)) = true := by
  decide +kernel

/-- Into ASCII the table maps the Kelvin sign only, to `k`. -/
theorem image?_lowerRuns_ascii (h : lowerRuns.image? n = some k) (hk : k < 0x80) :
    n = 0x212A ∧ k = 0x6B := by
  obtain ⟨r, hr, hfirst, hlast, -, rfl⟩ := MappingRuns.image?_eq_some h
  have htarget := List.all_eq_true.1 lowerRuns_ascii r hr
  simp only [Bool.or_eq_true, Nat.ble_eq, beq_iff_eq] at htarget
  rcases htarget with hbeyond | rfl
  · omega
  · simp only at hfirst hlast ⊢
    omega

/-! ## Characters -/

/-- A capital of ASCII lies 32 code points before its small letter; no other character is changed. -/
theorem toNat_toLower (c : Char) : 0x41 ≤ c.toNat ∧ c.toNat ≤ 0x5A ∧ c.toLower.toNat = c.toNat + 32 ∨
    ¬ (0x41 ≤ c.toNat ∧ c.toNat ≤ 0x5A) ∧ c.toLower = c := by
  have hval : (c.val ≥ 'A'.val ∧ c.val ≤ 'Z'.val) ↔ 0x41 ≤ c.toNat ∧ c.toNat ≤ 0x5A := by
    simp only [ge_iff_le, UInt32.le_iff_toNat_le]
    rfl
  unfold Char.toLower
  split
  · next h =>
    obtain ⟨hA, hZ⟩ := hval.1 h
    refine .inl ⟨hA, hZ, ?_⟩
    have hadd : (c.val + ('a'.val - 'A'.val)).toNat = c.toNat + 32 := by
      rw [UInt32.toNat_add]
      exact Nat.mod_eq_of_lt (by show c.toNat + 32 < 2 ^ 32; omega)
    exact hadd
  · next h => exact .inr ⟨fun hc => h (hval.2 hc), rfl⟩

theorem toLower_toLower (c : Char) : c.toLower.toLower = c.toLower := by
  rcases toNat_toLower c with ⟨hA, hZ, hc⟩ | ⟨-, hc⟩
  · rcases toNat_toLower c.toLower with ⟨hA', hZ', -⟩ | ⟨-, h⟩
    · omega
    · exact h
  · rw [hc, hc]

theorem toNat_ofNat (h : k.isValidChar) : (Char.ofNat k).toNat = k := by
  rw [Char.ofNat, dif_pos h]
  rfl

/-- Beyond ASCII a lower-case form is the character itself, an image in the table, or that of U+0130. -/
theorem mem_lowerChar_iff (hc : 0x80 ≤ c.toNat) : d ∈ lowerChar c ↔
    c.toNat = 0x130 ∧ (d = 'i' ∨ d = Char.ofNat 0x307) ∨
    c.toNat ≠ 0x130 ∧ (lowerRuns.image? c.toNat = none ∧ d = c ∨
      ∃ k, lowerRuns.image? c.toNat = some k ∧ d = Char.ofNat k) := by
  rw [lowerChar, if_neg (by omega)]
  by_cases h : c.toNat = 0x130
  · simp [h]
  · cases himage : lowerRuns.image? c.toNat <;> simp [h]

/-- A character that is not kept is replaced by small letters of ASCII and by characters beyond it. -/
theorem mem_lowerChar (h : d ∈ lowerChar c) : d = c ∨ 0x61 ≤ d.toNat ∧ d.toNat ≤ 0x7A ∨ 0x80 ≤ d.toNat := by
  by_cases hc : c.toNat < 0x80
  · rw [lowerChar, if_pos hc, List.mem_singleton] at h
    subst h
    rcases toNat_toLower c with ⟨hA, hZ, hd⟩ | ⟨-, hd⟩
    · omega
    · exact .inl hd
  · rcases (mem_lowerChar_iff (by omega)).1 h with ⟨-, rfl | rfl⟩ | ⟨-, ⟨-, rfl⟩ | ⟨k, hk, rfl⟩⟩
    · exact .inr (.inl (by decide))
    · exact .inr (.inr (by decide))
    · exact .inl rfl
    · obtain ⟨hvalid, hlow, hrange⟩ := image?_lowerRuns_range hk
      rw [toNat_ofNat hvalid]
      omega

theorem lowerChar_of_mem (h : d ∈ lowerChar c) : lowerChar d = [d] := by
  have hascii : ∀ {b : Char}, b.toNat < 0x80 → b.toLower = b → lowerChar b = [b] := by
    intro b hb hlower
    rw [lowerChar, if_pos hb, hlower]
  by_cases hc : c.toNat < 0x80
  · rw [lowerChar, if_pos hc, List.mem_singleton] at h
    subst h
    refine hascii ?_ (toLower_toLower c)
    rcases toNat_toLower c with ⟨hA, hZ, hd⟩ | ⟨-, hd⟩
    · omega
    · rwa [hd]
  · rcases (mem_lowerChar_iff (by omega)).1 h with ⟨-, rfl | rfl⟩ | ⟨h130, ⟨hnone, rfl⟩ | ⟨k, hk, rfl⟩⟩
    · decide
    · decide +kernel
    · rw [lowerChar, if_neg hc, if_neg h130, hnone]
      rfl
    · obtain ⟨hvalid, hlow, hrange⟩ := image?_lowerRuns_range hk
      have hnone := image?_lowerRuns_image hk
      rw [← toNat_ofNat hvalid] at hlow hrange hnone
      rcases hrange with hz | ⟨hbeyond, h130⟩
      · refine hascii (by omega) ?_
        rcases toNat_toLower (Char.ofNat k) with ⟨-, hZ, -⟩ | ⟨-, hd⟩
        · omega
        · exact hd
      · rw [lowerChar, if_neg (by omega), if_neg h130, hnone]
        rfl

theorem lowerChar_ne_nil (c : Char) : lowerChar c ≠ [] := by
  unfold lowerChar
  split
  · simp
  · split <;> simp

/-- A lower-case form lies in ASCII if the character does, or is the Kelvin sign. -/
theorem lowerChar_ascii (h : ∀ d ∈ lowerChar c, d.toNat < 0x80) :
    c.toNat < 0x80 ∧ lowerChar c = [c.toLower] ∨ c.toNat = 0x212A ∧ lowerChar c = ['k'] := by
  by_cases hc : c.toNat < 0x80
  · exact .inl ⟨hc, by rw [lowerChar, if_pos hc]⟩
  · by_cases h130 : c.toNat = 0x130
    · have hdot : Char.ofNat 0x307 ∈ lowerChar c :=
        (mem_lowerChar_iff (by omega)).2 (.inl ⟨h130, .inr rfl⟩)
      exact absurd (h _ hdot) (by decide)
    · have hform : lowerChar c = [((lowerRuns.image? c.toNat).map Char.ofNat).getD c] := by
        rw [lowerChar, if_neg hc, if_neg h130]
      rw [hform, List.forall_mem_singleton] at h
      cases himage : lowerRuns.image? c.toNat with
      | none =>
        rw [himage] at h
        exact absurd h hc
      | some k =>
        rw [himage, Option.map_some, Option.getD_some, toNat_ofNat (image?_lowerRuns_range himage).1] at h
        obtain ⟨hkelvin, rfl⟩ := image?_lowerRuns_ascii himage h
        exact .inr ⟨hkelvin, by rw [hform, himage]; rfl⟩

theorem toLower_toUpper_check : ((List.range 0x80).all fun n =>
    [(Char.ofNat n).toLower, (Char.ofNat n).toLower.toUpper].contains (Char.ofNat n)) = true := by
  decide +kernel

theorem mem_toLower_toUpper (hc : c.toNat < 0x80) : c ∈ [c.toLower, c.toLower.toUpper] := by
  have hcheck := List.all_eq_true.1 toLower_toUpper_check c.toNat (List.mem_range.2 hc)
  rw [Char.ofNat_toNat] at hcheck
  exact List.contains_iff_mem.1 hcheck

theorem lowerSigma_beyond (before after : List Char) : 0x80 ≤ (lowerSigma before after).toNat := by
  unfold lowerSigma
  split <;> decide

end SortPath.Text
