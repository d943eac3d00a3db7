import SortPath.Proofs.Clauses
import SortPath.Proofs.Decomposition
import SortPath.Proofs.LetterCase

/-!
# External names that requests can match

A segment of a path is looked up in its normal form. The normal form of a segment is a segment again: what
is lower-cased is its first character, a delimiter stays as it is, and nothing else becomes one. It is its
own normal form, since a lower-case form has no other lower-case form. So the names that are ever looked up
are the segments in normal form (`Matchable`). A table may have other keys, such as names in snake case,
names that begin with one capital, or names with a dot; what it says of them does not count.

Results:
* `normalize_normalize`, `isSegment_normalize`: the normal form is a normal form, and keeps to the grammar
  of segments.
* `Catalog.resolve_congr`: catalogs that say the same of the matchable names resolve alike, and are asked
  alike.
* `matchable_names`: which names the segments of sort properties stand for, and that no others count.
-/
namespace SortPath

namespace PropertyPath

variable {c : Char} {cs : List Char} {s name : String}

/-! ## Decapitalizing -/

theorem decapitalizeChars_cons (c : Char) (cs : List Char) :
    decapitalizeChars (c :: cs) = c :: cs ∨ decapitalizeChars (c :: cs) = Text.lowerChar c ++ cs := by
  cases cs with
  | nil => exact .inr (List.append_nil _).symm
  | cons d cs =>
    rw [decapitalizeChars]
    split
    · exact .inl rfl
    · exact .inr rfl

theorem decapitalizeChars_of_lowerChar (hc : Text.lowerChar c = [c]) (cs : List Char) :
    decapitalizeChars (c :: cs) = c :: cs := by
  rcases decapitalizeChars_cons c cs with h | h
  · exact h
  · rw [h, hc]
    rfl

theorem decapitalizeChars_decapitalizeChars (cs : List Char) :
    decapitalizeChars (decapitalizeChars cs) = decapitalizeChars cs := by
  cases cs with
  | nil => rfl
  | cons c cs =>
    rcases decapitalizeChars_cons c cs with h | h
    · rw [h, h]
    · -- the first character of a lower-case form is its own lower-case form
      obtain ⟨d, ds, hd⟩ := List.exists_cons_of_ne_nil (Text.lowerChar_ne_nil c)
      have hfixed : Text.lowerChar d = [d] := Text.lowerChar_of_mem (hd ▸ List.mem_cons_self ..)
      rw [h, hd, List.cons_append, decapitalizeChars_of_lowerChar hfixed]

/-! ## Normal forms -/

theorem normalizeChars_normalizeChars (cs : List Char) :
    normalizeChars (normalizeChars cs) = normalizeChars cs := by
  by_cases h : cs ≠ [] ∧ cs.all isConstantChar = true
  · have hcs : normalizeChars cs = cs := if_pos h
    rw [hcs, hcs]
  · have hcs : normalizeChars cs = decapitalizeChars cs := if_neg h
    rw [hcs, normalizeChars, decapitalizeChars_decapitalizeChars, ite_self]

theorem normalize_normalize (s : String) : normalize (normalize s) = normalize s := by
  rw [normalize, normalize, String.toList_ofList, normalizeChars_normalizeChars]

theorem isDelimiter_iff : isDelimiter c = true ↔ c = '_' ∨ c = '.' := by
  simp [isDelimiter]

theorem isDelimiter_of_mem_lowerChar {d : Char} (hc : isDelimiter c = false) (hd : d ∈ Text.lowerChar c) :
    isDelimiter d = false := by
  rcases Text.mem_lowerChar hd with rfl | hsmall
  · exact hc
  · rw [Bool.eq_false_iff, ne_eq, isDelimiter_iff]
    rintro (rfl | rfl)
    · exact absurd hsmall (by decide)
    · exact absurd hsmall (by decide)

theorem lowerChar_of_isDelimiter (hc : isDelimiter c = true) : Text.lowerChar c = [c] := by
  rcases isDelimiter_iff.1 hc with rfl | rfl
  · decide
  · decide

theorem isSegment_decapitalizeChars (h : IsSegment cs) : IsSegment (decapitalizeChars cs) := by
  obtain ⟨lead, word, rfl, hl, hne, hw⟩ := h
  cases lead with
  | cons d lead =>
    have hd : isDelimiter d = true := List.all_eq_true.1 hl d (List.mem_cons_self ..)
    rw [List.cons_append, decapitalizeChars_of_lowerChar (lowerChar_of_isDelimiter hd)]
    exact ⟨d :: lead, word, rfl, hl, hne, hw⟩
  | nil =>
    obtain ⟨c, word, rfl⟩ := List.exists_cons_of_ne_nil hne
    obtain ⟨hc, hword⟩ := List.forall_mem_cons.1 hw
    rcases decapitalizeChars_cons c word with h | h
    · exact ⟨[], c :: word, h, rfl, hne, hw⟩
    · refine ⟨[], Text.lowerChar c ++ word, h, rfl, ?_, ?_⟩
      · exact fun h => Text.lowerChar_ne_nil c (List.append_eq_nil_iff.1 h).1
      · intro d hd
        rcases List.mem_append.1 hd with hd | hd
        · exact isDelimiter_of_mem_lowerChar hc hd
        · exact hword d hd

theorem isSegment_normalize (h : IsSegment s.toList) : IsSegment (normalize s).toList := by
  rw [normalize, String.toList_ofList, normalizeChars]
  split
  · exact h
  · exact isSegment_decapitalizeChars h

/-! ## Names that are looked up -/

/-- A name that a segment can stand for. -/
def Matchable (name : String) : Prop := IsSegment name.toList ∧ normalize name = name

theorem matchable_normalize (h : IsSegment s.toList) : Matchable (normalize s) :=
  ⟨isSegment_normalize h, normalize_normalize s⟩

theorem isSegment_iff : IsSegment cs ↔ scan [] [] cs = [cs] := by
  constructor
  · intro h
    have hscan : scan [] [] (cs ++ []) = [cs] := scan_segment h (by simp)
    rwa [List.append_nil] at hscan
  · intro h
    exact mem_scan rfl (by simp) (h ▸ List.mem_singleton_self cs)

instance (cs : List Char) : Decidable (IsSegment cs) := decidable_of_iff _ isSegment_iff.symm

instance (name : String) : Decidable (Matchable name) := inferInstanceAs (Decidable (_ ∧ _))

theorem segments_behind (h : IsSegment s.toList) : segments ("a." ++ s) = ["a", s] := by
  have ha : IsSegment ['a'] := by decide
  have hscan : scan [] [] (['a'] ++ '.' :: s.toList) = ['a'] :: scan [] [] s.toList :=
    scan_segment ha (by simp [isDelimiter])
  rw [isSegment_iff.1 h] at hscan
  have hpath : ("a." ++ s).toList = ['a'] ++ '.' :: s.toList := by
    rw [String.toList_append]
    rfl
  rw [segments, hpath, hscan, List.map_cons, List.map_cons, List.map_nil, String.ofList_toList]

/-- The names that segments of sort properties stand for are the matchable ones. -/
theorem exists_segment_iff :
    (∃ k : Clause, ∃ s ∈ segments k.property, normalize s = name) ↔ Matchable name := by
  constructor
  · rintro ⟨k, s, hs, rfl⟩
    exact matchable_normalize (mem_segments hs)
  · rintro ⟨hname, hnormal⟩
    have hblank : Text.isAllBlank ("a." ++ name) = false := by
      rw [isAllBlank_append]
      rfl
    refine ⟨⟨"a." ++ name, .ascending, .native, false, hblank⟩, name, ?_, hnormal⟩
    rw [segments_behind hname]
    simp

end PropertyPath

open PropertyPath

/-! ## Other names do not count -/

variable {τ : Type} {c c' : Catalog τ} {m m' : Mappings τ} {s : String}

/-- The same is said of the names that segments can stand for. -/
def Mappings.Alike (m m' : Mappings τ) : Prop :=
  ∀ name, Matchable name → m.flat.property? name = m'.flat.property? name ∧
    m.wrapped.chain? name = m'.wrapped.chain? name

/-- The entities are the same, and so is what their mappings say of matchable names. -/
structure Catalog.Alike (c c' : Catalog τ) : Prop where
  entity : ∀ t, c.entity? t = c'.entity? t
  mappings : ∀ e, (c.mappings e).Alike (c'.mappings e)

theorem Mappings.Alike.step?_eq (h : m.Alike m') (hs : IsSegment s.toList) : m.step? s = m'.step? s := by
  obtain ⟨hflat, hwrapped⟩ := h _ (matchable_normalize hs)
  have hchain : m.chain (normalize s) = m'.chain (normalize s) := by
    rw [Mappings.chain, Mappings.chain, hflat, hwrapped]
  rw [Mappings.step?, Mappings.step?, hchain]

namespace Catalog

theorem fetchMappings_bind {α : Type} (e : Entity τ) (f : Mappings τ → Traced τ α) :
    (c.fetchMappings e >>= f) =
      ⟨(f (c.mappings e)).value, [.flat e.type, .wrapped e.type] ++ (f (c.mappings e)).lookups⟩ := rfl

/-- The walk depends on what is said of matchable names only, and so do its lookups. -/
theorem walk_congr (hc : c.Alike c') (h : m.Alike m') {segments : List String}
    (hs : ∀ s ∈ segments, IsSegment s.toList) : c.walk m segments = c'.walk m' segments := by
  induction segments generalizing m m' with
  | nil => rfl
  | cons segment rest ih =>
    obtain ⟨hsegment, hrest⟩ := List.forall_mem_cons.1 hs
    have hfetch : c.fetchEntity = c'.fetchEntity := by
      funext t
      rw [fetchEntity, fetchEntity, hc.entity]
    have hbehind : ∀ (e : Entity τ) (names : List String),
        (do let m ← c.fetchMappings e
            let tail ← c.walk m rest
            pure (tail.map (names ++ ·))) =
          (do let m ← c'.fetchMappings e
              let tail ← c'.walk m rest
              pure (tail.map (names ++ ·)) : Traced τ (Option (List String))) := fun e names => by
      rw [fetchMappings_bind, fetchMappings_bind, ih (hc.mappings e) hrest]
    rw [walk, walk, h.step?_eq hsegment, hfetch]
    cases m'.step? segment with
    | none => rfl
    | some chain =>
      cases rest with
      | nil => rfl
      | cons s rest => simp only [hbehind]

theorem resolveClauses_congr (hc : c.Alike c') (h : m.Alike m') (ks : List Clause) :
    c.resolveClauses m ks = c'.resolveClauses m' ks := by
  induction ks with
  | nil => rfl
  | cons k ks ih =>
    have hwalk : c.walkPath m k.property = c'.walkPath m' k.property := by
      unfold walkPath
      split
      · rfl
      · exact walk_congr hc h fun s hs => mem_segments hs
    rw [resolveClauses, resolveClauses, hwalk, ih]

/-- Catalogs that say the same of the matchable names resolve alike, and are asked alike. -/
theorem resolve_congr (hc : c.Alike c') (s : Option Sorting) (root : Option (Entity τ)) :
    c.resolve s root = c'.resolve s root := by
  cases s with
  | none => rfl
  | some s =>
    cases root with
    | none => rfl
    | some root =>
      rw [resolve, resolve, fetchMappings_bind, fetchMappings_bind,
        resolveClauses_congr hc (hc.mappings root)]

end Catalog

/-- **Matchable names.** A name is the normal form of a segment of some sort property exactly if it is a
segment and its own normal form. The normal form of a text is its own normal form, and that of a segment is
a segment. What the tables of a catalog say of other names has no effect on any resolution, nor on what the
catalog is asked. -/
theorem matchable_names :
    (∀ name, (∃ k : Clause, ∃ s ∈ segments k.property, normalize s = name) ↔
      IsSegment name.toList ∧ normalize name = name) ∧
    (∀ s, normalize (normalize s) = normalize s) ∧
    (∀ s, IsSegment s.toList → IsSegment (normalize s).toList) ∧
    ∀ (τ : Type) (c c' : Catalog τ), c.Alike c' → ∀ s root, c.resolve s root = c'.resolve s root :=
  ⟨fun _ => exists_segment_iff, normalize_normalize, fun _ => isSegment_normalize,
    fun _ _ _ => Catalog.resolve_congr⟩

namespace Catalog

def latitude : Property String := ⟨"latitude", "float", none, false⟩

/-- Stations with a plain name, and with three that no segment stands for. -/
def stations : Catalog String where
  entity? _ := none
  flat _ := .ofList [("first_seen", ⟨"first_seen", "date", none, false⟩), ("lat", latitude),
    ("Lat", ⟨"lat_hidden", "float", none, false⟩)]
  wrapped _ := .ofList [("geo.lat", [⟨"geo", "Geo", none, false⟩, latitude])]

/-- Stations with the plain name only. -/
def plainStations : Catalog String where
  entity? _ := none
  flat _ := .ofList [("lat", latitude)]
  wrapped _ := .empty

theorem stations_alike : stations.Alike plainStations where
  entity _ := rfl
  mappings e name hname := by
    have hne : ∀ key, ¬ Matchable key → key ≠ name := fun key hkey he => hkey (he ▸ hname)
    have hseen := hne "first_seen" (by decide +kernel)
    have hcapital := hne "Lat" (by decide +kernel)
    have hdotted := hne "geo.lat" (by decide +kernel)
    constructor
    · simp [mappings, stations, plainStations, FlatMapping.property?, FlatMapping.ofList, Table.ofList,
        Table.insertAll, hseen, hcapital]
    · simp [mappings, stations, plainStations, WrappedMapping.chain?, WrappedMapping.ofList,
        WrappedMapping.empty, Table.ofList, Table.insertAll, hdotted]

/-- Of the four names one is matchable, which a segment with a capital stands for too. Without the other
three every sorting resolves alike. -/
theorem matchable_names_stations :
    (∀ name ∈ ["first_seen", "Lat", "geo.lat"], ¬ ∃ k : Clause, ∃ s ∈ segments k.property,
      normalize s = name) ∧
    Matchable "lat" ∧ normalize "Lat" = "lat" ∧ stations.Alike plainStations ∧
    ∀ s root, stations.resolve s root = plainStations.resolve s root := by
  obtain ⟨hiff, -, -, hresolve⟩ := matchable_names
  refine ⟨fun name hname => ?_, by decide +kernel, by decide +kernel, stations_alike,
    hresolve String stations plainStations stations_alike⟩
  rw [hiff]
  revert name
  decide +kernel

end Catalog

end SortPath
