import Mathlib.Data.Nat.Basic
import SortPath.Proofs.Exposure
import SortPath.Render.Mongo

/-!
# Documents in the order of keys

Sort keys order documents by the first of them at whose path two documents differ. A cursor takes the keys
one after the other, and a path that is mentioned again has nothing more to decide. The stage of an
aggregation holds the keys in a table, and there the later mention writes its sign over the earlier one. The
place of the path stays, so the stage still decides by the path that the keys decide by, but it takes the
direction of the last mention where the keys take that of the first.

Two clauses come to mention one path where a path goes through an inlined field: once by the inlined name
and once by the names of the steps.

Results:
* `compareBy_eq_iff`: keys that decide by one path order two documents alike if they give it one sign.
* `decisive?_ofList`: writing keys into a table does not change the path that decides.
* `compareBy_stageKeys_iff`: the stage orders like the keys exactly where no path changes its sign from the
  first mention to the last.
* `stageKeys_turn_repeated`: it does not where one does.
-/
namespace SortPath.Mongo

variable {α : Type} [LinearOrder α] {ks ks' : List (String × Int)} {d d' : String → α} {path : String}
  {sign sign' : Int}

/-! ## The order of documents -/

/-- How a key compares two documents, which are given by the values at their paths. -/
def compareAt (key : String × Int) (d d' : String → α) : Ordering :=
  if 0 < key.2 then compare (d key.1) (d' key.1) else compare (d' key.1) (d key.1)

/-- Documents are compared by the first key that tells them apart. -/
def compareBy : List (String × Int) → (String → α) → (String → α) → Ordering
  | [], _, _ => .eq
  | key :: ks, d, d' => (compareAt key d d').then (compareBy ks d d')

/-- The keys that the stage holds, in its order. -/
def stageKeys (sorting : Option Sorting) : List (String × Int) :=
  ((stage sorting).map (·.entries)).getD []

/-- The first path at which the documents differ. -/
def decisive? (ks : List (String × Int)) (d d' : String → α) : Option String :=
  (ks.map Prod.fst).find? fun path => d path ≠ d' path

/-- The sign of a path where it is mentioned first. -/
def firstSign? (ks : List (String × Int)) (path : String) : Option Int :=
  (ks.find? (·.1 = path)).map Prod.snd

/-- The sign of a path where it is mentioned last. -/
def lastSign? (ks : List (String × Int)) (path : String) : Option Int := firstSign? ks.reverse path

/-- The keys with the sign of the last mention at every mention. -/
def settled (ks : List (String × Int)) : List (String × Int) :=
  ks.map fun key => (key.1, (lastSign? ks key.1).getD key.2)

/-! ## The path that decides -/

theorem compareAt_of_eq {key : String × Int} (h : d key.1 = d' key.1) : compareAt key d d' = .eq := by
  unfold compareAt
  split
  · exact compare_eq_iff_eq.2 h
  · exact compare_eq_iff_eq.2 h.symm

theorem ne_of_decisive? (h : decisive? ks d d' = some path) : d path ≠ d' path := by
  simpa using List.find?_some h

theorem exists_firstSign? (h : path ∈ ks.map Prod.fst) : ∃ sign, firstSign? ks path = some sign := by
  obtain ⟨key, hkey, rfl⟩ := List.mem_map.1 h
  rw [← Option.isSome_iff_exists, firstSign?, Option.isSome_map, List.find?_isSome]
  exact ⟨key, hkey, by simp⟩

theorem firstSign?_eq_none (h : path ∉ ks.map Prod.fst) : firstSign? ks path = none := by
  rw [firstSign?, Option.map_eq_none_iff, List.find?_eq_none]
  intro key hkey hpath
  exact h (List.mem_map.2 ⟨key, hkey, by simpa using hpath⟩)

theorem mem_of_firstSign? (h : firstSign? ks path = some sign) : (path, sign) ∈ ks := by
  obtain ⟨key, hkey, rfl⟩ := Option.map_eq_some_iff.1 h
  have hpath : key.1 = path := by simpa using List.find?_some hkey
  rw [← hpath]
  exact List.mem_of_find?_eq_some hkey

theorem decisive?_single (h : path ∈ ks.map Prod.fst) :
    decisive? ks (fun p => if p = path then 1 else 0) (fun _ => (0 : Nat)) = some path := by
  cases hdecisive : decisive? ks (fun p => if p = path then 1 else 0) (fun _ => (0 : Nat)) with
  | none => simpa using List.find?_eq_none.1 hdecisive path h
  | some p =>
    have hne := ne_of_decisive? hdecisive
    by_cases hp : p = path
    · rw [hp]
    · simp [hp] at hne

theorem compareBy_of_alike (h : decisive? ks d d' = none) : compareBy ks d d' = .eq := by
  induction ks with
  | nil => rfl
  | cons key ks ih =>
    by_cases hkey : d key.1 = d' key.1
    · rw [compareBy, compareAt_of_eq hkey, Ordering.then]
      exact ih (by simpa [decisive?, hkey] using h)
    · simp [decisive?, hkey] at h

/-- The first path at which documents differ decides, by the sign of its first mention. -/
theorem compareBy_of_decisive? (h : decisive? ks d d' = some path) (hsign : firstSign? ks path = some sign) :
    compareBy ks d d' = compareAt (path, sign) d d' := by
  have hne := ne_of_decisive? h
  induction ks with
  | nil => cases hsign
  | cons key ks ih =>
    by_cases hkey : d key.1 = d' key.1
    · have hother : key.1 ≠ path := fun he => hne (he ▸ hkey)
      rw [compareBy, compareAt_of_eq hkey, Ordering.then]
      exact ih (by simpa [decisive?, hkey] using h) (by simpa [firstSign?, hother] using hsign)
    · obtain rfl : key.1 = path := by simpa [decisive?, hkey] using h
      obtain rfl : key.2 = sign := by simpa [firstSign?] using hsign
      have hdecided : compareAt key d d' ≠ .eq := by
        unfold compareAt
        split
        · exact fun he => hkey (compare_eq_iff_eq.1 he)
        · exact fun he => hkey (compare_eq_iff_eq.1 he).symm
      rw [compareBy]
      cases he : compareAt key d d' with
      | eq => exact absurd he hdecided
      | lt => rfl
      | gt => rfl

/-- Where documents differ, the two directions tell them apart differently. -/
theorem compareAt_eq_iff (hne : d path ≠ d' path) (hsign : sign = 1 ∨ sign = -1)
    (hsign' : sign' = 1 ∨ sign' = -1) :
    compareAt (path, sign) d d' = compareAt (path, sign') d d' ↔ sign = sign' := by
  have hturn : compare (d path) (d' path) ≠ compare (d' path) (d path) := by
    rcases lt_or_gt_of_ne hne with h | h
    · rw [compare_lt_iff_lt.2 h, compare_gt_iff_gt.2 h]
      decide
    · rw [compare_gt_iff_gt.2 h, compare_lt_iff_lt.2 h]
      decide
  unfold compareAt
  rcases hsign with rfl | rfl <;> rcases hsign' with rfl | rfl
  · simp
  · simpa using hturn
  · simpa using hturn.symm
  · simp

/-- Keys that decide by one path and give it one sign order the documents alike. -/
theorem compareBy_congr (hpath : decisive? ks d d' = decisive? ks' d d')
    (hsign : ∀ path, decisive? ks d d' = some path → firstSign? ks path = firstSign? ks' path) :
    compareBy ks d d' = compareBy ks' d d' := by
  cases hdecisive : decisive? ks d d' with
  | none => rw [compareBy_of_alike hdecisive, compareBy_of_alike (hpath ▸ hdecisive)]
  | some path =>
    obtain ⟨sign, hfirst⟩ := exists_firstSign? (List.mem_of_find?_eq_some hdecisive)
    rw [compareBy_of_decisive? hdecisive hfirst,
      compareBy_of_decisive? (hpath ▸ hdecisive) ((hsign path hdecisive).symm.trans hfirst)]

/-- Keys that decide by one path order the documents alike if they give it one sign, and only then. -/
theorem compareBy_eq_iff (hpath : decisive? ks d d' = decisive? ks' d d')
    (hks : ∀ key ∈ ks, key.2 = 1 ∨ key.2 = -1) (hks' : ∀ key ∈ ks', key.2 = 1 ∨ key.2 = -1) :
    compareBy ks d d' = compareBy ks' d d' ↔
      ∀ path, decisive? ks d d' = some path → firstSign? ks path = firstSign? ks' path := by
  refine ⟨fun h path hdecisive => ?_, compareBy_congr hpath⟩
  have hdecisive' : decisive? ks' d d' = some path := hpath ▸ hdecisive
  obtain ⟨sign, hfirst⟩ := exists_firstSign? (List.mem_of_find?_eq_some hdecisive)
  obtain ⟨sign', hfirst'⟩ := exists_firstSign? (List.mem_of_find?_eq_some hdecisive')
  rw [compareBy_of_decisive? hdecisive hfirst, compareBy_of_decisive? hdecisive' hfirst'] at h
  have hsign : sign = sign' :=
    (compareAt_eq_iff (ne_of_decisive? hdecisive) (hks _ (mem_of_firstSign? hfirst))
      (hks' _ (mem_of_firstSign? hfirst'))).1 h
  rw [hfirst, hfirst', hsign]

/-! ## Keys in a table -/

/-- The first key of a table with some property is the first one that was written. -/
theorem find?_keys_insertAll {κ β : Type} [DecidableEq κ] (P : κ → Bool) (t : Table κ β)
    (es : List (κ × β)) :
    (t.insertAll es).keys.find? P = (t.keys.find? P).or ((es.map Prod.fst).find? P) := by
  induction es generalizing t with
  | nil => simp [Table.insertAll]
  | cons e es ih =>
    rw [Table.insertAll, ih, Table.keys_insert, List.map_cons, List.find?_cons]
    split
    · next hmem =>
      cases hfound : t.keys.find? P with
      | some k => rfl
      | none =>
        have hnot : P e.1 = false := by simpa using List.find?_eq_none.1 hfound e.1 hmem
        simp [hnot]
    · rw [List.find?_append, Option.or_assoc]
      congr 1
      cases hP : P e.1 <;> simp [hP]

theorem decisive?_ofList (ks : List (String × Int)) (d d' : String → α) :
    decisive? (Table.ofList ks).entries d d' = decisive? ks d d' :=
  find?_keys_insertAll _ Table.empty ks

/-- A table has a path with the sign of its last mention. -/
theorem firstSign?_ofList (ks : List (String × Int)) (path : String) :
    firstSign? (Table.ofList ks).entries path = lastSign? ks path := by
  have hget := Table.get?_insertAll Table.empty ks path
  rw [Table.get?_empty, Option.or_none] at hget
  exact hget

theorem stageKeys_eq (sorting : Option Sorting) :
    stageKeys sorting = (Table.ofList (keys sorting)).entries := by
  unfold stageKeys stage
  split
  · next h => rw [h]; rfl
  · rfl

theorem sign_of_mem_keys {sorting : Option Sorting} : ∀ key ∈ keys sorting, key.2 = 1 ∨ key.2 = -1 := by
  intro key hkey
  obtain ⟨k, -, rfl⟩ := List.mem_map.1 hkey
  cases k.direction <;> simp [sign]

theorem decisive?_settled (ks : List (String × Int)) (d d' : String → α) :
    decisive? (settled ks) d d' = decisive? ks d d' := by
  unfold decisive? settled
  rw [List.map_map]
  rfl

theorem firstSign?_settled (ks : List (String × Int)) (path : String) :
    firstSign? (settled ks) path = lastSign? ks path := by
  cases hlast : lastSign? ks path with
  | none =>
    have hno : ∀ key ∈ ks, key.1 ≠ path := by
      simpa [lastSign?, firstSign?] using hlast
    simpa [firstSign?, settled] using hno
  | some sign =>
    have hmem : (path, sign) ∈ ks := List.mem_reverse.1 (mem_of_firstSign? hlast)
    obtain ⟨first, hfirst⟩ := exists_firstSign? (List.mem_map_of_mem hmem)
    obtain ⟨key, hkey, -⟩ := Option.map_eq_some_iff.1 hfirst
    have hpath : key.1 = path := by simpa using List.find?_some hkey
    have hfound : ks.find? ((fun key => decide (key.1 = path)) ∘
        fun key => (key.1, (lastSign? ks key.1).getD key.2)) = some key := hkey
    rw [firstSign?, settled, List.find?_map, hfound]
    simp [hpath, hlast]

/-! ## The stage against the keys -/

/-- **The order of the stage.** There is no stage exactly when there are no keys. It orders documents like
the keys with the last sign of a path at every mention. Two documents it orders like the keys themselves
exactly if the path that decides has one sign at its first and its last mention, and all documents if every
path has. -/
theorem compareBy_stageKeys_iff (sorting : Option Sorting) :
    (stage sorting = none ↔ keys sorting = []) ∧
    (∀ (α : Type) [LinearOrder α] (d d' : String → α),
      compareBy (stageKeys sorting) d d' = compareBy (settled (keys sorting)) d d') ∧
    (∀ (α : Type) [LinearOrder α] (d d' : String → α),
      compareBy (stageKeys sorting) d d' = compareBy (keys sorting) d d' ↔
        ∀ path, decisive? (keys sorting) d d' = some path →
          firstSign? (keys sorting) path = lastSign? (keys sorting) path) ∧
    ((∀ (α : Type) [LinearOrder α] (d d' : String → α),
      compareBy (stageKeys sorting) d d' = compareBy (keys sorting) d d') ↔
        ∀ path, firstSign? (keys sorting) path = lastSign? (keys sorting) path) := by
  have hpair : ∀ (α : Type) [LinearOrder α] (d d' : String → α),
      compareBy (stageKeys sorting) d d' = compareBy (keys sorting) d d' ↔
        ∀ path, decisive? (keys sorting) d d' = some path →
          firstSign? (keys sorting) path = lastSign? (keys sorting) path := by
    intro α _ d d'
    rw [eq_comm, stageKeys_eq, compareBy_eq_iff (decisive?_ofList _ d d').symm sign_of_mem_keys]
    · simp only [firstSign?_ofList]
    · exact fun key hkey => sign_of_mem_keys key (Table.mem_of_mem_entries_ofList hkey)
  refine ⟨stage_eq_none_iff, ?_, hpair, ?_⟩
  · intro α _ d d'
    rw [stageKeys_eq]
    refine compareBy_congr ?_ fun path _ => ?_
    · rw [decisive?_ofList, decisive?_settled]
    · rw [firstSign?_ofList, firstSign?_settled]
  · refine ⟨fun h path => ?_, fun h α _ d d' => (hpair α d d').2 fun path _ => h path⟩
    by_cases hmem : path ∈ (keys sorting).map Prod.fst
    · exact (hpair Nat _ _).1 (h Nat _ _) path (decisive?_single hmem)
    · have hmem' : path ∉ (keys sorting).reverse.map Prod.fst := by simpa using hmem
      rw [lastSign?, firstSign?_eq_none hmem, firstSign?_eq_none hmem']

/-! ## A sample: people by their first name, twice -/

/-- The first name by its inlined name, and once more by the steps to it, the other way round. -/
def byFirstName : Sorting :=
  ⟨[⟨"first", .ascending, .native, false, rfl⟩,
    ⟨"name.first", .descending, .native, false, rfl⟩]⟩

/-- Both names stand for one path. -/
def firstNameTwice : Sorting :=
  ⟨[⟨"name.first_name", .ascending, .native, false, rfl⟩,
    ⟨"name.first_name", .descending, .native, false, rfl⟩]⟩

/-- Of two documents with different first names the keys put the lesser one first, and the stage the
greater one. -/
theorem stageKeys_turn_repeated :
    ((Sample.people.catalog true).resolve (some byFirstName) (some Sample.person.entity)).value =
      .ok (some firstNameTwice) ∧
    compareBy (keys (some firstNameTwice)) (fun _ => 0) (fun _ => 1) = .lt ∧
    compareBy (stageKeys (some firstNameTwice)) (fun _ => 0) (fun _ => 1) = .gt := by
  refine ⟨by with_unfolding_all rfl, by decide, by decide⟩

end SortPath.Mongo
