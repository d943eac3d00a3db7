/-!
# Tables in insertion order

A finite map that lists its keys in the order of their first insertion. Writing to a key that is
present replaces its value and keeps its place; the keys are unique by construction.

Results:
* `keys_insert`: writing a key that is present leaves the key list alone, any other is appended.
* `get?_insert`: a lookup after a write sees the new value at the written key and nothing else changed.
* `get?_ofList_eq_some_iff`, `get?_ofList_map_eq_some_iff`: of the pairs with one key the last one counts.
* `mem_entries_iff`: an entry is in the table exactly when its key looks up to its value.
-/
namespace SortPath

variable {κ α : Type}

/-- The write behind `Table.insert`, on the bare list of entries. -/
def insertEntry [DecidableEq κ] (k : κ) (v : α) : List (κ × α) → List (κ × α)
  | [] => [(k, v)]
  | e :: es => if e.1 = k then (k, v) :: es else e :: insertEntry k v es

theorem map_fst_insertEntry [DecidableEq κ] (k : κ) (v : α) (es : List (κ × α)) :
    (insertEntry k v es).map Prod.fst =
      if k ∈ es.map Prod.fst then es.map Prod.fst else es.map Prod.fst ++ [k] := by
  induction es with
  | nil => simp [insertEntry]
  | cons e es ih =>
    by_cases h : e.1 = k
    · simp [insertEntry, h]
    · simp only [insertEntry, h, if_false, List.map_cons, ih, List.mem_cons, Ne.symm h, false_or]
      split <;> simp

theorem nodup_insertEntry [DecidableEq κ] (k : κ) (v : α) {es : List (κ × α)}
    (h : (es.map Prod.fst).Nodup) : ((insertEntry k v es).map Prod.fst).Nodup := by
  rw [map_fst_insertEntry]
  split
  · exact h
  · next hk =>
    rw [List.nodup_append]
    refine ⟨h, by simp, fun a ha b hb => ?_⟩
    rw [List.mem_singleton.1 hb]
    exact fun e => hk (e ▸ ha)

/-- In a list without duplicates the elements after `a` are those that `a` stands before. -/
theorem mem_after_iff {α : Type} {a b : α} {before after : List α} (hn : (before ++ a :: after).Nodup) :
    b ∈ after ↔ [a, b].Sublist (before ++ a :: after) := by
  constructor
  · intro h
    exact ((List.singleton_sublist.2 h).cons_cons a).trans (List.sublist_append_right before _)
  · intro h
    induction before with
    | nil =>
      rcases List.sublist_cons_iff.1 h with h | ⟨_, he, h⟩
      · exact h.subset (by simp)
      · cases he
        exact List.singleton_sublist.1 h
    | cons c before ih =>
      rw [List.cons_append, List.nodup_cons] at hn
      rcases List.sublist_cons_iff.1 h with h | ⟨_, he, -⟩
      · exact ih hn.2 h
      · cases he
        exact absurd (List.mem_append_right before (List.mem_cons_self ..)) hn.1

/-- A finite map from `κ` to `α` whose entries stand in the order of their first insertion. -/
@[ext]
structure Table (κ α : Type) where
  entries : List (κ × α)
  nodup : (entries.map Prod.fst).Nodup
deriving DecidableEq, Repr

namespace Table

def empty : Table κ α := ⟨[], List.nodup_nil⟩

instance : Inhabited (Table κ α) := ⟨empty⟩

/-- The keys, first inserted first. -/
def keys (t : Table κ α) : List κ := t.entries.map Prod.fst

/-- The values, in the order of their keys. -/
def values (t : Table κ α) : List α := t.entries.map Prod.snd

def size (t : Table κ α) : Nat := t.entries.length

theorem keys_nodup (t : Table κ α) : t.keys.Nodup := t.nodup

variable [DecidableEq κ]

def get? (t : Table κ α) (k : κ) : Option α :=
  (t.entries.find? (fun e => e.1 = k)).map Prod.snd

def contains (t : Table κ α) (k : κ) : Bool := (t.get? k).isSome

/-- Write `v` at `k`: in place where `k` is present, else at the end. -/
def insert (t : Table κ α) (k : κ) (v : α) : Table κ α :=
  ⟨insertEntry k v t.entries, nodup_insertEntry k v t.nodup⟩

/-- Write the pairs one after the other. -/
def insertAll (t : Table κ α) : List (κ × α) → Table κ α
  | [] => t
  | (k, v) :: es => (t.insert k v).insertAll es

/-- The table of a list of pairs: of a repeated key the first place and the last value stay. -/
def ofList (es : List (κ × α)) : Table κ α := empty.insertAll es

/-! ## Reading after writing -/

@[simp] theorem get?_empty (k : κ) : (empty : Table κ α).get? k = none := rfl

theorem keys_insert (t : Table κ α) (k : κ) (v : α) :
    (t.insert k v).keys = if k ∈ t.keys then t.keys else t.keys ++ [k] :=
  map_fst_insertEntry k v t.entries

theorem find?_insertEntry (k k' : κ) (v : α) (es : List (κ × α)) :
    ((insertEntry k v es).find? (fun e => e.1 = k')).map Prod.snd =
      if k = k' then some v else (es.find? (fun e => e.1 = k')).map Prod.snd := by
  induction es with
  | nil => by_cases h : k = k' <;> simp [insertEntry, h]
  | cons e es ih =>
    by_cases he : e.1 = k
    · by_cases h : k = k' <;> simp [insertEntry, he, h]
    · by_cases h : k = k'
      · subst h; simpa [insertEntry, he] using ih
      · by_cases h' : e.1 = k' <;> simp_all [insertEntry]

@[simp] theorem get?_insert (t : Table κ α) (k k' : κ) (v : α) :
    (t.insert k v).get? k' = if k = k' then some v else t.get? k' :=
  find?_insertEntry k k' v t.entries

theorem get?_insertAll (t : Table κ α) (es : List (κ × α)) (k : κ) :
    (t.insertAll es).get? k = ((es.reverse.find? (fun e => e.1 = k)).map Prod.snd).or (t.get? k) := by
  induction es generalizing t with
  | nil => simp [insertAll]
  | cons e es ih =>
    obtain ⟨k', v⟩ := e
    rw [insertAll, ih, get?_insert, List.reverse_cons, List.find?_append]
    cases es.reverse.find? (fun e => e.1 = k) with
    | some e => simp
    | none => by_cases h : k' = k <;> simp [h]

/-- Of the pairs with one key the last one counts. -/
theorem get?_ofList_eq_some_iff {es : List (κ × α)} {k : κ} {v : α} :
    (ofList es).get? k = some v ↔
      ∃ before after, es = before ++ (k, v) :: after ∧ ∀ e ∈ after, e.1 ≠ k := by
  rw [ofList, get?_insertAll, get?_empty, Option.or_none]
  simp only [Option.map_eq_some_iff, List.find?_eq_some_iff_append, decide_eq_true_eq,
    Bool.not_eq_true', decide_eq_false_iff_not]
  constructor
  · intro h
    obtain ⟨e, ⟨rfl, after, before, hes, ha⟩, rfl⟩ := h
    refine ⟨before.reverse, after.reverse, ?_, fun e he => ha e (List.mem_reverse.1 he)⟩
    rw [← List.reverse_reverse es, hes]
    simp
  · intro h
    obtain ⟨before, after, rfl, ha⟩ := h
    exact ⟨(k, v), ⟨rfl, after.reverse, before.reverse, by simp,
      fun e he => ha e (List.mem_reverse.1 he)⟩, rfl⟩

/-- A key leads to the last element that was written under it. -/
theorem get?_ofList_map_eq_some_iff {ι : Type} {l : List ι} (hn : l.Nodup) {key : ι → κ} {val : ι → α}
    {k : κ} {v : α} :
    (ofList (l.map fun i => (key i, val i))).get? k = some v ↔
      ∃ i ∈ l, key i = k ∧ val i = v ∧ ∀ j, [i, j].Sublist l → key j ≠ k := by
  rw [get?_ofList_eq_some_iff]
  constructor
  · intro h
    obtain ⟨before, after, he, hafter⟩ := h
    obtain ⟨before, rest, rfl, -, he⟩ := List.map_eq_append_iff.1 he
    obtain ⟨i, after, rfl, hi, rfl⟩ := List.map_eq_cons_iff.1 he
    obtain ⟨rfl, rfl⟩ := Prod.mk.inj hi
    refine ⟨i, by simp, rfl, rfl, fun j hj => ?_⟩
    exact hafter _ (List.mem_map_of_mem ((mem_after_iff hn).2 hj))
  · intro h
    obtain ⟨i, hi, rfl, rfl, hlast⟩ := h
    obtain ⟨before, after, rfl⟩ := List.append_of_mem hi
    refine ⟨before.map fun i => (key i, val i), after.map fun i => (key i, val i), by simp, ?_⟩
    rw [List.forall_mem_map]
    exact fun j hj => hlast j ((mem_after_iff hn).1 hj)

theorem mem_of_get?_ofList {es : List (κ × α)} {k : κ} {v : α} (h : (ofList es).get? k = some v) :
    (k, v) ∈ es := by
  obtain ⟨before, after, rfl, -⟩ := get?_ofList_eq_some_iff.1 h
  exact List.mem_append_right before (List.mem_cons_self ..)

theorem get?_ofList_isSome_iff {es : List (κ × α)} {k : κ} :
    ((ofList es).get? k).isSome ↔ ∃ v, (k, v) ∈ es := by
  rw [ofList, get?_insertAll, get?_empty, Option.or_none]
  simp only [Option.isSome_map, List.find?_isSome, List.mem_reverse, decide_eq_true_eq]
  exact ⟨fun ⟨e, he, h⟩ => ⟨e.2, h ▸ he⟩, fun ⟨v, hv⟩ => ⟨(k, v), hv, rfl⟩⟩

/-- Where the pairs stand in the order `R`, every other pair with the key comes before the one that
counts. -/
theorem get?_ofList_of_pairwise {R : κ × α → κ × α → Prop} {es : List (κ × α)} (hR : es.Pairwise R)
    {k : κ} {v : α} (h : (ofList es).get? k = some v) :
    (k, v) ∈ es ∧ ∀ w, (k, w) ∈ es → w = v ∨ R (k, w) (k, v) := by
  obtain ⟨before, after, rfl, ha⟩ := get?_ofList_eq_some_iff.1 h
  refine ⟨by simp, fun w hw => ?_⟩
  rcases List.mem_append.1 hw with hw | hw
  · exact .inr ((List.pairwise_append.1 hR).2.2 _ hw _ (List.mem_cons_self ..))
  · rcases List.mem_cons.1 hw with hw | hw
    · cases hw; exact .inl rfl
    · exact absurd rfl (ha _ hw)

theorem get?_eq_some_iff {t : Table κ α} {k : κ} {v : α} : t.get? k = some v ↔ (k, v) ∈ t.entries := by
  obtain ⟨es, hn⟩ := t
  simp only [get?]
  induction es with
  | nil => simp
  | cons e es ih =>
    obtain ⟨k', v'⟩ := e
    rw [List.map_cons, List.nodup_cons] at hn
    by_cases h : k' = k
    · subst h
      have hnot : (k', v) ∉ es := fun hm => hn.1 (List.mem_map.2 ⟨_, hm, rfl⟩)
      simp [hnot, eq_comm]
    · have := ih hn.2
      simp [h, this, Ne.symm h]

theorem mem_entries_iff {t : Table κ α} {e : κ × α} : e ∈ t.entries ↔ t.get? e.1 = some e.2 :=
  get?_eq_some_iff.symm

theorem mem_of_mem_entries_ofList {es : List (κ × α)} {e : κ × α} (h : e ∈ (ofList es).entries) :
    e ∈ es :=
  mem_of_get?_ofList (mem_entries_iff.1 h)

theorem contains_iff {t : Table κ α} {k : κ} : t.contains k = true ↔ k ∈ t.keys := by
  simp only [contains, Option.isSome_iff_exists, get?_eq_some_iff, keys, List.mem_map, Prod.exists,
    exists_and_right, exists_eq_right]

theorem get?_eq_none_iff {t : Table κ α} {k : κ} : t.get? k = none ↔ k ∉ t.keys := by
  rw [← contains_iff, contains]; cases t.get? k <;> simp

end Table

end SortPath
