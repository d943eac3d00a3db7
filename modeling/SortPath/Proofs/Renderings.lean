import Mathlib.Data.List.Basic
import SortPath.Proofs.ParameterValues
import SortPath.Render.Elasticsearch
import SortPath.Render.Mongo

/-!
# What the renderings keep

Both backends get one entry for each clause of a sorting, in the order of the clauses, and a property that
occurs twice has two entries. An entry for Elasticsearch holds the property, the direction, and where missing
values go unless that is left to the backend; an entry for MongoDB holds the property and the direction. So a
rendering forgets whether letter case counts, and the one for MongoDB forgets missing values as well.

That nothing else is forgotten is a statement about two sortings: their renderings are equal exactly when the
kept parts of their clauses are. The entries for Elasticsearch are compared as loose values are, records
whatever the order of their fields.

Results:
* `Datum.same_list_map_iff`: lists that are made item by item are equal when what is kept of their items is.
* `Elasticsearch.isEntry_toRecord`, `Elasticsearch.same_toRecord_iff`: what a single entry holds, and when two
  are equal.
* `Elasticsearch.same_entries_iff`, `Mongo.keys_eq_iff`: when two sortings are rendered alike.
* `renderings_keep`: all of it, with the number of entries and what each of them holds.
-/
namespace SortPath

/-- Lists of loose values that are made from other lists by one function are equal when what it keeps of
their items is. -/
theorem Datum.same_list_map_iff {α β : Type} {f : α → Datum} {kept : α → β}
    (h : ∀ a b, (f a).same (f b) = true ↔ kept a = kept b) (as bs : List α) :
    (Datum.list (as.map f)).same (.list (bs.map f)) = true ↔ as.map kept = bs.map kept := by
  rw [Datum.same]
  induction as generalizing bs with
  | nil => cases bs <;> simp [Datum.sameItems]
  | cons a as ih =>
    cases bs with
    | nil => simp [Datum.sameItems]
    | cons b bs => simp [Datum.sameItems, h, ih]

theorem Direction.text_inj {d d' : Direction} : d.text = d'.text ↔ d = d' := by
  cases d <;> cases d' <;> simp [text]

/-! ## Elasticsearch -/

namespace Elasticsearch

/-- What an entry keeps of a clause. -/
def kept (c : Clause) : String × Direction × NullPlacement := (c.property, c.direction, c.nullPlacement)

/-- The clause of a search request for a clause of a sorting. -/
def SortClause.ofClause (c : Clause) : SortClause := ⟨c.property, c.direction, missing? c.nullPlacement⟩

/-- The entry for `c`: its property is the only field, and the record there tells the direction, and the place
of missing values unless that is left to the backend. -/
def IsEntry (c : Clause) (entry : Datum) : Prop :=
  ∃ options : Record, entry = .record [(c.property, .record options)] ∧
    options.lookup "order" = some (.text c.direction.text) ∧
    options.lookup "missing" = (missing? c.nullPlacement).map fun m => .text m.text

theorem clauses_eq (s : Option Sorting) : clauses s = (clausesOf s).map SortClause.ofClause := by
  cases s <;> rfl

theorem missing?_inj {n n' : NullPlacement} : missing? n = missing? n' ↔ n = n' := by
  cases n <;> cases n' <;> simp [missing?]

theorem ofClause_eq_iff (c c' : Clause) : SortClause.ofClause c = .ofClause c' ↔ kept c = kept c' := by
  simp [SortClause.ofClause, kept, missing?_inj]

theorem Missing.text_inj {m m' : Missing} : m.text = m'.text ↔ m = m' := by
  cases m <;> cases m' <;> simp [text]

/-- Equal entries hold equal clauses; an option that only one of them has makes them different. -/
theorem same_toRecord_iff (c c' : SortClause) :
    (Datum.record c.toRecord).same (.record c'.toRecord) = true ↔ c = c' := by
  obtain ⟨path, order, missing⟩ := c
  obtain ⟨path', order', missing'⟩ := c'
  by_cases hpath : path = path'
  · subst hpath
    cases missing <;> cases missing' <;>
      simp [SortClause.toRecord, Datum.same, Datum.sameFields, List.lookup_cons, Direction.text_inj,
        Missing.text_inj]
  · have hkey : (path == path') = false := by simpa using hpath
    simp [SortClause.toRecord, Datum.same, Datum.sameFields, List.lookup_cons, hkey, hpath]

theorem isEntry_toRecord (c : Clause) : IsEntry c (.record (SortClause.ofClause c).toRecord) := by
  refine ⟨_, rfl, rfl, ?_⟩
  cases h : missing? c.nullPlacement <;> simp [SortClause.ofClause, List.lookup_cons, h]

theorem entries_eq_map (s : Option Sorting) :
    entries (clauses s) = (clausesOf s).map fun c => .record (SortClause.ofClause c).toRecord := by
  simp [entries, clauses_eq]

theorem same_entries_iff (s s' : Option Sorting) :
    (Datum.list (entries (clauses s))).same (.list (entries (clauses s'))) = true ↔
      (clausesOf s).map kept = (clausesOf s').map kept := by
  rw [entries_eq_map, entries_eq_map]
  refine Datum.same_list_map_iff (fun c c' => ?_) _ _
  rw [same_toRecord_iff, ofClause_eq_iff]

end Elasticsearch

/-! ## MongoDB -/

namespace Mongo

/-- What a key keeps of a clause. -/
def kept (c : Clause) : String × Direction := (c.property, c.direction)

/-- The key for what is kept of a clause. -/
def key (k : String × Direction) : String × Int := (k.1, sign k.2)

theorem keys_eq (s : Option Sorting) : keys s = ((clausesOf s).map kept).map key := by
  cases s <;> simp [keys, clausesOf, kept, key]

theorem key_injective : Function.Injective key := by
  intro ⟨p, d⟩ ⟨p', d'⟩ h
  cases d <;> cases d' <;> simp_all [key, sign]

theorem keys_eq_iff (s s' : Option Sorting) :
    keys s = keys s' ↔ (clausesOf s).map kept = (clausesOf s').map kept := by
  rw [keys_eq, keys_eq]
  exact (List.map_injective_iff.2 key_injective).eq_iff

end Mongo

/-! ## Both -/

/-- Both renderings of a sorting have one entry for each clause, in the order of the clauses, with the
clause's property and direction. Two sortings have equal entries for Elasticsearch exactly when their clauses
agree on property, direction and missing values one by one, and equal keys for MongoDB exactly when they
agree on property and direction. -/
theorem renderings_keep :
    (∀ s : Option Sorting,
      (Elasticsearch.entries (Elasticsearch.clauses s)).length = (clausesOf s).length ∧
      (Mongo.keys s).length = (clausesOf s).length ∧
      ∀ (i : Nat) (c : Clause), (clausesOf s)[i]? = some c →
        (∃ entry, (Elasticsearch.entries (Elasticsearch.clauses s))[i]? = some entry ∧
          Elasticsearch.IsEntry c entry) ∧
        (Mongo.keys s)[i]? = some (c.property, Mongo.sign c.direction)) ∧
    (∀ s s' : Option Sorting,
      ((Datum.list (Elasticsearch.entries (Elasticsearch.clauses s))).same
          (.list (Elasticsearch.entries (Elasticsearch.clauses s'))) = true ↔
        (clausesOf s).map Elasticsearch.kept = (clausesOf s').map Elasticsearch.kept) ∧
      (Mongo.keys s = Mongo.keys s' ↔
        (clausesOf s).map Mongo.kept = (clausesOf s').map Mongo.kept)) := by
  refine ⟨fun s => ⟨?_, ?_, fun i c hc => ⟨?_, ?_⟩⟩, fun s s' => ⟨?_, Mongo.keys_eq_iff s s'⟩⟩
  · simp [Elasticsearch.entries_eq_map]
  · simp [Mongo.keys_eq]
  · exact ⟨_, by simp [Elasticsearch.entries_eq_map, hc], Elasticsearch.isEntry_toRecord c⟩
  · simp [Mongo.keys_eq, Mongo.kept, Mongo.key, hc]
  · exact Elasticsearch.same_entries_iff s s'

/-- By name, by price, and by name again. -/
def twiceByName (missing : NullPlacement) (ignoreCase : Bool) : Sorting :=
  ⟨[⟨"name", .ascending, .native, ignoreCase, by decide⟩, ⟨"price", .descending, missing, false, by decide⟩,
    ⟨"name", .descending, .native, false, by decide⟩]⟩

/-- The name keeps both its places. Whether its case counts shows in no rendering, and where missing prices
go only in the one for Elasticsearch. -/
theorem renderings_keep_twiceByName :
    (∃ entry, (Elasticsearch.entries (Elasticsearch.clauses (some (twiceByName .last true))))[2]? = some entry ∧
      Elasticsearch.IsEntry ⟨"name", .descending, .native, false, by decide⟩ entry) ∧
    (Mongo.keys (some (twiceByName .last true)))[2]? = some ("name", -1) ∧
    (Datum.list (Elasticsearch.entries (Elasticsearch.clauses (some (twiceByName .last true))))).same
      (.list (Elasticsearch.entries (Elasticsearch.clauses (some (twiceByName .last false))))) = true ∧
    (Datum.list (Elasticsearch.entries (Elasticsearch.clauses (some (twiceByName .last true))))).same
      (.list (Elasticsearch.entries (Elasticsearch.clauses (some (twiceByName .native true))))) = false ∧
    Mongo.keys (some (twiceByName .last true)) = Mongo.keys (some (twiceByName .native false)) := by
  obtain ⟨hentries, halike⟩ := renderings_keep
  obtain ⟨-, -, hat⟩ := hentries (some (twiceByName .last true))
  obtain ⟨hentry, hkey⟩ := hat 2 ⟨"name", .descending, .native, false, by decide⟩ rfl
  refine ⟨hentry, hkey, ?_, ?_, ?_⟩
  · exact (halike _ _).1.2 rfl
  · rw [Bool.eq_false_iff, Ne, (halike _ _).1]
    decide
  · exact (halike _ _).2.2 rfl

end SortPath
