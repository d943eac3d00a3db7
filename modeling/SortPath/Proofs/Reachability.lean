import Mathlib.Logic.Relation
import SortPath.Proofs.Annotations
import SortPath.Proofs.Registration
import SortPath.Sample

/-!
# Registration computes what models lead to

Registering a model notes it first and then registers the models that its stored fields lead to, one after
the other. So cycles end at a model that is noted already, and while the search goes on the registry is not
closed. When it has ended, the registry is exactly what the added models lead to.

`Visits next known seen pending after` is a depth-first search told by its rules: what is seen already, or
not known at all, is passed over, and anything else is noted and followed before what is pending behind it.
A search that ends has a derivation, and there is one answer at most. `Models.Refers` is the relation along
which registration goes on: a stored field has a declared model as its actual type. Whether the field is
excluded from serialization or refers to another aggregate does not count.

Results:
* `visits_discover`: discovery is the depth-first search.
* `Visits.reaches`: a search finds nothing that the pending elements do not lead to.
* `Registry.Closed.mem_managed_of_reaches`: a closed registry holds all that its models lead to.
* `Registry.addAll_computes_closure`: adding models one after the other registers what they lead to, in
  depth-first order; adding a registered model again changes nothing, and neither does another order of the
  models added, but for the order of registration.
-/
namespace SortPath

/-! ## Depth-first search -/

section
variable {α : Type} {next : α → List α} {known : α → Prop}
  {seen pending after after' xs ys unseen : List α} {a b : α}

/-- A depth-first search for the pending elements, with what is seen before and after it in the order in
which it was entered. -/
inductive Visits (next : α → List α) (known : α → Prop) : List α → List α → List α → Prop
  | done {seen : List α} : Visits next known seen [] seen
  | pass {seen rest after : List α} {a : α} :
      (known a → a ∈ seen) → Visits next known seen rest after → Visits next known seen (a :: rest) after
  | enter {seen inner rest after : List α} {a : α} :
      known a → a ∉ seen → Visits next known (seen ++ [a]) (next a) inner →
      Visits next known inner rest after → Visits next known seen (a :: rest) after

/-- A search for some elements and then for others is a search for all of them in a row. -/
theorem Visits.append_iff : Visits next known seen (xs ++ ys) after ↔
    ∃ mid, Visits next known seen xs mid ∧ Visits next known mid ys after := by
  constructor
  · intro h
    induction xs generalizing seen with
    | nil => exact ⟨seen, .done, h⟩
    | cons x xs ih =>
      cases h with
      | pass hp h =>
        obtain ⟨mid, hxs, hys⟩ := ih h
        exact ⟨mid, .pass hp hxs, hys⟩
      | enter hk hn hin h =>
        obtain ⟨mid, hxs, hys⟩ := ih h
        exact ⟨mid, .enter hk hn hin hxs, hys⟩
  · rintro ⟨mid, hxs, hys⟩
    induction hxs with
    | done => exact hys
    | pass hp _ ih => exact .pass hp (ih hys)
    | enter hk hn hin _ _ ih => exact .enter hk hn hin (ih hys)

theorem Visits.unique (h : Visits next known seen pending after)
    (h' : Visits next known seen pending after') : after = after' := by
  induction h generalizing after' with
  | done => cases h'; rfl
  | pass hp _ ih =>
    cases h' with
    | pass _ h' => exact ih h'
    | enter hk hn _ _ => exact absurd (hp hk) hn
  | enter hk hn _ _ ihin ih =>
    cases h' with
    | pass hp _ => exact absurd (hp hk) hn
    | enter _ _ hin h' =>
      obtain rfl := ihin hin
      exact ih h'

/-- What a search adds is something that the pending elements lead to. -/
theorem Visits.reaches (h : Visits next known seen pending after) (hb : b ∈ after) :
    b ∈ seen ∨ ∃ a ∈ pending, known a ∧ Relation.ReflTransGen (fun x y => y ∈ next x ∧ known y) a b := by
  induction h with
  | done => exact .inl hb
  | pass _ _ ih =>
    refine (ih hb).imp_right ?_
    rintro ⟨c, hc, hreach⟩
    exact ⟨c, List.mem_cons_of_mem _ hc, hreach⟩
  | @enter seen inner rest after a hk hn _ _ ihin ih =>
    rcases ih hb with hb | ⟨c, hc, hreach⟩
    · rcases ihin hb with hb | ⟨c, hc, hck, hreach⟩
      · rcases List.mem_append.1 hb with hb | hb
        · exact .inl hb
        · obtain rfl := List.mem_singleton.1 hb
          exact .inr ⟨b, List.mem_cons_self .., hk, .refl⟩
      · exact .inr ⟨a, List.mem_cons_self .., hk, .head ⟨hc, hck⟩ hreach⟩
    · exact .inr ⟨c, List.mem_cons_of_mem _ hc, hreach⟩

variable [DecidableEq α]

/-- What is not among the unseen elements is passed over. -/
theorem visits_of_dropWhile (hu : ∀ a, a ∈ unseen ↔ known a ∧ a ∉ seen)
    (h : Visits next known seen (pending.dropWhile (· ∉ unseen)) after) :
    Visits next known seen pending after := by
  induction pending with
  | nil => exact h
  | cons a pending ih =>
    by_cases ha : a ∈ unseen
    · simpa [ha] using h
    · have hp : known a → a ∈ seen := fun hk => Classical.byContradiction fun hn => ha ((hu a).2 ⟨hk, hn⟩)
      exact .pass hp (ih (by simpa [ha] using h))

/-- Discovery is the depth-first search. -/
theorem visits_discover (hn : unseen.Nodup) (hu : ∀ a, a ∈ unseen ↔ known a ∧ a ∉ seen) :
    Visits next known seen pending (seen ++ discover next unseen pending) := by
  fun_induction discover next unseen pending generalizing seen with
  | case1 unseen pending hf =>
    rw [List.append_nil]
    exact visits_of_dropWhile hu (hf ▸ .done)
  | case2 unseen pending a rest hf ih =>
    obtain ⟨hk, hseen⟩ := (hu a).1 (mem_of_dropWhile_notMem hf)
    have hu' : ∀ b, b ∈ unseen.erase a ↔ known b ∧ b ∉ seen ++ [a] := fun b => by
      rw [hn.mem_erase_iff, hu, List.mem_append, List.mem_singleton, not_or]
      exact ⟨fun h => ⟨h.2.1, h.2.2, h.1⟩, fun h => ⟨h.2.2, h.1, h.2.1⟩⟩
    -- What `a` leads to and what is pending behind it make one row for the discovery.
    obtain ⟨inner, hin, hrest⟩ := Visits.append_iff.1 (ih (hn.erase a) hu')
    rw [List.append_assoc, List.singleton_append] at hrest
    exact visits_of_dropWhile hu (hf ▸ .enter hk hseen hin hrest)

end

/-! ## References between models -/

namespace Models

def Declares (ms : Models) (n : String) : Prop := n ∈ ms.map (·.name)

/-- The models that the stored fields of a declared model lead to, in order of declaration. -/
def references (ms : Models) (n : String) : List String :=
  ((ms.find? n).map Model.references).getD []

/-- A stored field of the first model has the second one as its actual type, and both are declared. -/
def Refers (ms : Models) (n k : String) : Prop :=
  (∃ m, ms.find? n = some m ∧ ∃ f ∈ m.fields, f.isTransient = false ∧ f.property.actualType = .model k) ∧
    ms.Declares k

variable {ms : Models} {n k : String}

theorem declares_iff : ms.Declares n ↔ ∃ m, ms.find? n = some m := by
  constructor
  · intro h
    obtain ⟨m, hm, rfl⟩ := List.mem_map.1 h
    exact Option.isSome_iff_exists.1 (List.find?_isSome.2 ⟨m, hm, by simp⟩)
  · rintro ⟨m, hm⟩
    obtain rfl := name_of_find? hm
    exact List.mem_map_of_mem (List.mem_of_find?_eq_some hm)

theorem refers_iff : ms.Refers n k ↔ k ∈ ms.references n ∧ ms.Declares k := by
  refine and_congr_left fun _ => ?_
  rw [references]
  cases ms.find? n with
  | none => simp
  | some m =>
    simp only [Option.some.injEq, exists_eq_left', Option.map_some, Option.getD_some, Model.references,
      Model.stored, List.mem_filterMap, List.mem_filter, Bool.not_eq_true', TypeExpr.model?_eq_some_iff,
      and_assoc]

end Models

namespace Registry

variable {r r' : Registry} {n k name : String}

theorem visits_addModel (r : Registry) (name : String) :
    Visits r.models.references r.models.Declares r.managed [name] (r.addModel name).managed :=
  visits_discover (nodup_eraseDups _) fun _ => mem_unmanaged

theorem Closed.mem_managed_of_reaches (hc : r.Closed) (hn : n ∈ r.managed)
    (h : Relation.ReflTransGen r.models.Refers n k) : k ∈ r.managed := by
  induction h with
  | refl => exact hn
  | tail _ hstep ih =>
    obtain ⟨href, hdecl⟩ := Models.refers_iff.1 hstep
    exact hc _ ih _ href hdecl

theorem addModel_of_mem (h : name ∈ r.managed) : r.addModel name = r := by
  have hnone : discover r.references r.unmanaged [name] = [] := by
    rw [discover_cons, if_neg fun hu => (mem_unmanaged.1 hu).2 h, discover_nil]
  obtain ⟨ms, managed, nodup, declared⟩ := r
  simp only [addModel, hnone, List.append_nil]

theorem add_model {m : Model} (hm : r.models.find? name = some m) :
    r.add (some (.model name)) = .ok (m.entity, r.addModel name) := by
  obtain rfl := Models.name_of_find? hm
  rw [add, Repositories.bind_ofType?_eq_some_iff.2 ⟨rfl, hm⟩]

/-- The metadata of the registered models depends on which they are only. -/
theorem entity?_congr (hms : r.models = r'.models) (h : ∀ n, n ∈ r.managed ↔ n ∈ r'.managed) :
    r.entity? = r'.entity? := by
  funext t
  refine Option.ext fun e => ?_
  simp only [entity?_eq_some_iff, model?_eq_some_iff, hms, h]

/-! ## Adding models one after the other -/

/-- Add types one after the other. -/
def addAll (r : Registry) : List (Option TypeExpr) → Except NotAModel Registry
  | [] => .ok r
  | t? :: ts =>
    match r.add t? with
    | .ok (_, r') => r'.addAll ts
    | .error e => .error e

/-- Declared models can be added one after the other, which is one depth-first search. -/
theorem exists_addAll {roots : List String} (hroots : ∀ n ∈ roots, r.models.Declares n) :
    ∃ r', r.addAll (roots.map fun n => some (.model n)) = .ok r' ∧ r'.models = r.models ∧
      (r.Closed → r'.Closed) ∧ (∀ n ∈ roots, n ∈ r'.managed) ∧ r.managed ⊆ r'.managed ∧
      Visits r.models.references r.models.Declares r.managed roots r'.managed := by
  induction roots generalizing r with
  | nil => exact ⟨r, rfl, rfl, id, by simp, fun _ h => h, .done⟩
  | cons name roots ih =>
    obtain ⟨hname, hroots⟩ := List.forall_mem_cons.1 hroots
    obtain ⟨m, hm⟩ := Models.declares_iff.1 hname
    obtain ⟨r', hr', hms, hclosed, hmem, hsub, hvisits⟩ := ih (r := r.addModel name) hroots
    refine ⟨r', ?_, hms, fun hc => hclosed (hc.addModel name), ?_, fun n hn => ?_, ?_⟩
    · rw [List.map_cons, addAll, add_model hm]
      exact hr'
    · exact List.forall_mem_cons.2 ⟨hsub (mem_managed_addModel hname), hmem⟩
    · exact hsub (List.mem_append_left _ hn)
    · exact Visits.append_iff.2 ⟨_, r.visits_addModel name, hvisits⟩

/-- The registry holds what the roots lead to, and nothing else.

* `nodup`, `mem_iff`: each model once that is reachable from a root, and no other.
* `order_iff`: in the order of the depth-first search for the roots.
* `entity_iff`: with the stored fields of its declaration as properties, in their order.
* `again`: adding one of them again answers with its metadata and changes nothing. -/
structure Closure (ms : Models) (roots : List String) (r : Registry) : Prop where
  nodup : r.managed.Nodup
  mem_iff : ∀ n, n ∈ r.managed ↔ ∃ root ∈ roots, Relation.ReflTransGen ms.Refers root n
  order_iff : ∀ order, Visits ms.references ms.Declares [] roots order ↔ order = r.managed
  entity_iff : ∀ t e, r.entity? t = some e ↔ ∃ m, t = .model m.name ∧ ms.find? m.name = some m ∧
    m.name ∈ r.managed ∧ e = ⟨t, (m.fields.filter fun f => !f.isTransient).map Field.property⟩
  again : ∀ n ∈ r.managed, ∃ m, ms.find? n = some m ∧ r.add (some (.model n)) = .ok (m.entity, r)

theorem exists_closure (ms : Models) {roots : List String} (hroots : ∀ n ∈ roots, ms.Declares n) :
    ∃ r, (empty ms).addAll (roots.map fun n => some (.model n)) = .ok r ∧ r.models = ms ∧
      r.Closure ms roots := by
  obtain ⟨r, hr, hms, hclosed, hmem, -, hvisits⟩ := exists_addAll (r := empty ms) hroots
  have hms : r.models = ms := hms
  subst hms
  have hc := hclosed (closed_empty _)
  refine ⟨r, hr, rfl, r.nodup, fun n => ⟨fun hn => ?_, fun hn => ?_⟩, fun order => ⟨fun h => ?_, fun h => ?_⟩,
    fun t e => ?_, fun n hn => ?_⟩
  · rcases hvisits.reaches hn with hn | ⟨root, hroot, -, hreach⟩
    · cases hn
    · exact ⟨root, hroot, Relation.ReflTransGen.mono (fun _ _ => Models.refers_iff.2) _ _ hreach⟩
  · obtain ⟨root, hroot, hreach⟩ := hn
    exact hc.mem_managed_of_reaches (hmem root hroot) hreach
  · exact h.unique hvisits
  · exact h ▸ hvisits
  · rw [entity?_eq_some_iff]
    constructor
    · rintro ⟨m, hm, rfl⟩
      obtain ⟨rfl, hfind, hmem⟩ := model?_eq_some_iff.1 hm
      exact ⟨m, rfl, hfind, hmem, rfl⟩
    · rintro ⟨m, rfl, hfind, hmem, rfl⟩
      exact ⟨m, model?_eq_some_iff.2 ⟨rfl, hfind, hmem⟩, rfl⟩
  · obtain ⟨m, hm⟩ := Models.declares_iff.1 (r.declared n hn)
    exact ⟨m, hm, by rw [add_model hm, addModel_of_mem hn]⟩

/-- **Registration.** Declared models can be added one after the other, whatever cycles there are among
them, and the registry is then what they lead to: along the stored fields whose annotation holds a declared
model. Adding them in another order registers the same models with the same metadata. -/
theorem addAll_computes_closure (ms : Models) {roots : List String} (hroots : ∀ n ∈ roots, ms.Declares n) :
    (∀ n k, ms.Refers n k ↔ (∃ m, ms.find? n = some m ∧
      ∃ f ∈ m.fields, f.isTransient = false ∧ f.type.Holds k) ∧ ms.Declares k) ∧
    ∃ r, (empty ms).addAll (roots.map fun n => some (.model n)) = .ok r ∧ r.Closure ms roots ∧
      ∀ roots', roots.Perm roots' →
        ∃ r', (empty ms).addAll (roots'.map fun n => some (.model n)) = .ok r' ∧
          r.managed.Perm r'.managed ∧ r.entity? = r'.entity? := by
  obtain ⟨r, hr, hms, hclosure⟩ := exists_closure ms hroots
  refine ⟨fun n k => ?_, r, hr, hclosure, fun roots' hperm => ?_⟩
  · simp only [Models.Refers, ← TypeExpr.actualType_eq_model_iff]
    rfl
  · obtain ⟨r', hr', hms', hclosure'⟩ := exists_closure ms fun n hn => hroots n (hperm.mem_iff.2 hn)
    have hmem : ∀ n, n ∈ r.managed ↔ n ∈ r'.managed := fun n => by
      simp only [hclosure.mem_iff, hclosure'.mem_iff, hperm.mem_iff]
    exact ⟨r', hr', (List.perm_ext_iff_of_nodup r.nodup r'.nodup).2 hmem,
      entity?_congr (hms.trans hms'.symm) hmem⟩

end Registry

/-! ## A sample: books and their authors -/

namespace Sample

/-- A book leads to its author and to an excluded shelf. Its draft is not stored, and a dictionary leads
nowhere. -/
def book : Model :=
  ⟨"Book", "library", none,
    [field "draft" (.annotated (.model "Note") [.transient]),
     field "author" (.annotated (.union .named [.model "Author", .null]) [.association]),
     field "tags" (.applied .dictionary [text, .model "Tag"]),
     { field "shelf" (.model "Shelf") with options? := some { excluded := true } }], by decide⟩

/-- An author leads to books, also to those that are absent, but not through a union of two models or
through a list of lists. -/
def author : Model :=
  ⟨"Author", "library", none,
    [field "remark" (.union .barred [.model "Tag", .model "Note"]),
     field "rows" (.applied .list [.applied .list [.model "Tag"]]),
     field "books" (.applied .set [.union .named [.model "Book", .null]])], by decide⟩

def shelf : Model := ⟨"Shelf", "library", none, [field "books" (.applied .list [.model "Book"])], by decide⟩

def tag : Model := ⟨"Tag", "library", none, [field "text" text], by decide⟩

def note : Model := ⟨"Note", "library", none, [field "text" text], by decide⟩

def library : Models := [note, shelf, book, tag, author]

/-- From the author everything is registered but tags and notes, and the shelf by way of the book. -/
theorem addAll_computes_closure_library : (∀ n ∈ ["Author", "Shelf"], library.Declares n) ∧
    ∃ r, (Registry.empty library).addAll [some (.model "Author"), some (.model "Shelf")] = .ok r ∧
      r.managed = ["Author", "Book", "Shelf"] ∧ r.Closure library ["Author", "Shelf"] := by
  have hroots : ∀ n ∈ ["Author", "Shelf"], library.Declares n := by
    simp [Models.Declares, library, author, shelf]
  have hmanaged : ((Registry.empty library).addAll
      [some (.model "Author"), some (.model "Shelf")]).toOption.map Registry.managed =
        some ["Author", "Book", "Shelf"] := by
    decide +kernel
  obtain ⟨-, r, hr, hclosure, -⟩ := Registry.addAll_computes_closure library hroots
  refine ⟨hroots, r, hr, ?_, hclosure⟩
  rw [List.map_cons, List.map_cons, List.map_nil] at hr
  rw [hr] at hmanaged
  exact Option.some.inj hmanaged

end Sample

end SortPath
