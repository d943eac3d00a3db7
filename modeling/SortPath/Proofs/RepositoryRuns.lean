import SortPath.Proofs.Registration
import SortPath.Sample

/-!
# What repositories keep over a run of calls

Repositories are told by calls to expose types under paths, and to register types without exposing them.
A call that is refused changes nothing. A type may be exposed again under other paths: `byPath` keeps all
of them, `byModel` the last one only, so the tables are not inverse to each other. They are `Consistent`:
the path that is noted for a model leads to it, no path has slashes around it, and what a path leads to
has metadata.

`rs.Granted calls t path` tells that a call of the run has exposed the type and answered with the path.
What is exposed after a run, and under which paths, is what was before it and what the run has granted.

Results:
* `get?_byPath_register`, `contains_register`: what one registration adds to the tables.
* `Consistent.run`: calls keep repositories consistent.
* `get?_byPath_run_iff`, `contains_run_iff`: what a run adds to the tables.
* `run_consistent`: what holds of the repositories after every run.
-/
namespace SortPath.Repositories

variable {rs rs' : Repositories} {r : Registry} {t? : Option TypeExpr} {path? : Option String}
  {path p name : String} {t : TypeExpr}

/-! ## One registration -/

theorem contains_iff :
    rs.contains t = true ↔ ∃ name path, t = .model name ∧ rs.byModel.get? name = some path := by
  simp only [contains, Repositories.path?, Option.isSome_iff_exists, Option.bind_eq_some_iff,
    TypeExpr.model?_eq_some_iff]
  constructor
  · intro h
    obtain ⟨path, name, ht, hpath⟩ := h
    exact ⟨name, path, ht, hpath⟩
  · intro h
    obtain ⟨name, path, ht, hpath⟩ := h
    exact ⟨path, name, ht, hpath⟩

/-- A registration makes its path lead to its type, and changes no other path. -/
theorem get?_byPath_register (hr : rs.register t? path? = .ok (path, rs')) :
    rs'.byPath.get? p = some name ↔
      rs.byPath.get? p = some name ∨ t? = some (.model name) ∧ path = p := by
  obtain ⟨-, howner, m, rfl, -, rfl⟩ := register_eq_ok_iff.1 hr
  rw [Table.get?_insert]
  by_cases h : path = p
  · subst h
    -- a path that is taken is taken by the type itself
    have hname : rs.byPath.get? path = some name → m.name = name := fun hn => by
      simpa using howner name hn
    simp only [if_true, Option.some_inj, TypeExpr.model.injEq, and_true]
    exact ⟨.inr, fun h => h.elim hname id⟩
  · simp [h]

theorem contains_register (hr : rs.register t? path? = .ok (path, rs')) :
    rs'.contains t = true ↔ rs.contains t = true ∨ t? = some t := by
  obtain ⟨-, -, m, rfl, -, rfl⟩ := register_eq_ok_iff.1 hr
  simp only [contains_iff, Table.get?_insert]
  constructor
  · intro h
    obtain ⟨n, q, rfl, hq⟩ := h
    split at hq
    · next hn => exact .inr (by rw [hn])
    · exact .inl ⟨n, q, rfl, hq⟩
  · intro h
    rcases h with ⟨n, q, rfl, hq⟩ | h
    · by_cases hn : m.name = n
      · exact ⟨n, path, rfl, if_pos hn⟩
      · exact ⟨n, q, rfl, by rw [if_neg hn, hq]⟩
    · exact ⟨m.name, path, (Option.some.inj h).symm, if_pos rfl⟩

/-! ## Runs -/

inductive Call
  | register (t? : Option TypeExpr) (path? : Option String)
  | add (t? : Option TypeExpr)

/-- What a call leaves behind; one that is refused leaves what was there. -/
def attempt (rs : Repositories) : Call → Repositories
  | .register t? path? =>
    match rs.register t? path? with
    | .ok (_, rs') => rs'
    | .error _ => rs
  | .add t? =>
    match rs.add t? with
    | .ok (_, rs') => rs'
    | .error _ => rs

/-- What calls leave behind that are made one after the other. -/
def run (rs : Repositories) (calls : List Call) : Repositories := calls.foldl attempt rs

/-- The call exposes the type and answers with the path. -/
def Grants (rs : Repositories) (call : Call) (t : TypeExpr) (path : String) : Prop :=
  ∃ path? rs', call = .register (some t) path? ∧ rs.register (some t) path? = .ok (path, rs')

/-- A call of the run exposes the type and answers with the path. -/
def Granted (rs : Repositories) (calls : List Call) (t : TypeExpr) (path : String) : Prop :=
  ∃ before call later, calls = before ++ call :: later ∧ (rs.run before).Grants call t path

/-- Repositories in which nothing is exposed yet, over a registry that may hold models already. -/
def ofRegistry (r : Registry) : Repositories := ⟨r, .empty, .empty⟩

variable {call : Call} {calls : List Call}

theorem granted_cons :
    rs.Granted (call :: calls) t path ↔ rs.Grants call t path ∨ (rs.attempt call).Granted calls t path := by
  constructor
  · intro h
    obtain ⟨before, c, later, hcalls, hgrants⟩ := h
    rcases List.cons_eq_append_iff.1 hcalls with ⟨rfl, hlater⟩ | ⟨before, rfl, rfl⟩
    · cases hlater
      exact .inl hgrants
    · exact .inr ⟨before, c, later, rfl, hgrants⟩
  · intro h
    rcases h with hgrants | ⟨before, c, later, rfl, hgrants⟩
    · exact ⟨[], call, calls, rfl, hgrants⟩
    · exact ⟨call :: before, c, later, rfl, hgrants⟩

theorem not_granted_nil : ¬ rs.Granted [] t path := by
  intro h
  obtain ⟨before, call, later, hcalls, -⟩ := h
  simp at hcalls

/-! ## Steps -/

/-- A call either is a registration that succeeds, or grants nothing and leaves both tables and all
metadata. -/
theorem attempt_cases (rs : Repositories) (call : Call) :
    (∃ t? path? path, call = .register t? path? ∧ rs.register t? path? = .ok (path, rs.attempt call)) ∨
      (∀ t path, ¬ rs.Grants call t path) ∧ (rs.attempt call).byPath = rs.byPath ∧
        (rs.attempt call).byModel = rs.byModel ∧
        (rs.attempt call).registry.models = rs.registry.models ∧
        ∀ t e, rs.registry.entity? t = some e → (rs.attempt call).registry.entity? t = some e := by
  cases call with
  | register t? path? =>
    cases h : rs.register t? path? with
    | ok result =>
      have hattempt : rs.attempt (.register t? path?) = result.2 := by rw [attempt, h]
      exact .inl ⟨t?, path?, result.1, rfl, by rw [hattempt, h]⟩
    | error e =>
      have hattempt : rs.attempt (.register t? path?) = rs := by rw [attempt, h]
      rw [hattempt]
      refine .inr ⟨?_, rfl, rfl, rfl, fun _ _ he => he⟩
      intro t path hgrants
      obtain ⟨path?', rs', hcall, hr⟩ := hgrants
      cases hcall
      rw [h] at hr
      cases hr
  | add t? =>
    refine .inr ⟨?_, ?_⟩
    · intro t path hgrants
      obtain ⟨path?, rs', hcall, -⟩ := hgrants
      cases hcall
    · simp only [attempt, add, Registry.add]
      cases t?.bind rs.registry.models.ofType? with
      | none => exact ⟨rfl, rfl, rfl, fun _ _ he => he⟩
      | some m => exact ⟨rfl, rfl, rfl, fun _ _ he => Registry.entity?_addModel_of_entity? he _⟩

theorem grants_register_iff (hr : rs.register t? path? = .ok (path, rs')) :
    rs.Grants (.register t? path?) t p ↔ t? = some t ∧ path = p := by
  constructor
  · intro hgrants
    obtain ⟨q?, rs₁, hcall, h⟩ := hgrants
    cases hcall
    rw [hr] at h
    cases h
    exact ⟨rfl, rfl⟩
  · intro h
    obtain ⟨rfl, rfl⟩ := h
    exact ⟨path?, rs', rfl, hr⟩

theorem get?_byPath_attempt_iff : (rs.attempt call).byPath.get? p = some name ↔
    rs.byPath.get? p = some name ∨ rs.Grants call (.model name) p := by
  rcases attempt_cases rs call with ⟨t?, path?, path, rfl, hr⟩ | ⟨hnone, hpath, -⟩
  · rw [get?_byPath_register hr, grants_register_iff hr]
  · simp [hpath, hnone]

theorem contains_attempt_iff : (rs.attempt call).contains t = true ↔
    rs.contains t = true ∨ ∃ path, rs.Grants call t path := by
  rcases attempt_cases rs call with ⟨t?, path?, path, rfl, hr⟩ | ⟨hnone, -, hmodel, -⟩
  · simp [contains_register hr, grants_register_iff hr]
  · simp [contains_iff, hmodel, hnone]

theorem models_attempt : (rs.attempt call).registry.models = rs.registry.models := by
  rcases attempt_cases rs call with ⟨t?, path?, path, rfl, hr⟩ | ⟨-, -, -, hmodels, -⟩
  · obtain ⟨-, -, m, -, -, hrs⟩ := register_eq_ok_iff.1 hr
    rw [hrs]
    rfl
  · exact hmodels

/-- The path noted for a model leads to it, no path has slashes around it, and what a path leads to is
exposed and has metadata. -/
structure Consistent (rs : Repositories) : Prop where
  back : ∀ name path, rs.byModel.get? name = some path → rs.byPath.get? path = some name
  bare : ∀ path name, rs.byPath.get? path = some name → Text.Bare path
  sound : rs.Sound

theorem consistent_ofRegistry (r : Registry) : (ofRegistry r).Consistent where
  back _ _ h := by cases h
  bare _ _ h := by cases h
  sound _ _ h := by cases h

theorem bare_of_pathFor? (h : pathFor? t? path? = some path) : Text.Bare path := by
  obtain ⟨text, -, rfl⟩ := Option.map_eq_some_iff.1 h
  exact Text.bare_trimSlashes text

theorem Consistent.register (h : rs.Consistent) (hr : rs.register t? path? = .ok (path, rs')) :
    rs'.Consistent where
  back name p hp := by
    rw [get?_byPath_register hr]
    obtain ⟨-, -, m, rfl, -, rfl⟩ := register_eq_ok_iff.1 hr
    rw [Table.get?_insert] at hp
    split at hp
    · next hname =>
      cases hp
      exact .inr ⟨by rw [hname], rfl⟩
    · exact .inl (h.back name p hp)
  bare p name hp := by
    rcases (get?_byPath_register hr).1 hp with hp | ⟨-, rfl⟩
    · exact h.bare p name hp
    · exact bare_of_pathFor? (register_path hr)
  sound := h.sound.register hr

theorem Consistent.attempt (h : rs.Consistent) (call : Call) : (rs.attempt call).Consistent := by
  rcases attempt_cases rs call with ⟨t?, path?, path, rfl, hr⟩ | ⟨-, hpath, hmodel, -, hkeeps⟩
  · exact h.register hr
  · refine ⟨by rw [hpath, hmodel]; exact h.back, by rw [hpath]; exact h.bare, ?_⟩
    intro path name hp
    rw [hpath] at hp
    obtain ⟨e, he⟩ := h.sound path name hp
    obtain ⟨⟨q, hq⟩, he⟩ := entity?_eq_some_iff.1 he
    exact ⟨e, entity?_eq_some_iff.2 ⟨⟨q, by rw [hmodel, hq]⟩, hkeeps _ _ he⟩⟩

/-! ## What runs keep -/

theorem Consistent.run (h : rs.Consistent) (calls : List Call) : (rs.run calls).Consistent := by
  induction calls generalizing rs with
  | nil => exact h
  | cons call calls ih => exact ih (h.attempt call)

theorem models_run : (rs.run calls).registry.models = rs.registry.models := by
  induction calls generalizing rs with
  | nil => rfl
  | cons call calls ih => exact ih.trans models_attempt

/-- A path leads to what it led to before the run, or else to what the run has exposed under it. -/
theorem get?_byPath_run_iff : (rs.run calls).byPath.get? p = some name ↔
    rs.byPath.get? p = some name ∨ rs.Granted calls (.model name) p := by
  induction calls generalizing rs with
  | nil => simp [run, not_granted_nil]
  | cons call calls ih =>
    have hstep : (rs.run (call :: calls)) = (rs.attempt call).run calls := rfl
    rw [hstep, ih, get?_byPath_attempt_iff, granted_cons, or_assoc]

theorem contains_run_iff : (rs.run calls).contains t = true ↔
    rs.contains t = true ∨ ∃ path, rs.Granted calls t path := by
  induction calls generalizing rs with
  | nil => simp [run, not_granted_nil]
  | cons call calls ih =>
    have hstep : (rs.run (call :: calls)) = (rs.attempt call).run calls := rfl
    simp only [hstep, ih, contains_attempt_iff, granted_cons, or_assoc, exists_or]

theorem modelAt?_append {a b : String} (ha : Text.Slashes a) (hb : Text.Slashes b)
    (hpath : Text.Bare path) : rs.modelAt? (a ++ path ++ b) = rs.byPath.get? path := by
  rw [modelAt?, Text.trimSlashes_eq_iff.2 ⟨hpath, a, b, ha, hb, rfl⟩]

theorem modelAt?_of_bare (hpath : Text.Bare path) : rs.modelAt? path = rs.byPath.get? path := by
  rw [modelAt?, Text.trimSlashes_of_bare hpath]

theorem exists_model_of_entity? {e : Entity TypeExpr} (h : rs.entity? (.model name) = some e) :
    ∃ m, rs.registry.models.find? name = some m ∧ m.entity = e := by
  obtain ⟨m, hm, he⟩ := Registry.entity?_eq_some_iff.1 (entity?_eq_some_iff.1 h).2
  obtain ⟨hname, hfind, -⟩ := Registry.model?_eq_some_iff.1 hm
  cases hname
  exact ⟨m, hfind, he⟩

theorem Consistent.contains_of_byPath (h : rs.Consistent) (hp : rs.byPath.get? path = some name) :
    rs.contains (.model name) = true := by
  obtain ⟨e, he⟩ := h.sound path name hp
  obtain ⟨⟨q, hq⟩, -⟩ := entity?_eq_some_iff.1 he
  exact contains_iff.2 ⟨name, q, rfl, hq⟩

/-- An exposed type is a model that has metadata. -/
theorem Consistent.exists_entity? (h : rs.Consistent) (ht : rs.contains t = true) :
    ∃ m, t = .model m.name ∧ rs.registry.models.find? m.name = some m ∧
      rs.entity? t = some m.entity := by
  obtain ⟨name, path, rfl, hname⟩ := contains_iff.1 ht
  obtain ⟨e, he⟩ := h.sound path name (h.back name path hname)
  obtain ⟨m, hfind, rfl⟩ := exists_model_of_entity? he
  obtain rfl := Models.name_of_find? hfind
  exact ⟨m, rfl, hfind, he⟩

theorem entity?_of_not_contains (ht : ¬ rs.contains t = true) : rs.entity? t = none := by
  rw [entity?, if_neg ht]

theorem exists_model_of_granted (h : rs.Granted calls t path) : ∃ name, t = .model name := by
  obtain ⟨before, call, later, -, path?, rs', -, hr⟩ := h
  obtain ⟨-, -, m, ht, -, -⟩ := register_eq_ok_iff.1 hr
  exact ⟨m.name, Option.some.inj ht⟩

theorem bare_of_granted (h : rs.Granted calls t path) : Text.Bare path := by
  obtain ⟨before, call, later, -, path?, rs', -, hr⟩ := h
  exact bare_of_pathFor? (register_path hr)

/-- **What holds after every run.** Let nothing be exposed over any registry, and let any calls be made, some
of which may be refused.
* The path that is noted for an exposed type leads to this type.
* A path, with any slashes around it, leads to a model that is exposed, and the metadata that is answered
  for this model is its own.
* No path begins or ends with a slash.
* What a path leads to does not change with further calls. The path that a call has answered with leads
  to the type that it was called for.
* No metadata is answered for a type that no call has exposed, registered or not. -/
theorem run_consistent (r : Registry) (calls : List Call) :
    let rs := (ofRegistry r).run calls
    (∀ t, rs.contains t = true →
      ∃ path, rs.path? t = some path ∧ (rs.modelAt? path).map .model = some t) ∧
    (∀ path ∈ rs.paths, ∀ a b, Text.Slashes a → Text.Slashes b →
      ∃ name m, rs.modelAt? (a ++ path ++ b) = some name ∧ rs.contains (.model name) = true ∧
        r.models.find? name = some m ∧ rs.entity? (.model name) = some m.entity) ∧
    (∀ path ∈ rs.paths, Text.Bare path) ∧
    (∀ later text name, rs.modelAt? text = some name → (rs.run later).modelAt? text = some name) ∧
    (∀ later t path, (ofRegistry r).Granted calls t path →
      ((rs.run later).modelAt? path).map .model = some t) ∧
    ∀ t, (∀ path, ¬ (ofRegistry r).Granted calls t path) → rs.entity? t = none := by
  intro rs
  have hrs : rs.Consistent := (consistent_ofRegistry r).run calls
  have hleads : ∀ path ∈ rs.paths, ∃ name, rs.byPath.get? path = some name := fun path hp =>
    Option.isSome_iff_exists.1 (Table.contains_iff.2 hp)
  refine ⟨fun t ht => ?_, fun path hp a b ha hb => ?_, fun path hp => ?_, fun later text name h => ?_,
    fun later t path h => ?_, fun t h => ?_⟩
  · obtain ⟨name, path, rfl, hname⟩ := contains_iff.1 ht
    have hpath := hrs.back name path hname
    exact ⟨path, hname, by rw [modelAt?_of_bare (hrs.bare path name hpath), hpath, Option.map_some]⟩
  · obtain ⟨name, hname⟩ := hleads path hp
    have hexposed : rs.contains (.model name) = true := hrs.contains_of_byPath hname
    obtain ⟨m, hm, hfind, he⟩ := hrs.exists_entity? hexposed
    cases hm
    have hmodels : rs.registry.models = r.models := models_run
    exact ⟨m.name, m, (modelAt?_append ha hb (hrs.bare path _ hname)).trans hname, hexposed,
      hmodels ▸ hfind, he⟩
  · obtain ⟨name, hname⟩ := hleads path hp
    exact hrs.bare path name hname
  · exact get?_byPath_run_iff.2 (.inl h)
  · obtain ⟨name, rfl⟩ := exists_model_of_granted h
    have hpath : (rs.run later).byPath.get? path = some name :=
      get?_byPath_run_iff.2 (.inl (get?_byPath_run_iff.2 (.inr h)))
    rw [modelAt?_of_bare ((hrs.run later).bare path name hpath), hpath, Option.map_some]
  · refine entity?_of_not_contains ?_
    rw [contains_run_iff, not_or, not_exists]
    exact ⟨by simp [contains_iff, ofRegistry, Table.get?_empty], h⟩

/-- People are exposed under two paths, one after the other; a profile is refused the first of them and
only registered. -/
def sampleCalls : List Call :=
  [.register (some (.model "Person")) (some "/people/"),
   .register (some (.model "Account")) none,
   .register (some (.model "Profile")) (some "people"),
   .register (some Sample.text) none,
   .add (some (.model "Profile")),
   .register (some (.model "Person")) (some "//persons/")]

/-- The first path of people outlives the second. -/
theorem run_consistent_people :
    let start := ofRegistry (Registry.empty Sample.models)
    let rs := start.run sampleCalls
    rs.paths = ["people", "accounts", "persons"] ∧ rs.path? (.model "Person") = some "persons" ∧
    start.Granted sampleCalls (.model "Person") "people" ∧
    (∀ later, ((rs.run later).modelAt? "people").map TypeExpr.model = some (.model "Person")) ∧
    (∃ m, rs.modelAt? "//people/" = some "Person" ∧ rs.contains (.model "Person") = true ∧
      Sample.models.find? "Person" = some m ∧ rs.entity? (.model "Person") = some m.entity) ∧
    (rs.registry.entity? (.model "Profile")).isSome = true ∧ rs.entity? (.model "Profile") = none := by
  intro start rs
  obtain ⟨-, hpaths, -, -, hforever, hnone⟩ := run_consistent (Registry.empty Sample.models) sampleCalls
  have hkeys : rs.paths = ["people", "accounts", "persons"] := by decide +kernel
  have hpeople : start.Granted sampleCalls (.model "Person") "people" :=
    ⟨[], _, _, rfl, some "/people/", _, rfl, by with_unfolding_all rfl⟩
  refine ⟨hkeys, by decide +kernel, hpeople, fun later => hforever later _ _ hpeople, ?_, ?_, ?_⟩
  · obtain ⟨name, m, hname, hrest⟩ :=
      hpaths "people" (by rw [hkeys]; simp) "//" "/" (by decide) (by decide)
    have hperson : rs.modelAt? ("//" ++ "people" ++ "/") = some "Person" := by decide +kernel
    obtain rfl : name = "Person" := Option.some.inj (hname.symm.trans hperson)
    exact ⟨m, hname, hrest⟩
  · decide +kernel
  · refine hnone _ fun path h => ?_
    have hexposed : rs.contains (.model "Profile") = true := contains_run_iff.2 (.inr ⟨path, h⟩)
    exact absurd hexposed (by decide +kernel)

end SortPath.Repositories
