import SortPath.Proofs.Reachability
import SortPath.Proofs.RepositoryRuns

/-!
# A registration that fails leaves no trace

Exposing a type looks up its path, registers the type with everything that it leads to, and writes both
tables. `Repositories.register` tells what comes out. Here it is told how it goes on, and what is left when
it stops: `Adds ms noted ts failure after` registers types one after the other, each with what its stored
properties lead to, and notes a model before it follows them; `rs.Performs t? path? outcome rs'` is the whole
call. A refusal anywhere ends it and leaves what has been noted so far. So it is not by the form of these
rules that a failed call leaves nothing behind. It leaves nothing since a model follows only properties whose
types are models themselves: the type that is asked for may be refused, before anything is noted, and no
other one can be.

Results:
* `adds_of_visits`, `Adds.unique`: types that are models are registered without a refusal, which is the
  depth-first search, and there is no other way for it to go.
* `performs_iff`: a call goes on in one way, to what `register` answers and `attempt` leaves.
* `register_eq_error_iff`: when a call fails, and with which of its reasons.
* `register_atomic`: what a call changes in repositories that a run of calls has made.
-/
namespace SortPath

/-! ## Registering step by step -/

/-- The actual types of the stored properties, as far as they are declared models. -/
def Models.targets (ms : Models) (m : Model) : List TypeExpr :=
  (m.stored.map fun f => f.property.actualType).filter fun t => (ms.ofType? t).isSome

/-- Types are registered one after the other, from what is noted before to what is noted after, until all of
them are or one is refused. A model is noted and then its targets are registered. -/
inductive Adds (ms : Models) :
    List String → List (Option TypeExpr) → Option Registry.NotAModel → List String → Prop
  | done {noted : List String} : Adds ms noted [] none noted
  | refused {noted : List String} {t? : Option TypeExpr} {ts : List (Option TypeExpr)} :
      t?.bind ms.ofType? = none → Adds ms noted (t? :: ts) (some ⟨t?⟩) noted
  | known {noted after : List String} {t? : Option TypeExpr} {ts : List (Option TypeExpr)} {m : Model}
      {failure : Option Registry.NotAModel} :
      t?.bind ms.ofType? = some m → m.name ∈ noted → Adds ms noted ts failure after →
      Adds ms noted (t? :: ts) failure after
  | entered {noted inner after : List String} {t? : Option TypeExpr} {ts : List (Option TypeExpr)}
      {m : Model} {failure : Option Registry.NotAModel} :
      t?.bind ms.ofType? = some m → m.name ∉ noted →
      Adds ms (noted ++ [m.name]) ((ms.targets m).map some) none inner → Adds ms inner ts failure after →
      Adds ms noted (t? :: ts) failure after
  | stopped {noted inner : List String} {t? : Option TypeExpr} {ts : List (Option TypeExpr)} {m : Model}
      {e : Registry.NotAModel} :
      t?.bind ms.ofType? = some m → m.name ∉ noted →
      Adds ms (noted ++ [m.name]) ((ms.targets m).map some) (some e) inner →
      Adds ms noted (t? :: ts) (some e) inner

section
variable {ms : Models} {m : Model} {n : String} {noted names after after' : List String}
  {ts : List (Option TypeExpr)} {failure failure' : Option Registry.NotAModel}

theorem Adds.unique (h : Adds ms noted ts failure after) (h' : Adds ms noted ts failure' after') :
    failure = failure' ∧ after = after' := by
  induction h generalizing failure' after' with
  | done =>
    cases h'
    exact ⟨rfl, rfl⟩
  | refused hnone =>
    cases h' with
    | refused => exact ⟨rfl, rfl⟩
    | known hm | entered hm | stopped hm => rw [hnone] at hm; cases hm
  | known hm hmem _ ih =>
    cases h' with
    | refused hnone => rw [hnone] at hm; cases hm
    | known hm' hmem' h' => exact ih h'
    | entered hm' hn | stopped hm' hn =>
      rw [hm] at hm'; cases hm'
      exact absurd hmem hn
  | entered hm hn _ _ ihin ih =>
    cases h' with
    | refused hnone => rw [hnone] at hm; cases hm
    | known hm' hmem =>
      rw [hm] at hm'; cases hm'
      exact absurd hmem hn
    | entered hm' _ hin h' =>
      rw [hm] at hm'; cases hm'
      obtain ⟨-, rfl⟩ := ihin hin
      exact ih h'
    | stopped hm' _ hin =>
      rw [hm] at hm'; cases hm'
      cases (ihin hin).1
  | stopped hm hn _ ihin =>
    cases h' with
    | refused hnone => rw [hnone] at hm; cases hm
    | known hm' hmem =>
      rw [hm] at hm'; cases hm'
      exact absurd hmem hn
    | entered hm' _ hin _ =>
      rw [hm] at hm'; cases hm'
      cases (ihin hin).1
    | stopped hm' _ hin =>
      rw [hm] at hm'; cases hm'
      exact ihin hin

/-- The declared ones of some names, as types. -/
def Models.declaredTypes (ms : Models) (names : List String) : List TypeExpr :=
  (names.filter fun n => (ms.find? n).isSome).map .model

theorem Models.declaredTypes_filterMap (ms : Models) (ts : List TypeExpr) :
    ms.declaredTypes (ts.filterMap (·.model?)) = ts.filter fun t => (ms.ofType? t).isSome := by
  induction ts with
  | nil => rfl
  | cons t ts ih =>
    cases hmodel : t.model? with
    | none =>
      have hno : (ms.ofType? t).isSome = false := by rw [Models.ofType?, hmodel]; rfl
      rw [List.filterMap_cons_none hmodel, List.filter_cons_of_neg (by simp [hno]), ih]
    | some n =>
      obtain rfl := TypeExpr.model?_eq_some_iff.1 hmodel
      have htype : ms.ofType? (.model n) = ms.find? n := rfl
      rw [List.filterMap_cons_some hmodel, List.filter_cons, htype, ← ih, Models.declaredTypes,
        List.filter_cons]
      split <;> rfl

theorem Models.targets_eq (hm : ms.find? n = some m) :
    ms.targets m = ms.declaredTypes (ms.references n) := by
  rw [Models.references, hm, Option.map_some, Option.getD_some, Model.references, Models.targets,
    ← Models.declaredTypes_filterMap, List.filterMap_map]
  rfl

/-- Declared models are registered without a refusal, in the order of the depth-first search. -/
theorem adds_of_visits (h : Visits ms.references ms.Declares noted names after) :
    Adds ms noted ((ms.declaredTypes names).map some) none after := by
  induction h with
  | done => exact .done
  | @pass noted names after n hp _ ih =>
    cases hfind : ms.find? n with
    | none => rwa [Models.declaredTypes, List.filter_cons_of_neg (by simp [hfind])]
    | some m =>
      rw [Models.declaredTypes, List.filter_cons_of_pos (by simp [hfind])]
      obtain rfl := Models.name_of_find? hfind
      exact .known (Repositories.bind_ofType?_eq_some_iff.2 ⟨rfl, hfind⟩)
        (hp (Models.declares_iff.2 ⟨m, hfind⟩)) ih
  | @enter noted inner names after n hk hn _ _ ihin ih =>
    obtain ⟨m, hfind⟩ := Models.declares_iff.1 hk
    rw [Models.declaredTypes, List.filter_cons_of_pos (by simp [hfind])]
    rw [← Models.targets_eq hfind] at ihin
    obtain rfl := Models.name_of_find? hfind
    exact .entered (Repositories.bind_ofType?_eq_some_iff.2 ⟨rfl, hfind⟩) hn ihin ih

end

namespace Registry

variable {r r' : Registry} {m : Model} {t? : Option TypeExpr} {failure : Option NotAModel}
  {after : List String}

theorem adds_iff_of_model (hm : t?.bind r.models.ofType? = some m) :
    Adds r.models r.managed [t?] failure after ↔ failure = none ∧ after = (r.addModel m.name).managed := by
  obtain ⟨rfl, hfind⟩ := Repositories.bind_ofType?_eq_some_iff.1 hm
  have hadds := adds_of_visits (r.visits_addModel m.name)
  rw [Models.declaredTypes, List.filter_cons_of_pos (by simp [hfind])] at hadds
  constructor
  · intro h
    exact h.unique hadds
  · rintro ⟨rfl, rfl⟩
    exact hadds

/-- What is no model is refused before anything is noted. -/
theorem adds_iff_of_no_model (hm : t?.bind r.models.ofType? = none) :
    Adds r.models r.managed [t?] failure after ↔ failure = some ⟨t?⟩ ∧ after = r.managed := by
  constructor
  · intro h
    exact h.unique (.refused hm)
  · rintro ⟨rfl, rfl⟩
    exact .refused hm

theorem eq_of_managed_eq (hms : r.models = r'.models) (hmanaged : r.managed = r'.managed) : r = r' := by
  cases r
  cases r'
  cases hms
  cases hmanaged
  rfl

end Registry

/-! ## Exposing a type step by step -/

namespace Repositories

variable {rs rs' rs₁ : Repositories} {t? : Option TypeExpr} {path? : Option String} {path p name : String}
  {outcome outcome' : Except RegistrationError String} {e : RegistrationError} {call : Call}
  {calls : List Call}

/-- The path leads to no other type. -/
def Free (rs : Repositories) (path : String) (t? : Option TypeExpr) : Prop :=
  ∀ owner, rs.byPath.get? path = some owner → t? = some (.model owner)

/-- The type is a declared model. -/
def IsModel (rs : Repositories) (t? : Option TypeExpr) : Prop :=
  ∃ name, t? = some (.model name) ∧ rs.registry.models.Declares name

/-- A call to expose a type, with its outcome and the repositories that it leaves. The path is looked up,
the type is registered and the tables are written, in this order. -/
inductive Performs (rs : Repositories) (t? : Option TypeExpr) (path? : Option String) :
    Except RegistrationError String → Repositories → Prop
  | nameless : pathFor? t? path? = none → Performs rs t? path? (.error (.nameless t?)) rs
  | taken {path owner : String} : pathFor? t? path? = some path → rs.byPath.get? path = some owner →
      t? ≠ some (.model owner) → Performs rs t? path? (.error (.pathTaken path owner)) rs
  | refused {path : String} {failure : Registry.NotAModel} {registry : Registry} :
      pathFor? t? path? = some path → rs.Free path t? →
      Adds rs.registry.models rs.registry.managed [t?] (some failure) registry.managed →
      registry.models = rs.registry.models →
      Performs rs t? path? (.error (.notAModel failure.type?)) { rs with registry }
  | exposed {path name : String} {registry : Registry} :
      pathFor? t? path? = some path → rs.Free path t? →
      Adds rs.registry.models rs.registry.managed [t?] none registry.managed →
      registry.models = rs.registry.models → t? = some (.model name) →
      Performs rs t? path? (.ok path) ⟨registry, rs.byPath.insert path name, rs.byModel.insert name path⟩

theorem isModel_iff : rs.IsModel t? ↔ ∃ m, t?.bind rs.registry.models.ofType? = some m := by
  simp only [IsModel, Models.declares_iff, bind_ofType?_eq_some_iff]
  constructor
  · rintro ⟨name, rfl, m, hm⟩
    obtain rfl := Models.name_of_find? hm
    exact ⟨m, rfl, hm⟩
  · rintro ⟨m, rfl, hm⟩
    exact ⟨m.name, rfl, m, hm⟩

theorem not_isModel_iff : ¬ rs.IsModel t? ↔ t?.bind rs.registry.models.ofType? = none := by
  rw [isModel_iff, Option.eq_none_iff_forall_ne_some, not_exists]

theorem filter_owner_eq_some_iff {owner? : Option String} {owner : String} :
    (owner?.filter fun owner => t?.bind (·.model?) ≠ some owner) = some owner ↔
      owner? = some owner ∧ t? ≠ some (.model owner) := by
  simp [Option.filter_eq_some_iff, Option.bind_eq_some_iff, TypeExpr.model?_eq_some_iff]

/-- A call fails without a path; where its path leads to another type, whatever the type is; and where the
type is no declared model. -/
theorem register_eq_error_iff : rs.register t? path? = .error e ↔
    (pathFor? t? path? = none ∧ e = .nameless t?) ∨
    ∃ path, pathFor? t? path? = some path ∧
      ((∃ owner, rs.byPath.get? path = some owner ∧ t? ≠ some (.model owner) ∧ e = .pathTaken path owner) ∨
        rs.Free path t? ∧ ¬ rs.IsModel t? ∧ e = .notAModel t?) := by
  rw [register]
  cases hpath : pathFor? t? path? with
  | none => simp [eq_comm]
  | some path =>
    simp only [reduceCtorEq, false_and, false_or, Option.some.injEq, exists_eq_left']
    cases howner : (rs.byPath.get? path).filter fun owner => t?.bind (·.model?) ≠ some owner with
    | some owner =>
      obtain ⟨htaken, hother⟩ := filter_owner_eq_some_iff.1 howner
      have hfree : ¬ rs.Free path t? := fun h => hother (h owner htaken)
      simp [htaken, hother, hfree, eq_comm]
    | none =>
      have hfree : rs.Free path t? := filter_owner_eq_none_iff.1 howner
      have htaken : ∀ owner, rs.byPath.get? path = some owner → ¬ t? ≠ some (.model owner) :=
        fun owner h hne => hne (hfree owner h)
      cases hm : t?.bind rs.registry.models.ofType? with
      | some m =>
        have hmodel : rs.IsModel t? := isModel_iff.2 ⟨m, hm⟩
        simp only [reduceCtorEq, hmodel, not_true_eq_false, false_and, and_false, or_false, false_iff]
        rintro ⟨owner, h, hne, -⟩
        exact htaken owner h hne
      | none =>
        have hmodel : ¬ rs.IsModel t? := not_isModel_iff.2 hm
        simp only [Except.error.injEq, hfree, hmodel, not_false_eq_true, true_and]
        constructor
        · intro h
          exact .inr h.symm
        · rintro (⟨owner, h, hne, -⟩ | rfl)
          · exact absurd hne (htaken owner h)
          · rfl

/-- A call goes on in one way, to what `register` answers and `attempt` leaves. -/
theorem performs_iff : rs.Performs t? path? outcome rs' ↔
    outcome = (rs.register t? path?).map Prod.fst ∧ rs' = rs.attempt (.register t? path?) := by
  constructor
  · intro h
    cases h with
    | nameless hpath =>
      have hr : rs.register t? path? = _ := register_eq_error_iff.2 (.inl ⟨hpath, rfl⟩)
      rw [attempt, hr]
      exact ⟨rfl, rfl⟩
    | taken hpath htaken hother =>
      have hr : rs.register t? path? = _ :=
        register_eq_error_iff.2 (.inr ⟨_, hpath, .inl ⟨_, htaken, hother, rfl⟩⟩)
      rw [attempt, hr]
      exact ⟨rfl, rfl⟩
    | refused hpath hfree hadds hms =>
      cases hm : t?.bind rs.registry.models.ofType? with
      | some m => cases ((Registry.adds_iff_of_model hm).1 hadds).1
      | none =>
        obtain ⟨hfailure, hmanaged⟩ := (Registry.adds_iff_of_no_model hm).1 hadds
        cases hfailure
        have hr : rs.register t? path? = _ :=
          register_eq_error_iff.2 (.inr ⟨_, hpath, .inr ⟨hfree, not_isModel_iff.2 hm, rfl⟩⟩)
        rw [attempt, hr, Registry.eq_of_managed_eq hms hmanaged]
        exact ⟨rfl, rfl⟩
    | @exposed path name registry hpath hfree hadds hms ht =>
      cases hm : t?.bind rs.registry.models.ofType? with
      | none => cases ((Registry.adds_iff_of_no_model hm).1 hadds).1
      | some m =>
        obtain ⟨-, hmanaged⟩ := (Registry.adds_iff_of_model hm).1 hadds
        obtain ⟨hname, hfind⟩ := bind_ofType?_eq_some_iff.1 hm
        obtain rfl : m.name = name := by simpa [ht] using hname.symm
        have hregistry : registry = rs.registry.addModel m.name := Registry.eq_of_managed_eq hms hmanaged
        have hr := register_eq_ok_iff.2 ⟨hpath, hfree, m, ht, hfind, rfl⟩
        rw [attempt, hr, hregistry]
        exact ⟨rfl, rfl⟩
  · rintro ⟨rfl, rfl⟩
    rw [attempt]
    cases hr : rs.register t? path? with
    | ok result =>
      obtain ⟨hpath, hfree, m, rfl, hm, hrs⟩ := register_eq_ok_iff.1 hr
      have hmodel := bind_ofType?_eq_some_iff.2 ⟨rfl, hm⟩
      dsimp only [Except.map]
      rw [hrs]
      exact .exposed hpath hfree ((Registry.adds_iff_of_model hmodel).2 ⟨rfl, rfl⟩) rfl rfl
    | error e =>
      dsimp only [Except.map]
      rcases register_eq_error_iff.1 hr with
        ⟨hpath, rfl⟩ | ⟨path, hpath, ⟨owner, htaken, hother, rfl⟩ | ⟨hfree, hno, rfl⟩⟩
      · exact .nameless hpath
      · exact .taken hpath htaken hother
      · exact .refused hpath hfree
          ((Registry.adds_iff_of_no_model (not_isModel_iff.1 hno)).2 ⟨rfl, rfl⟩) rfl

/-! ## What a call changes -/

theorem closed_attempt (h : rs.registry.Closed) (call : Call) : (rs.attempt call).registry.Closed := by
  cases call with
  | register t? path? =>
    cases hr : rs.register t? path? with
    | error e => rwa [attempt, hr]
    | ok result =>
      obtain ⟨-, -, m, -, -, hrs⟩ := register_eq_ok_iff.1 hr
      rw [attempt, hr]
      dsimp only
      rw [hrs]
      exact h.addModel m.name
  | add t? =>
    simp only [attempt, add, Registry.add]
    cases t?.bind rs.registry.models.ofType? with
    | none => exact h
    | some m => exact h.addModel m.name

theorem closed_run (h : rs.registry.Closed) (calls : List Call) : (rs.run calls).registry.Closed := by
  induction calls generalizing rs with
  | nil => exact h
  | cons call calls ih => exact ih (closed_attempt h call)

/-- The model is exposed under the path, and nothing else has changed: each table has one new entry, and the
models that are newly registered are those that the model leads to and that were not registered. -/
structure Exposes (rs : Repositories) (name path : String) (rs' : Repositories) : Prop where
  byPath : rs'.byPath = rs.byPath.insert path name
  byModel : rs'.byModel = rs.byModel.insert name path
  models : rs'.registry.models = rs.registry.models
  managed : ∃ new, rs'.registry.managed = rs.registry.managed ++ new ∧ ∀ n, n ∈ new ↔
    Relation.ReflTransGen rs.registry.models.Refers name n ∧ n ∉ rs.registry.managed
  kept : ∀ t e, rs.registry.entity? t = some e → rs'.registry.entity? t = some e

theorem mem_discover_iff {r : Registry} (hr : r.Closed) (hname : r.models.Declares name) (n : String) :
    n ∈ discover r.references r.unmanaged [name] ↔
      Relation.ReflTransGen r.models.Refers name n ∧ n ∉ r.managed := by
  constructor
  · intro hn
    have hnew : n ∉ r.managed := (Registry.mem_unmanaged.1 (mem_of_mem_discover hn)).2
    rcases (r.visits_addModel name).reaches (List.mem_append_right _ hn) with hm | ⟨root, hroot, -, hreach⟩
    · exact absurd hm hnew
    · obtain rfl := List.mem_singleton.1 hroot
      exact ⟨Relation.ReflTransGen.mono (fun _ _ => Models.refers_iff.2) _ _ hreach, hnew⟩
  · rintro ⟨hreach, hnew⟩
    have hmem : n ∈ (r.addModel name).managed :=
      (hr.addModel name).mem_managed_of_reaches (Registry.mem_managed_addModel hname) hreach
    exact (List.mem_append.1 hmem).resolve_left hnew

theorem exposes_of_register (hc : rs.registry.Closed) (hr : rs.register t? path? = .ok (path, rs')) :
    ∃ name, t? = some (.model name) ∧ rs.Exposes name path rs' := by
  obtain ⟨-, -, m, rfl, hm, rfl⟩ := register_eq_ok_iff.1 hr
  exact ⟨m.name, rfl, rfl, rfl, rfl, ⟨_, rfl, mem_discover_iff hc (Models.declares_iff.2 ⟨m, hm⟩)⟩,
    fun _ _ he => Registry.entity?_addModel_of_entity? he _⟩

theorem pathFor?_of_given {text : String} (h : text ≠ "") (t? : Option TypeExpr) :
    pathFor? t? (some text) = some (Text.trimSlashes text) := by
  rw [pathFor?, Option.filter_some_pos (by simpa using h)]
  rfl

theorem pathFor?_default (h : t?.bind (·.shortName?) = some name) (hpath : path? = none ∨ path? = some "") :
    pathFor? t? path? = some (Text.trimSlashes (Text.lower name ++ "s")) := by
  have hnone : path?.filter (· ≠ "") = none := by
    rcases hpath with rfl | rfl <;> rfl
  rw [pathFor?, hnone, defaultPath?, h]
  rfl

/-- **Registration is all or nothing.** In repositories that any calls have made, a call to expose a type
goes on in one way, which is told by `register` and `attempt`.
* The path is the text that is asked for, or if there is none or it is empty the name of the type in small
  letters and an `s`, each without the slashes around it.
* The call fails exactly if the path leads to another type, which is its reason then; or else if the type is
  no model, which is its reason then.
* A call that fails, for whatever reason, leaves the repositories as they were.
* Any other call answers with the path and exposes the type under it, and changes nothing else. -/
theorem register_atomic (ms : Models) (calls : List Call) (t? : Option TypeExpr) (path? : Option String) :
    let rs := (empty ms).run calls
    (∀ outcome rs', rs.Performs t? path? outcome rs' ↔
      outcome = (rs.register t? path?).map Prod.fst ∧ rs' = rs.attempt (.register t? path?)) ∧
    (∀ text, path? = some text → text ≠ "" → pathFor? t? path? = some (Text.trimSlashes text)) ∧
    (∀ name, t?.bind (·.shortName?) = some name → path? = none ∨ path? = some "" →
      pathFor? t? path? = some (Text.trimSlashes (Text.lower name ++ "s"))) ∧
    (∀ path, pathFor? t? path? = some path → ∀ e, rs.register t? path? = .error e ↔
      (∃ owner, rs.byPath.get? path = some owner ∧ t? ≠ some (.model owner) ∧ e = .pathTaken path owner) ∨
        (∀ owner, rs.byPath.get? path = some owner → t? = some (.model owner)) ∧
          (¬ ∃ name, t? = some (.model name) ∧ ms.Declares name) ∧ e = .notAModel t?) ∧
    (∀ e rs', rs.Performs t? path? (.error e) rs' → rs' = rs) ∧
    ∀ path rs', rs.Performs t? path? (.ok path) rs' →
      pathFor? t? path? = some path ∧ ∃ name, t? = some (.model name) ∧ rs.Exposes name path rs' := by
  intro rs
  have hms : rs.registry.models = ms := models_run
  have hclosed : rs.registry.Closed := closed_run (Registry.closed_empty ms) calls
  refine ⟨fun outcome rs' => performs_iff, fun text htext hne => htext ▸ pathFor?_of_given hne t?,
    fun name => pathFor?_default, fun path hpath e => ?_, fun e rs' h => ?_, fun path rs' h => ?_⟩
  · rw [register_eq_error_iff, hpath]
    simp only [reduceCtorEq, false_and, false_or, Option.some.injEq, exists_eq_left', Free, IsModel, hms]
  · obtain ⟨hr, rfl⟩ := performs_iff.1 h
    cases hrs : rs.register t? path? with
    | error e => rw [attempt, hrs]
    | ok result =>
      rw [hrs] at hr
      cases hr
  · obtain ⟨hr, rfl⟩ := performs_iff.1 h
    cases hrs : rs.register t? path? with
    | error e =>
      rw [hrs] at hr
      cases hr
    | ok result =>
      rw [hrs] at hr
      cases hr
      rw [attempt, hrs]
      exact ⟨register_path hrs, exposes_of_register hclosed hrs⟩

/-- Where profiles are exposed under `people`, people and texts are refused this path, and texts also the
default one. Under their own default path people are exposed, and the models that they lead to are registered
behind the profile, which is already. -/
theorem register_atomic_people :
    let rs := (empty Sample.models).run [.register (some (.model "Profile")) (some "/people/")]
    let people := some (TypeExpr.model "Person")
    let texts := some Sample.text
    pathFor? people (some "people//") = some "people" ∧ rs.byPath.get? "people" = some "Profile" ∧
    rs.Performs people (some "people//") (.error (.pathTaken "people" "Profile")) rs ∧
    rs.Performs texts (some "people") (.error (.pathTaken "people" "Profile")) rs ∧
    rs.Performs texts none (.error (.notAModel texts)) rs ∧
    ∃ rs', rs.Performs people (some "") (.ok "persons") rs' ∧ rs.Exposes "Person" "persons" rs' ∧
      rs'.registry.managed = ["Profile", "Person", "Name", "Address", "Account"] := by
  intro rs people texts
  have hatomic := register_atomic Sample.models [.register (some (.model "Profile")) (some "/people/")]
  have hpeople : pathFor? people (some "people//") = some "people" := by decide +kernel
  have htaken : rs.byPath.get? "people" = some "Profile" := by decide +kernel
  -- what fails is what the rules lead to, and leaves the repositories as they were
  have hfails : ∀ t? path? e, rs.register t? path? = .error e → rs.Performs t? path? (.error e) rs := by
    intro t? path? e hr
    obtain ⟨hperforms, -, -, -, hleaves, -⟩ := hatomic t? path?
    have h : rs.Performs t? path? (.error e) (rs.attempt (.register t? path?)) :=
      (hperforms _ _).2 ⟨by rw [hr]; rfl, rfl⟩
    rwa [hleaves e _ h] at h
  refine ⟨hpeople, htaken, hfails _ _ _ ?_, hfails _ _ _ ?_, hfails _ _ _ ?_, ?_⟩
  · obtain ⟨-, -, -, herror, -⟩ := hatomic people (some "people//")
    exact (herror "people" hpeople _).2 (.inl ⟨"Profile", htaken, by simp [people], rfl⟩)
  · obtain ⟨-, -, -, herror, -⟩ := hatomic texts (some "people")
    have hother : texts ≠ some (.model "Profile") := by simp [texts, Sample.text]
    exact (herror "people" (by decide +kernel) _).2 (.inl ⟨"Profile", htaken, hother, rfl⟩)
  · obtain ⟨-, -, -, herror, -⟩ := hatomic texts none
    have hfree : rs.byPath.get? "strs" = none := by decide +kernel
    have hfree' : ∀ owner, rs.byPath.get? "strs" = some owner → texts = some (.model owner) := by
      intro owner howner
      rw [hfree] at howner
      cases howner
    exact (herror "strs" (by decide +kernel) _).2 (.inr ⟨hfree', by simp [texts, Sample.text], rfl⟩)
  · obtain ⟨hperforms, -, -, -, -, hsucceeds⟩ := hatomic people (some "")
    have hr : (rs.register people (some "")).map Prod.fst = .ok "persons" := by with_unfolding_all rfl
    have h := (hperforms (.ok "persons") _).2 ⟨hr.symm, rfl⟩
    obtain ⟨-, name, hname, hexposes⟩ := hsucceeds _ _ h
    obtain rfl : "Person" = name := TypeExpr.model.inj (Option.some.inj hname)
    exact ⟨_, h, hexposes, by decide +kernel⟩

end Repositories

end SortPath
