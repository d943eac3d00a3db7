import SortPath.Catalog
import SortPath.Clause
import SortPath.PropertyPath

/-!
# Resolution of sortings

A request sorts by paths of external names; the store sorts by paths of property names. Resolution
walks the segments of each path through a `Catalog` of entities and mappings: a wrapped name takes
precedence over a flat one, an association is never crossed, and the walk goes on in the entity of the
declared type of the property reached last. A clause whose path leads nowhere is dropped.

The catalog is asked in a definite order: for the mappings of the root once, then per clause for one
entity at each accepted segment, and for the two mappings of that entity where another segment follows.

`Resolves` states when a path of segments leads somewhere, without the bookkeeping.

Results:
* `Mappings.finds_iff`: a name stands for a chain that is not empty exactly when this is looked up for it.
* `Catalog.walk_eq_some_iff`: the walk finds the names exactly when the segments resolve to them.
-/
namespace SortPath

/-- The properties that an external name stands for: its wrapped chain if there is one, else its flat
property. -/
def Mappings.chain {τ : Type} (m : Mappings τ) (name : String) : List (Property τ) :=
  match m.wrapped.chain? name with
  | some chain => chain
  | none => (m.flat.property? name).toList

/-- The chain for a segment, if it is not empty and free of associations. -/
def Mappings.step? {τ : Type} (m : Mappings τ) (segment : String) : Option (List (Property τ)) :=
  let chain := m.chain (PropertyPath.normalize segment)
  if chain = [] ∨ chain.any (·.isAssociation) then none else some chain

/-! ## Walking a path -/

namespace Catalog
variable {τ : Type} (c : Catalog τ)

/-- The property names along some segments, from an entity with the given mappings. -/
def walk (m : Mappings τ) : List String → Traced τ (Option (List String))
  | [] => pure (some [])
  | segment :: rest =>
    match m.step? segment with
    | none => pure none
    | some chain => do
      let names := chain.map (·.name)
      let next ← match chain.getLast? with
        | none => pure none
        | some last => c.fetchEntity last.type
      match rest with
      | [] => pure (some names)
      | _ :: _ =>
        match next with
        | none => pure none
        | some entity => do
          let m' ← c.fetchMappings entity
          let tail ← walk m' rest
          pure (tail.map (names ++ ·))

/-- The property names along a path; a path of delimiters only leads nowhere. -/
def walkPath (m : Mappings τ) (path : String) : Traced τ (Option (List String)) :=
  match PropertyPath.segments path with
  | [] => pure none
  | segments => c.walk m segments

end Catalog

/-! ## Resolving clauses -/

inductive ResolutionError
  | missingSorting
  | missingEntity
  /-- A clause would get a blank property. -/
  | blankProperty
deriving DecidableEq, Repr

def ResolutionError.message : ResolutionError → String
  | .missingSorting => "Sort must not be None"
  | .missingEntity => "PersistentEntity must not be None"
  | .blankProperty => (Rejection.mk [⟨"property", .blankProperty⟩]).message

/-- The property path of a chain of names. -/
def joinNames (names : List String) : String := ".".intercalate names

namespace Catalog
variable {τ : Type} (c : Catalog τ)

/-- The clauses whose paths lead somewhere, pointed at the property paths. -/
def resolveClauses (m : Mappings τ) : List Clause → Traced τ (Except ResolutionError (List Clause))
  | [] => pure (.ok [])
  | clause :: rest => do
    match ← c.walkPath m clause.property with
    | none => resolveClauses m rest
    | some names =>
      match clause.withProperty? (joinNames names) with
      | none => pure (.error .blankProperty)
      | some clause' => do
        let kept ← resolveClauses m rest
        pure (kept.map (clause' :: ·))

/-- The sorting by property paths for a root entity; `none` if every clause is dropped. -/
def resolve (sorting : Option Sorting) (root : Option (Entity τ)) :
    Traced τ (Except ResolutionError (Option Sorting)) :=
  match sorting, root with
  | none, _ => pure (.error .missingSorting)
  | some _, none => pure (.error .missingEntity)
  | some s, some e => do
    let m ← c.fetchMappings e
    let kept ← c.resolveClauses m s.clauses
    pure (kept.map Sorting.ofClauses?)

end Catalog

/-! ## When segments resolve -/

/-- A name stands for a chain: a wrapped name for its own, any other name for its flat property. -/
inductive Mappings.Finds {τ : Type} (m : Mappings τ) (name : String) : List (Property τ) → Prop
  | wrapped {chain : List (Property τ)} : m.wrapped.chain? name = some chain → Finds m name chain
  | flat {p : Property τ} : m.wrapped.chain? name = none → m.flat.property? name = some p →
      Finds m name [p]

/-- From an entity the segments lead to the names: each segment stands for a chain without an
association, and all but the last lead to the entity of the declared type of their last property. -/
inductive Resolves {τ : Type} (c : Catalog τ) : Entity τ → List String → List String → Prop
  | last {e : Entity τ} {segment : String} {chain : List (Property τ)} :
      (c.mappings e).Finds (PropertyPath.normalize segment) chain → chain ≠ [] →
      (∀ p ∈ chain, p.isAssociation = false) →
      Resolves c e [segment] (chain.map (·.name))
  | next {e e' : Entity τ} {segment : String} {chain : List (Property τ)} {last : Property τ}
      {rest names : List String} :
      (c.mappings e).Finds (PropertyPath.normalize segment) chain → chain.getLast? = some last →
      (∀ p ∈ chain, p.isAssociation = false) →
      c.entity? last.type = some e' → Resolves c e' rest names →
      Resolves c e (segment :: rest) (chain.map (·.name) ++ names)

theorem Mappings.Finds.unique {τ : Type} {m : Mappings τ} {name : String}
    {chain chain' : List (Property τ)} (h : m.Finds name chain) (h' : m.Finds name chain') :
    chain = chain' := by
  cases h with
  | wrapped h =>
    cases h' with
    | wrapped h' => rw [h] at h'; exact Option.some.inj h'
    | flat h' _ => rw [h] at h'; cases h'
  | flat h hp =>
    cases h' with
    | wrapped h' => rw [h] at h'; cases h'
    | flat _ hp' => rw [hp] at hp'; rw [Option.some.inj hp']

theorem Mappings.finds_iff {τ : Type} {m : Mappings τ} {name : String} {chain : List (Property τ)}
    (hne : chain ≠ []) : m.Finds name chain ↔ m.chain name = chain := by
  unfold Mappings.chain
  constructor
  · intro h
    cases h with
    | wrapped h => rw [h]
    | flat h1 h2 => rw [h1, h2]; rfl
  · intro h
    split at h
    · next h1 => exact .wrapped (h1.trans (congrArg some h))
    · next h1 =>
      cases hp : m.flat.property? name with
      | none => rw [hp] at h; exact absurd h.symm hne
      | some p => rw [hp] at h; subst h; exact .flat h1 hp

theorem Mappings.step?_eq_some_iff {τ : Type} {m : Mappings τ} {segment : String}
    {chain : List (Property τ)} :
    m.step? segment = some chain ↔ m.Finds (PropertyPath.normalize segment) chain ∧ chain ≠ [] ∧
      ∀ p ∈ chain, p.isAssociation = false := by
  simp only [step?]
  constructor
  · intro h
    split at h
    · cases h
    · next hn =>
      cases h
      simp only [List.any_eq_true, not_or, not_exists, not_and, Bool.not_eq_true] at hn
      exact ⟨(finds_iff hn.1).2 rfl, hn.1, hn.2⟩
  · intro h
    obtain ⟨hf, hne, ha⟩ := h
    rw [(finds_iff hne).1 hf, if_neg]
    simp only [List.any_eq_true, not_or, not_exists, not_and, Bool.not_eq_true]
    exact ⟨hne, ha⟩

theorem Resolves.segments_ne_nil {τ : Type} {c : Catalog τ} {e : Entity τ} {segments names : List String}
    (h : Resolves c e segments names) : segments ≠ [] := by
  cases h <;> simp

/-- The walk finds the names exactly when the segments resolve to them. -/
theorem Catalog.walk_eq_some_iff {τ : Type} {c : Catalog τ} {e : Entity τ} {segments names : List String}
    (hs : segments ≠ []) :
    (c.walk (c.mappings e) segments).value = some names ↔ Resolves c e segments names := by
  induction segments generalizing e names with
  | nil => exact absurd rfl hs
  | cons segment rest ih =>
    rw [walk]
    cases hstep : (c.mappings e).step? segment with
    | none =>
      have hno : ∀ chain, ¬((c.mappings e).Finds (PropertyPath.normalize segment) chain ∧ chain ≠ [] ∧
          ∀ p ∈ chain, p.isAssociation = false) := fun chain h => by
        rw [Mappings.step?_eq_some_iff.2 h] at hstep; cases hstep
      simp only [Traced.value_pure, reduceCtorEq, false_iff]
      intro h
      cases h with
      | last h1 h2 h3 => exact hno _ ⟨h1, h2, h3⟩
      | next h1 h2 h3 _ _ => exact hno _ ⟨h1, List.ne_nil_of_mem (List.mem_of_getLast? h2), h3⟩
    | some chain =>
      obtain ⟨hc, hne, ha⟩ := Mappings.step?_eq_some_iff.1 hstep
      obtain ⟨last, hlast⟩ : ∃ last, chain.getLast? = some last :=
        ⟨_, List.getLast?_eq_some_getLast hne⟩
      cases rest with
      | nil =>
        simp only [hlast, Traced.value_bind, Traced.value_pure, Option.some.injEq]
        constructor
        · intro h
          rw [← h]
          exact .last hc hne ha
        · intro h
          cases h with
          | last h1 _ _ => rw [hc.unique h1]
          | next _ _ _ _ h5 => exact absurd rfl h5.segments_ne_nil
      | cons s ss =>
        simp only [hlast, Catalog.fetchEntity, Traced.value_bind]
        cases he : c.entity? last.type with
        | none =>
          simp only [Traced.value_pure, reduceCtorEq, false_iff]
          intro h
          cases h with
          | next h1 h2 _ h4 _ =>
            obtain rfl := hc.unique h1
            rw [hlast] at h2; cases h2; rw [he] at h4; cases h4
        | some e' =>
          simp only [Catalog.fetchMappings, Traced.value_bind, Traced.value_pure,
            Option.map_eq_some_iff]
          constructor
          · intro h
            obtain ⟨tail, ht, rfl⟩ := h
            exact .next hc hlast ha he ((ih (by simp)).1 ht)
          · intro h
            cases h with
            | next h1 h2 _ h4 h5 =>
              obtain rfl := hc.unique h1
              rw [hlast] at h2; cases h2; rw [he] at h4; cases h4
              exact ⟨_, (ih (by simp)).2 h5, rfl⟩

end SortPath
