import SortPath.TypeExpr.Resolve

/-!
# Which annotations lead to a model

The stored type of a field is found inside the wrappers of its annotation: attached markers, and unions with
one member besides `null`. `Layer t ms u` says that `t` is one such wrapper around `u`, and `IsCore t` that
`t` is none. `Wraps n t` says that there is nothing but wrappers around the model `n`, and
`Holds n t` that there is the model or a collection of it, which may be wrapped and have wrapped elements.
No other type leads to a model: no dictionary, no union of several types, no collection of collections.

Results:
* `wrapper_induction`: the induction along the wrappers of an annotation.
* `isCore_core`: the type inside all wrappers is no wrapper.
* `core_eq_model_iff`: the type inside all wrappers is the model.
* `actualType_eq_model_iff`: the declared type, or for a collection that of the elements, is the model.
-/
namespace SortPath.TypeExpr

variable {t u : TypeExpr} {ts : List TypeExpr} {ms : List Marker} {n : String}

/-! ## Wrappers -/

theorem core_annotated (base : TypeExpr) (ms : List Marker) : core (.annotated base ms) = core base := by
  rw [core]

theorem core_model (n : String) : core (.model n) = .model n := by simp [core]

theorem core_applied (f : Former) (args : List TypeExpr) : core (.applied f args) = .applied f args := by
  simp [core]

/-- What goes through the members of a union for the first one that is not `null` finds the only one. -/
theorem eq_of_nonNull_eq {α : Type} {ofFirst : List TypeExpr → α} {ofType : TypeExpr → α}
    (hcons : ∀ t ts, ofFirst (t :: ts) = if t.isNull then ofFirst ts else ofType t) (h : nonNull ts = [t]) :
    ofFirst ts = ofType t := by
  induction ts with
  | nil => cases h
  | cons u ts ih =>
    rw [nonNull, List.filter_cons] at h
    rw [hcons]
    by_cases hu : u.isNull = true
    · rw [if_pos hu]
      exact ih (by simpa [nonNull, hu] using h)
    · rw [if_neg hu]
      simp only [hu, Bool.not_false, if_true, List.cons.injEq] at h
      rw [h.1]

theorem core_optional (style : UnionStyle) (h : nonNull ts = [t]) : core (.union style ts) = core t := by
  have hcons : ∀ u us, coreOfFirst (u :: us) = if u.isNull then coreOfFirst us else core u := fun u us => by
    rw [coreOfFirst]
  rw [core, if_pos (by rw [h]; rfl), eq_of_nonNull_eq hcons h]

theorem mem_of_nonNull_eq (h : nonNull ts = [t]) : t ∈ ts := by
  have ht : t ∈ nonNull ts := h ▸ List.mem_singleton_self t
  exact (List.mem_filter.1 ht).1

/-- The type `t` is a wrapper that carries the markers `ms`, directly around the type `u`. -/
inductive Layer : TypeExpr → List Marker → TypeExpr → Prop
  | annotated (base : TypeExpr) (ms : List Marker) : Layer (.annotated base ms) ms base
  | optional (style : UnionStyle) {ts : List TypeExpr} {t : TypeExpr} :
      nonNull ts = [t] → Layer (.union style ts) [] t

/-- The type is no wrapper. -/
def IsCore (t : TypeExpr) : Prop := ∀ ms u, ¬Layer t ms u

theorem Layer.core_eq (h : Layer t ms u) : core t = core u := by
  cases h with
  | annotated => exact core_annotated ..
  | optional _ hts => exact core_optional _ hts

theorem not_isCore_annotated (base : TypeExpr) (ms : List Marker) : ¬IsCore (.annotated base ms) :=
  fun h => h ms base (.annotated base ms)

theorem isCore_union_iff {style : UnionStyle} : IsCore (.union style ts) ↔ (nonNull ts).length ≠ 1 := by
  constructor
  · intro h hlen
    obtain ⟨t, ht⟩ := List.length_eq_one_iff.1 hlen
    exact h [] t (.optional style ht)
  · intro hlen ms u h
    cases h with
    | optional _ ht => exact hlen (by rw [ht]; rfl)

theorem IsCore.core_eq (h : IsCore t) : core t = t := by
  cases t with
  | annotated base ms => exact absurd h (not_isCore_annotated base ms)
  | union style ts => rw [core, if_neg (isCore_union_iff.1 h)]
  | _ => simp [core]

section
variable {P : TypeExpr → Prop}

mutual
@[elab_as_elim]
theorem wrapper_induction (annotated : ∀ base ms, P base → P (.annotated base ms))
    (optional : ∀ style ts t, nonNull ts = [t] → P t → P (.union style ts))
    (other : ∀ t, IsCore t → P t) : ∀ t, P t
  | .scalar _ | .model _ | .bare .. | .applied .. | .ellipsis | .literal _ => other _ nofun
  | .annotated base ms => annotated base ms (wrapper_induction annotated optional other base)
  | .union style ts => by
    by_cases hlen : (nonNull ts).length = 1
    · obtain ⟨t, ht⟩ := List.length_eq_one_iff.1 hlen
      exact optional style ts t ht
        (wrapper_induction_of_mem annotated optional other ts t (mem_of_nonNull_eq ht))
    · exact other _ (isCore_union_iff.2 hlen)

theorem wrapper_induction_of_mem (annotated : ∀ base ms, P base → P (.annotated base ms))
    (optional : ∀ style ts t, nonNull ts = [t] → P t → P (.union style ts))
    (other : ∀ t, IsCore t → P t) : ∀ ts : List TypeExpr, ∀ t ∈ ts, P t
  | [] => by simp
  | t :: ts => List.forall_mem_cons.2 ⟨wrapper_induction annotated optional other t,
      wrapper_induction_of_mem annotated optional other ts⟩
end

end

theorem isCore_core (t : TypeExpr) : IsCore (core t) := by
  induction t using wrapper_induction with
  | annotated base ms ih => rwa [core_annotated]
  | optional style ts t ht ih => rwa [core_optional style ht]
  | other t ht => rwa [ht.core_eq]

/-! ## Models -/

/-- The type is the model, perhaps with markers or optional. -/
inductive Wraps (n : String) : TypeExpr → Prop
  | model : Wraps n (.model n)
  | annotated {base : TypeExpr} {ms : List Marker} : Wraps n base → Wraps n (.annotated base ms)
  | optional {style : UnionStyle} {ts : List TypeExpr} {t : TypeExpr} :
      nonNull ts = [t] → Wraps n t → Wraps n (.union style ts)

/-- The type is the model or a collection whose elements are the model, perhaps with markers or optional
anywhere. -/
inductive Holds (n : String) : TypeExpr → Prop
  | value : Holds n (.model n)
  | elements {f : Former} {args : List TypeExpr} {t : TypeExpr} :
      f.isCollection = true → firstArgument args = some t → Wraps n t → Holds n (.applied f args)
  | annotated {base : TypeExpr} {ms : List Marker} : Holds n base → Holds n (.annotated base ms)
  | optional {style : UnionStyle} {ts : List TypeExpr} {t : TypeExpr} :
      nonNull ts = [t] → Holds n t → Holds n (.union style ts)

theorem core_eq_model_iff : core t = .model n ↔ Wraps n t := by
  constructor
  · intro h
    induction t using wrapper_induction with
    | annotated base ms ih => exact .annotated (ih (by rwa [core_annotated] at h))
    | optional style ts t ht ih => exact .optional ht (ih (by rwa [core_optional style ht] at h))
    | other t ht =>
      rw [ht.core_eq] at h
      rw [h]
      exact .model
  · intro h
    induction h with
    | model => exact core_model n
    | annotated _ ih => rw [core_annotated, ih]
    | optional ht _ ih => rw [core_optional _ ht, ih]

/-- What an annotation is declared as, or for a collection the type of its elements. -/
def actualType (t : TypeExpr) : TypeExpr := t.resolve.2.getD t.resolve.1

theorem actualType_congr (h : core t = core u) : actualType t = actualType u := by
  rw [actualType, actualType, resolve, resolve, h]

theorem actualType_eq_model_iff : actualType t = .model n ↔ Holds n t := by
  constructor
  · intro h
    induction t using wrapper_induction with
    | annotated base ms ih =>
      exact .annotated (ih (by rwa [actualType_congr (core_annotated base ms)] at h))
    | optional style ts t ht ih =>
      exact .optional ht (ih (by rwa [actualType_congr (core_optional style ht)] at h))
    | other t ht =>
      rw [actualType, resolve, ht.core_eq] at h
      cases t with
      | applied f args =>
        -- Only the elements of a collection can be the model, and not the former itself.
        by_cases hf : f.isCollection = true
        · simp only [hf, if_true, Option.getD_some] at h
          cases hfirst : firstArgument args with
          | none => simp [hfirst, any] at h
          | some t =>
            simp only [hfirst, Option.map_some, Option.getD_some] at h
            exact .elements hf hfirst (core_eq_model_iff.1 h)
        · simp [hf] at h
      | bare f capital => by_cases hf : f.isCollection = true <;> simp [hf, any] at h
      | literal values => cases h
      | model m =>
        cases h
        exact .value
      | _ => cases h
  · intro h
    induction h with
    | value => rw [actualType, resolve, core_model]; rfl
    | @elements f args t hf hfirst ht =>
      rw [actualType, resolve, core_applied]
      simp only [hf, if_true, hfirst, Option.map_some, Option.getD_some]
      exact core_eq_model_iff.2 ht
    | @annotated base ms _ ih => rw [actualType_congr (core_annotated base ms), ih]
    | @optional style ts t ht _ ih => rw [actualType_congr (core_optional style ht), ih]

end SortPath.TypeExpr
