import SortPath.Model
import SortPath.Proofs.Wrappers

/-!
# The markers and the type of a field come from the same wrappers

Two searches go through the annotation of a field, one for its stored type and one for its markers. They are
written apart, and a wrapper that only one of them looked through would cost the field a marker: an association
would count as an embedded value, or a transient field as a stored one.

`Peels t layers u` says that `u` is left when the wrappers of `t` are taken off one after the other, and which
markers each of them carries. `search` is the search for markers that also tells where it stops.

Results:
* `Peels.markers_eq`: what the wrappers that are taken off contribute to the search for markers.
* `exists_peels_core`, `Peels.unique`: the search for the type takes off all wrappers, in the only possible way.
* `search_eq`: the search for markers stops where the search for the type does.
* `Field.markers_layers`: the markers of a field are those of its wrappers, and it does not matter whether
  markers stand inside or around an optional type.
-/
namespace SortPath

namespace TypeExpr

variable {t u v : TypeExpr} {ts : List TypeExpr} {ms ns : List Marker} {layers layers' : List (List Marker)}

/-! ## The markers of a wrapper -/

theorem markers_optional (style : UnionStyle) (h : nonNull ts = [t]) : markers (.union style ts) = markers t := by
  have hcons : ∀ u us, markersOfFirst (u :: us) = if u.isNull then markersOfFirst us else markers u :=
    fun u us => by rw [markersOfFirst]
  rw [markers, if_pos (by rw [h]; rfl), eq_of_nonNull_eq hcons h]

theorem Layer.markers_eq (h : Layer t ms u) : markers t = ms ++ markers u := by
  cases h with
  | annotated => rw [markers]
  | optional _ hts => exact markers_optional _ hts

theorem IsCore.markers_eq (h : IsCore t) : markers t = [] := by
  cases t with
  | annotated base ms => exact absurd h (not_isCore_annotated base ms)
  | union style ts => rw [markers, if_neg (isCore_union_iff.1 h)]
  | _ => simp [markers]

theorem Layer.unique (h : Layer t ms u) (h' : Layer t ns v) : ms = ns ∧ u = v := by
  cases h with
  | annotated => cases h' with
    | annotated => exact ⟨rfl, rfl⟩
  | optional _ hts => cases h' with
    | optional _ hts' =>
      rw [hts, List.cons.injEq] at hts'
      exact ⟨rfl, hts'.1⟩

/-! ## Taking off wrappers -/

/-- The type `u` is left when some wrappers of `t` are taken off; they carry the given lists of markers, the
outermost first. -/
inductive Peels : TypeExpr → List (List Marker) → TypeExpr → Prop
  | done (t : TypeExpr) : Peels t [] t
  | layer {t u v : TypeExpr} {ms : List Marker} {layers : List (List Marker)} :
      Layer t ms u → Peels u layers v → Peels t (ms :: layers) v

theorem Peels.markers_eq (h : Peels t layers u) : markers t = layers.flatten ++ markers u := by
  induction h with
  | done => rfl
  | layer hlayer _ ih => rw [hlayer.markers_eq, ih, List.flatten_cons, List.append_assoc]

theorem exists_peels_core (t : TypeExpr) : ∃ layers, Peels t layers (core t) := by
  induction t using wrapper_induction with
  | annotated base ms ih =>
    obtain ⟨layers, h⟩ := ih
    exact ⟨ms :: layers, .layer (.annotated base ms) (core_annotated base ms ▸ h)⟩
  | optional style ts t ht ih =>
    obtain ⟨layers, h⟩ := ih
    exact ⟨[] :: layers, .layer (.optional style ht) (core_optional style ht ▸ h)⟩
  | other t ht =>
    rw [ht.core_eq]
    exact ⟨[], .done t⟩

theorem Peels.unique (h : Peels t layers u) (hu : IsCore u) (h' : Peels t layers' v) (hv : IsCore v) :
    layers = layers' ∧ u = v := by
  induction h generalizing layers' with
  | done =>
    cases h' with
    | done => exact ⟨rfl, rfl⟩
    | layer hlayer => exact absurd hlayer (hu _ _)
  | layer hlayer _ ih =>
    cases h' with
    | done => exact absurd hlayer (hv _ _)
    | layer hlayer' hrest =>
      obtain ⟨rfl, rfl⟩ := hlayer.unique hlayer'
      obtain ⟨rfl, rfl⟩ := ih hu hrest
      exact ⟨rfl, rfl⟩

/-! ## Searching for markers -/

mutual
/-- The markers of all wrappers, the outermost first, and the type at which the search for them stops. -/
def search : TypeExpr → List Marker × TypeExpr
  | .annotated base ms => (ms ++ (search base).1, (search base).2)
  | .union style ts => if (nonNull ts).length = 1 then searchFirst ts else ([], .union style ts)
  | t => ([], t)

/-- The search in the first type that is not `null`. -/
def searchFirst : List TypeExpr → List Marker × TypeExpr
  | [] => ([], .union .named [])
  | t :: ts => if t.isNull then searchFirst ts else search t
end

theorem IsCore.search_eq (h : IsCore t) : search t = ([], t) := by
  cases t with
  | annotated base ms => exact absurd h (not_isCore_annotated base ms)
  | union style ts => rw [search, if_neg (isCore_union_iff.1 h)]
  | _ => simp [search]

theorem search_eq (t : TypeExpr) : search t = (markers t, core t) := by
  induction t using wrapper_induction with
  | annotated base ms ih => rw [search, ih, markers, core_annotated]
  | optional style ts t ht ih =>
    have hcons : ∀ u us, searchFirst (u :: us) = if u.isNull then searchFirst us else search u :=
      fun u us => by rw [searchFirst]
    rw [search, if_pos (by rw [ht]; rfl), eq_of_nonNull_eq hcons ht, ih, markers_optional style ht,
      core_optional style ht]
  | other t ht => rw [ht.search_eq, ht.markers_eq, ht.core_eq]

/-! ## Markers and optional types -/

theorem markers_annotate (h : ∀ base ns, t ≠ .annotated base ns) (ms : List Marker) :
    markers (t.annotate ms) = ms ++ markers t := by
  cases ms with
  | nil => rw [annotate, List.nil_append]
  | cons m ms =>
    cases t with
    | annotated base ns => exact absurd rfl (h base ns)
    | _ => exact (Layer.annotated _ (m :: ms)).markers_eq

theorem Spelling.ne_annotated (s : Spelling) (hu : t.isRealUnion = false) (base : TypeExpr) (ns : List Marker) :
    s.apply t ≠ .annotated base ns := by
  obtain ⟨-, hnull⟩ | ⟨us, u, hus, -⟩ := s.apply_cases hu
  · rw [hnull]
    nofun
  · rw [hus]
    nofun

theorem Spelling.markers_apply (s : Spelling) (hu : t.isRealUnion = false) : markers (s.apply t) = markers t := by
  obtain ⟨rfl, hnull⟩ | ⟨us, u, hus, hone, hinner⟩ := s.apply_cases hu
  · rw [hnull]
  · rw [hus, markers_optional _ hone]
    obtain rfl | hinner := hinner
    · rfl
    · exact hinner.markers_eq.symm

/-- It is the same whether markers stand inside or around an optional type. -/
theorem markers_swap (s s' : Spelling) (ht : ∀ base ns, t ≠ .annotated base ns) (hu : t.isRealUnion = false)
    (ms : List Marker) : markers ((s.apply t).annotate ms) = markers (s'.apply (t.annotate ms)) :=
  calc markers ((s.apply t).annotate ms)
    _ = ms ++ markers (s.apply t) := markers_annotate (s.ne_annotated hu) ms
    _ = ms ++ markers t := by rw [s.markers_apply hu]
    _ = markers (t.annotate ms) := (markers_annotate ht ms).symm
    _ = markers (s'.apply (t.annotate ms)) := (s'.markers_apply ((covers_annotate t ms).notReal hu)).symm

theorem core_swap (s s' : Spelling) (hu : t.isRealUnion = false) (ms : List Marker) :
    core ((s.apply t).annotate ms) = core (s'.apply (t.annotate ms)) :=
  calc core ((s.apply t).annotate ms)
    _ = core (s.apply t) := (covers_annotate _ ms).core_eq
    _ = core t := (s.covers hu).core_eq
    _ = core (t.annotate ms) := (covers_annotate t ms).core_eq.symm
    _ = core (s'.apply (t.annotate ms)) := (s'.covers ((covers_annotate t ms).notReal hu)).core_eq.symm

/-! ## Fields -/

/-- The markers attached to the annotation as a whole. -/
def attached : TypeExpr → List Marker
  | .annotated _ ms => ms
  | _ => []

/-- The annotation without them. -/
def unmarked : TypeExpr → TypeExpr
  | .annotated base _ => base
  | t => t

theorem markers_eq_attached (t : TypeExpr) : markers t = t.attached ++ markers t.unmarked := by
  cases t with
  | annotated base ms => rw [markers, attached, unmarked]
  | _ => rfl

end TypeExpr

open TypeExpr

/-- Two fields are stored and serialized alike. -/
structure Field.Alike (f g : Field) : Prop where
  property : f.property = g.property
  isTransient : f.isTransient = g.isTransient
  isAssociation : f.isAssociation = g.isAssociation
  unwrapping? : f.unwrapping? = g.unwrapping?

theorem Field.alike_of_searches {f : Field} {t u : TypeExpr} (hmarkers : t.markers = u.markers)
    (hcore : t.core = u.core) : Alike { f with type := t } { f with type := u } := by
  have hresolve : t.resolve = u.resolve := resolve_congr hcore
  constructor <;>
    simp only [Field.property, Field.isTransient, Field.isAssociation, Field.unwrapping?, Field.markers,
      hmarkers, hresolve]

/-- The markers of a field are those attached to its annotation and then those of the wrappers that are taken off
on the way to its type, the outermost first; the search for them stops at this type.

So it does not matter whether markers stand inside or around an optional type. The type in question has no
markers yet, which would be merged with those around it, and is no real union, which `null` does not wrap. -/
theorem Field.markers_layers :
    (∀ f : Field, ∃ layers,
      f.markers = f.type.attached ++ layers.flatten ∧
      (∀ layers' u, (Peels f.type.unmarked layers' u ∧ IsCore u) ↔
        layers' = layers ∧ u = f.type.unmarked.core) ∧
      f.type.unmarked.search = (layers.flatten, f.type.unmarked.core)) ∧
    ∀ (f : Field) (s s' : Spelling) (t : TypeExpr) (ms : List Marker),
      (∀ base ns, t ≠ .annotated base ns) → t.isRealUnion = false →
      Alike { f with type := (s.apply t).annotate ms } { f with type := s'.apply (t.annotate ms) } := by
  refine ⟨fun f => ?_, fun f s s' t ms ht hu => ?_⟩
  · obtain ⟨layers, hpeels⟩ := exists_peels_core f.type.unmarked
    have hcore : IsCore f.type.unmarked.core := isCore_core _
    have hmarkers : f.type.unmarked.markers = layers.flatten := by
      rw [hpeels.markers_eq, hcore.markers_eq, List.append_nil]
    refine ⟨layers, ?_, fun layers' u => ⟨?_, ?_⟩, ?_⟩
    · rw [Field.markers, markers_eq_attached, hmarkers]
    · rintro ⟨h, hu⟩
      exact h.unique hu hpeels hcore
    · rintro ⟨rfl, rfl⟩
      exact ⟨hpeels, hcore⟩
    · rw [search_eq, hmarkers]
  · exact alike_of_searches (markers_swap s s' ht hu ms) (core_swap s s' hu ms)

/-- The owner of a thing is an association, whether the optional type or the type inside says so. -/
theorem Field.markers_layers_owner :
    let owner (t : TypeExpr) : Field := ⟨"owner", t, none⟩
    let account := TypeExpr.model "Account"
    (∀ base ns, account ≠ .annotated base ns) ∧ account.isRealUnion = false ∧
    Alike (owner (account.optional.annotate [.association]))
      (owner (Spelling.apply ⟨.barred, true⟩ (account.annotate [.association]))) := by
  intro owner account
  exact ⟨nofun, rfl,
    Field.markers_layers.2 (owner account) ⟨.named, false⟩ ⟨.barred, true⟩ account [.association] nofun rfl⟩

end SortPath
