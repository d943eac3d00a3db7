import SortPath.Proofs.Unwrapping

/-!
# How deep unwrapping goes

The types of unwrapped fields may lead back to each other, by themselves or by their collections. The walk
down such fields is kept from going round by the types around it: it enters the type of a field only if that
is registered and not one of them. There is no list of all the types that have been entered, so a type may be
entered again from elsewhere, and the bound is one on each way down.

A `Frame` is where the walk stands: the types around it and the properties that it goes through. `Enters`
leads from a frame into one of an unwrapped property, and `Nests n` does so `n` times. What gets smaller on
the way is `outside`, the registered types that are not around.

Results:
* `found_eq`: the walk told by the types around it, one frame after the other.
* `Enters.length_outside_lt`: on the way down fewer and fewer registered types are left.
* `exists_nests_of_mem_found`: a chain has one property for each frame on the way to it.
* `unwrapping_terminates`: there is no endless way down, from whatever type the walk starts, and how long the
  ways and the chains are at most.
-/
namespace SortPath.Registry

/-- Where the walk stands: the types around it, the innermost first, and the serialized properties that it
goes through. -/
structure Frame where
  around : List TypeExpr
  properties : List Model.Exposed

variable {r : Registry} {byAlias inside : Bool} {v v' : Frame} {x : Model.Exposed} {around : List TypeExpr}
  {name : String} {n : Nat}

/-- The registered types that are not around. -/
def outside (r : Registry) (around : List TypeExpr) : List String :=
  r.managed.filter fun name => !around.any fun t => t.model? = some name

/-- The frame of a property's actual type, if that is registered and not around. -/
def entered? (r : Registry) (byAlias : Bool) (v : Frame) (x : Model.Exposed) : Option Frame :=
  match r.model? x.property.actualType with
  | some m =>
    if m.name ∈ r.outside v.around then some ⟨.model m.name :: v.around, m.exposed byAlias⟩ else none
  | none => none

/-- The walk goes down from one frame into another, by an unwrapped property. -/
def Enters (r : Registry) (byAlias : Bool) (v v' : Frame) : Prop :=
  ∃ x ∈ v.properties, x.unwrapping?.isSome ∧ r.entered? byAlias v x = some v'

/-- The walk goes down `n` times from one frame to another. -/
inductive Nests (r : Registry) (byAlias : Bool) : Nat → Frame → Frame → Prop
  | here {v : Frame} : Nests r byAlias 0 v v
  | deeper {n : Nat} {v v₁ v' : Frame} :
      r.Enters byAlias v v₁ → Nests r byAlias n v₁ v' → Nests r byAlias (n + 1) v v'

/-- The names and chains that the walk finds from a frame. -/
def found (r : Registry) (byAlias : Bool) (v : Frame) (inside : Bool) :
    List (String × List (Property TypeExpr)) :=
  r.inlined byAlias (r.outside v.around) inside v.properties

/-- The frame in which the walk starts at an entity. -/
def start (r : Registry) (byAlias : Bool) (e : Entity TypeExpr) : Frame :=
  ⟨[e.type], r.exposed byAlias e.type⟩

/-! ## The types that are left -/

theorem mem_outside : name ∈ r.outside around ↔ name ∈ r.managed ∧ .model name ∉ around := by
  simp only [outside, List.mem_filter, Bool.not_eq_true', List.any_eq_false, decide_eq_true_eq,
    TypeExpr.model?_eq_some_iff, and_congr_right_iff]
  exact fun _ => ⟨fun h hm => h _ hm rfl, fun h t ht he => h (he ▸ ht)⟩

theorem outside_cons : r.outside (.model name :: around) = (r.outside around).erase name := by
  have hnodup : (r.outside around).Nodup := r.nodup.filter _
  rw [hnodup.erase_eq_filter, outside, outside, List.filter_filter]
  refine List.filter_congr fun n _ => ?_
  rw [List.any_cons, Bool.not_or]
  have hsame : decide ((TypeExpr.model name).model? = some n) = (n == name) := by
    rw [Bool.eq_iff_iff, decide_eq_true_eq, beq_iff_eq, TypeExpr.model?, Option.some_inj, eq_comm]
  rw [hsame, bne]

theorem outside_singleton (t : TypeExpr) : r.outside [t] = r.othersThan t := by
  unfold othersThan
  split
  · next m hm =>
    obtain rfl := TypeExpr.model?_eq_some_iff.1 hm
    have hall : r.outside [] = r.managed := List.filter_eq_self.2 fun _ _ => rfl
    rw [outside_cons, hall]
  · next hm => exact List.filter_eq_self.2 fun m _ => by simp [hm]

theorem length_outside_le (around : List TypeExpr) : (r.outside around).length ≤ r.managed.length :=
  List.length_filter_le _ _

/-- A property is entered if its actual type is registered and not around; its type is then around what is in
it. -/
theorem entered?_eq_some_iff : r.entered? byAlias v x = some v' ↔
    ∃ e, r.entity? x.property.actualType = some e ∧ e.type ∉ v.around ∧
      v' = ⟨e.type :: v.around, r.exposed byAlias e.type⟩ := by
  unfold entered?
  constructor
  · intro h
    split at h
    · next m hm =>
      split at h
      · next hout =>
        cases h
        refine ⟨m.entity, entity?_eq_some_iff.2 ⟨m, hm, rfl⟩, (mem_outside.1 hout).2, ?_⟩
        rw [exposed_of_model? hm]
        rfl
      · cases h
    · cases h
  · intro h
    obtain ⟨e, he, hnot, rfl⟩ := h
    obtain ⟨m, hm, rfl⟩ := entity?_eq_some_iff.1 he
    have hout : m.name ∈ r.outside v.around := mem_outside.2 ⟨(model?_eq_some_iff.1 hm).2.2, hnot⟩
    rw [hm]
    dsimp only
    rw [if_pos hout, exposed_of_model? hm]
    rfl

/-! ## Going down -/

theorem Enters.length_outside_lt (h : r.Enters byAlias v v') :
    (r.outside v'.around).length < (r.outside v.around).length := by
  obtain ⟨x, -, -, hx⟩ := h
  obtain ⟨e, he, hnot, rfl⟩ := entered?_eq_some_iff.1 hx
  obtain ⟨m, hm, rfl⟩ := entity?_eq_some_iff.1 he
  have hout : m.name ∈ r.outside v.around := mem_outside.2 ⟨(model?_eq_some_iff.1 hm).2.2, hnot⟩
  have hlength := List.length_erase_of_mem hout
  have hpos := List.length_pos_of_mem hout
  show (r.outside (.model m.name :: v.around)).length < _
  rw [outside_cons]
  omega

theorem wellFounded_enters : WellFounded fun v' v => r.Enters byAlias v v' :=
  Subrelation.wf (fun h => h.length_outside_lt)
    (InvImage.wf (fun v : Frame => (r.outside v.around).length) Nat.lt_wfRel.wf)

/-- Each frame on the way down costs one of the types that are left. -/
theorem Nests.add_length_outside_le (h : r.Nests byAlias n v v') :
    n + (r.outside v'.around).length ≤ (r.outside v.around).length := by
  induction h with
  | here => omega
  | deeper he _ ih =>
    have := he.length_outside_lt
    omega

/-- The walk by the types around it: from a frame it finds what is regular there, once it is inside an
unwrapped property, and what it finds in the frames that it enters. -/
theorem found_eq (v : Frame) (inside : Bool) : r.found byAlias v inside = v.properties.flatMap fun x =>
    match x.unwrapping? with
    | none => if inside then [(x.name, [x.property])] else []
    | some u =>
      match r.entered? byAlias v x with
      | none => []
      | some v' => (r.found byAlias v' true).map fun e => (u.rename e.1, x.property :: e.2) := by
  unfold found
  rw [inlined]
  congr 1
  funext x
  cases x.unwrapping? with
  | none => rfl
  | some u =>
    unfold entered?
    cases r.model? x.property.actualType with
    | none => rfl
    | some m =>
      by_cases hout : m.name ∈ r.outside v.around
      · simp only [hout, dif_pos, if_pos, outside_cons]
      · simp only [hout, dif_neg, if_neg, not_false_eq_true]

theorem wrapped_eq_found (e : Entity TypeExpr) :
    r.wrapped byAlias e = .ofList (r.found byAlias (r.start byAlias e) false) := by
  rw [found, start, outside_singleton]
  rfl

/-- A chain has one property for each time that the walk has gone down to it, and the one that holds the
value. -/
theorem exists_nests_of_mem_found {e : String × List (Property TypeExpr)}
    (he : e ∈ r.found byAlias v inside) : ∃ n v', r.Nests byAlias n v v' ∧ e.2.length = n + 1 := by
  have hwf : WellFounded fun v' v => r.Enters byAlias v v' := wellFounded_enters
  induction v using hwf.induction generalizing inside e with
  | _ v ih =>
    rw [found_eq, List.mem_flatMap] at he
    obtain ⟨x, hx, he⟩ := he
    split at he
    · split at he
      · obtain rfl := List.mem_singleton.1 he
        exact ⟨0, v, .here, rfl⟩
      · cases he
    · next u hu =>
      split at he
      · cases he
      · next v₁ hentered =>
        obtain ⟨e', he', rfl⟩ := List.mem_map.1 he
        have henters : r.Enters byAlias v v₁ := ⟨x, hx, by simp [hu], hentered⟩
        obtain ⟨n, v', hnests, hlength⟩ := ih v₁ henters he'
        exact ⟨n + 1, v', .deeper henters hnests, by simp [hlength]⟩

/-! ## The bounds -/

/-- The walk from the type `t` through the properties `xs`, which need not be those of a registered type.

* `nested`: it goes down at most as many times as there are registered types.
* `chains`: each chain that it finds is as long as the way down to its last property, so at most one property
  longer than there are registered types. -/
structure Bounded (r : Registry) (byAlias : Bool) (t : TypeExpr) (xs : List Model.Exposed) : Prop where
  nested : ∀ n v, r.Nests byAlias n ⟨[t], xs⟩ v → n ≤ r.managed.length
  chains : ∀ e ∈ r.found byAlias ⟨[t], xs⟩ false,
    (∃ n v, r.Nests byAlias n ⟨[t], xs⟩ v ∧ e.2.length = n + 1) ∧ e.2.length ≤ r.managed.length + 1

theorem bounded (r : Registry) (byAlias : Bool) (t : TypeExpr) (xs : List Model.Exposed) :
    r.Bounded byAlias t xs := by
  have hnested : ∀ n v, r.Nests byAlias n ⟨[t], xs⟩ v → n ≤ r.managed.length := fun n v h => by
    have hcost := h.add_length_outside_le
    have hall := r.length_outside_le [t]
    dsimp only at hcost
    omega
  refine ⟨hnested, fun e he => ?_⟩
  obtain ⟨n, v, hnests, hlength⟩ := exists_nests_of_mem_found he
  have hdepth := hnested n v hnests
  exact ⟨⟨n, v, hnests, hlength⟩, by omega⟩

/-- **Termination.** Whatever types are registered and however their unwrapped fields lead back to each other,
the walk enters only registered types that are not around it, each time it does there are fewer of them, and
there is no endless way down. From any type, registered or not, and with any properties, it goes down at most
as many times as types are registered. The wrapped mapping of an entity is what the walk finds from there, and
its chains have at most one property more. -/
theorem unwrapping_terminates (r : Registry) (byAlias : Bool) :
    (∀ v inside, r.found byAlias v inside = v.properties.flatMap fun x =>
      match x.unwrapping? with
      | none => if inside then [(x.name, [x.property])] else []
      | some u =>
        match r.entered? byAlias v x with
        | none => []
        | some v' => (r.found byAlias v' true).map fun e => (u.rename e.1, x.property :: e.2)) ∧
    (∀ v x v', r.entered? byAlias v x = some v' ↔
      ∃ e, r.entity? x.property.actualType = some e ∧ e.type ∉ v.around ∧
        v' = ⟨e.type :: v.around, r.exposed byAlias e.type⟩) ∧
    (∀ v v', r.Enters byAlias v v' → (r.outside v'.around).length < (r.outside v.around).length) ∧
    (WellFounded fun v' v => r.Enters byAlias v v') ∧
    (∀ t xs, r.Bounded byAlias t xs) ∧
    ∀ e, r.wrapped byAlias e = .ofList (r.found byAlias (r.start byAlias e) false) ∧
      ∀ name chain, (r.wrapped byAlias e).chain? name = some chain →
        chain.length ≤ r.managed.length + 1 := by
  refine ⟨found_eq, fun v x v' => entered?_eq_some_iff, fun v v' h => h.length_outside_lt,
    wellFounded_enters, r.bounded byAlias, fun e => ⟨wrapped_eq_found e, fun name chain h => ?_⟩⟩
  rw [wrapped_eq_found] at h
  exact ((r.bounded byAlias e.type _).chains _ (Table.mem_of_get?_ofList h)).2

/-! ## A sample: a crate that is not registered -/

/-- A pair of parts in a crate. -/
def crate : Model :=
  ⟨"Crate", "parts", none,
    [⟨"pair", .annotated (.model "Pair") [.unwrapped ⟨"c_", "", true⟩], none⟩], by decide⟩

/-- The pair and its parts, which lead back to it, but not the crate. -/
def unpacked : Registry := (empty [part, pair, crate]).addModel "Pair"

/-- From the crate the walk goes down into both registered types, and that is as far as it may go. -/
theorem unwrapping_terminates_crate :
    unpacked.managed = ["Pair", "Part"] ∧ unpacked.entity? (.model "Crate") = none ∧
    (unpacked.wrapped true crate.entity).chain? "c_p_label" =
      some [⟨"pair", .model "Pair", none, false⟩, ⟨"second", .model "Part", none, false⟩,
        ⟨"label", .scalar .text, none, false⟩] ∧
    (∃ v, unpacked.Nests true 2 (unpacked.start true crate.entity) v) ∧
    ∀ n v, unpacked.Nests true n (unpacked.start true crate.entity) v → n ≤ 2 := by
  have hmanaged : unpacked.managed = ["Pair", "Part"] := by decide +kernel
  have hchain : (unpacked.wrapped true crate.entity).chain? "c_p_label" =
      some [⟨"pair", .model "Pair", none, false⟩, ⟨"second", .model "Part", none, false⟩,
        ⟨"label", .scalar .text, none, false⟩] := by
    with_unfolding_all rfl
  obtain ⟨-, -, -, -, hbounded, hmapping⟩ := unwrapping_terminates unpacked true
  obtain ⟨hnested, hchains⟩ := hbounded crate.entity.type (unpacked.exposed true crate.entity.type)
  refine ⟨hmanaged, by with_unfolding_all rfl, hchain, ?_, fun n v h => ?_⟩
  · rw [(hmapping crate.entity).1] at hchain
    obtain ⟨⟨n, v, hnests, hlength⟩, -⟩ := hchains _ (Table.mem_of_get?_ofList hchain)
    obtain rfl : n = 2 := (Nat.succ.inj hlength).symm
    exact ⟨v, hnests⟩
  · have hdepth := hnested n v h
    rwa [hmanaged] at hdepth

end SortPath.Registry
