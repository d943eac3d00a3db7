import SortPath.Proofs.Clauses

/-!
# Paths that go on

A path can be cut at a delimiter: its front part is walked from the root, and its back part from the
entity that the front part leads to. This needs three things to fit. The tokenizer must not see the cut: a
delimiter behind a segment only separates, and whatever follows is split as if it stood alone. A wrapped
name counts by the last property of its chain. And the mappings of an entity are the same whether they
are those of the root or fetched on the way.

`Leads c e segments ps` says that the segments lead from the entity `e` along the properties `ps`; the
names that segments resolve to (`Resolves`) are the names of these.

Results:
* `PropertyPath.segments_append`: a delimiter behind a segment cuts a path in two.
* `resolves_iff_leads`: segments resolve to the names of the properties along which they lead.
* `Leads.append_iff`: segments one after the other lead along properties one after the other.
* `walkPath_append_iff`: a path goes on where its front part leads, and only there.
* `walkPath_extended`: so its names begin with those of its front part, and it is dropped where that is.
-/
namespace SortPath

/-! ## Cutting a path at a delimiter -/

namespace PropertyPath

/-- What stands behind a delimiter that follows a segment is split by itself. -/
theorem scan_append {k d : Char} (hk : isDelimiter k = false) (hd : isDelimiter d = true)
    (lead word cs ds : List Char) :
    scan lead word (cs ++ k :: d :: ds) = scan lead word (cs ++ [k]) ++ scan [] [] ds := by
  induction cs generalizing lead word with
  | nil => simp [scan, hk, hd]
  | cons c cs ih =>
    rw [List.cons_append, List.cons_append, scan, scan]
    split
    · split
      · exact ih ..
      · rw [ih, List.cons_append]
    · exact ih ..

/-- The text ends in a segment, and not in a delimiter or without any character. -/
def EndsInSegment (p : String) : Prop := ∃ k, p.toList.getLast? = some k ∧ isDelimiter k = false

theorem endsInSegment_of_segments_ne_nil {p : String} (hp : segments p ≠ [])
    (hend : ∀ k, p.toList.getLast? = some k → isDelimiter k = false) : EndsInSegment p := by
  have hne : p.toList ≠ [] := fun h => by
    rw [String.toList_eq_nil_iff.1 h] at hp
    exact hp rfl
  exact ⟨_, List.getLast?_eq_some_getLast hne, hend _ (List.getLast?_eq_some_getLast hne)⟩

/-- A delimiter behind a segment cuts a path in two. -/
theorem segments_append {p : String} (hp : EndsInSegment p) {d : Char} (hd : isDelimiter d = true)
    (q : String) : segments (p ++ String.singleton d ++ q) = segments p ++ segments q := by
  obtain ⟨k, hlast, hk⟩ := hp
  obtain ⟨cs, hcut⟩ := List.getLast?_eq_some_iff.1 hlast
  have hsplit : (p ++ String.singleton d ++ q).toList = cs ++ k :: d :: q.toList := by
    rw [String.toList_append, String.toList_append, hcut]
    simp
  rw [segments, hsplit, scan_append hk hd, ← hcut, List.map_append]
  rfl

end PropertyPath

variable {τ : Type} {c : Catalog τ} {e root : Entity τ} {segment : String} {ss ts names : List String}
  {chain ps rs : List (Property τ)}

/-! ## The properties on the way -/

/-- From an entity the segments lead along the properties: each segment stands for a chain of them, and
all but the last lead to the entity of the declared type of the last property of their chain. -/
inductive Leads (c : Catalog τ) : Entity τ → List String → List (Property τ) → Prop
  | last {e : Entity τ} {segment : String} {chain : List (Property τ)} :
      (c.mappings e).step? segment = some chain → Leads c e [segment] chain
  | next {e e' : Entity τ} {segment : String} {chain : List (Property τ)} {last : Property τ}
      {rest : List String} {ps : List (Property τ)} :
      (c.mappings e).step? segment = some chain → chain.getLast? = some last →
      c.entity? last.type = some e' → Leads c e' rest ps → Leads c e (segment :: rest) (chain ++ ps)

theorem Leads.segments_ne_nil (h : Leads c e ss ps) : ss ≠ [] := by
  cases h <;> simp

theorem Leads.singleton_iff : Leads c e [segment] ps ↔ (c.mappings e).step? segment = some ps := by
  constructor
  · intro h
    cases h with
    | last hs => exact hs
    | next _ _ _ hr => exact absurd rfl hr.segments_ne_nil
  · exact .last

theorem Leads.cons_iff (ht : ts ≠ []) :
    Leads c e (segment :: ts) rs ↔ ∃ chain last e' qs, (c.mappings e).step? segment = some chain ∧
      chain.getLast? = some last ∧ c.entity? last.type = some e' ∧ Leads c e' ts qs ∧
      rs = chain ++ qs := by
  constructor
  · intro h
    cases h with
    | last _ => exact absurd rfl ht
    | next hs hl he hr => exact ⟨_, _, _, _, hs, hl, he, hr, rfl⟩
  · intro h
    obtain ⟨chain, last, e', qs, hs, hl, he, hr, rfl⟩ := h
    exact .next hs hl he hr

theorem Leads.properties_ne_nil (h : Leads c e ss ps) : ps ≠ [] := by
  cases h with
  | last hs => exact (Mappings.step?_eq_some_iff.1 hs).2.1
  | next hs _ _ _ => exact List.append_ne_nil_of_left_ne_nil (Mappings.step?_eq_some_iff.1 hs).2.1 _

theorem resolves_iff_leads :
    Resolves c e ss names ↔ ∃ ps, Leads c e ss ps ∧ names = ps.map (·.name) := by
  constructor
  · intro h
    induction h with
    | last hf hne ha => exact ⟨_, .last (Mappings.step?_eq_some_iff.2 ⟨hf, hne, ha⟩), rfl⟩
    | next hf hl ha he _ ih =>
      obtain ⟨ps, hps, rfl⟩ := ih
      have hne := List.ne_nil_of_mem (List.mem_of_getLast? hl)
      exact ⟨_, .next (Mappings.step?_eq_some_iff.2 ⟨hf, hne, ha⟩) hl he hps, (List.map_append ..).symm⟩
  · intro h
    obtain ⟨ps, hps, rfl⟩ := h
    induction hps with
    | last hs =>
      obtain ⟨hf, hne, ha⟩ := Mappings.step?_eq_some_iff.1 hs
      exact .last hf hne ha
    | next hs hl he _ ih =>
      obtain ⟨hf, -, ha⟩ := Mappings.step?_eq_some_iff.1 hs
      rw [List.map_append]
      exact .next hf hl ha he ih

/-- Segments one after the other lead along properties one after the other, where the first ones lead to
the entity from which the others are taken. -/
theorem Leads.append_iff (hs : ss ≠ []) (ht : ts ≠ []) :
    Leads c e (ss ++ ts) rs ↔ ∃ ps last e' qs, Leads c e ss ps ∧ ps.getLast? = some last ∧
      c.entity? last.type = some e' ∧ Leads c e' ts qs ∧ rs = ps ++ qs := by
  constructor
  · intro h
    induction ss generalizing e rs with
    | nil => exact absurd rfl hs
    | cons segment ss ih =>
      rw [List.cons_append, Leads.cons_iff (List.append_ne_nil_of_right_ne_nil ss ht)] at h
      obtain ⟨chain, last, e', qs, hstep, hl, he, hr, rfl⟩ := h
      cases ss with
      | nil => exact ⟨chain, last, e', qs, .last hstep, hl, he, hr, rfl⟩
      | cons s ss =>
        obtain ⟨ps, last', e'', qs', hps, hl', he', hqs, rfl⟩ := ih (by simp) hr
        refine ⟨chain ++ ps, last', e'', qs', .next hstep hl he hps, ?_, he', hqs,
          (List.append_assoc ..).symm⟩
        rw [List.getLast?_append, hl']
        rfl
  · intro h
    obtain ⟨ps, last, e', qs, hps, hl, he, hqs, rfl⟩ := h
    induction hps with
    | last hstep => exact .next hstep hl he hqs
    | next hstep hl₁ he₁ hr ih =>
      have hlast := List.getLast?_eq_some_getLast hr.properties_ne_nil
      rw [List.getLast?_append, hlast] at hl
      rw [List.append_assoc]
      exact .next hstep hl₁ he₁ (ih hr.segments_ne_nil (hlast.trans hl))

/-- Segments that lead along the same properties can stand for each other in front of others. -/
theorem Leads.append_congr {ss' : List String} (hs : ss ≠ []) (hs' : ss' ≠ [])
    (h : ∀ ps, Leads c e ss ps ↔ Leads c e ss' ps) (ts : List String) :
    Leads c e (ss ++ ts) rs ↔ Leads c e (ss' ++ ts) rs := by
  cases ts with
  | nil => rw [List.append_nil, List.append_nil, h]
  | cons t ts => simp only [append_iff hs (List.cons_ne_nil t ts), append_iff hs' (List.cons_ne_nil t ts), h]

namespace Catalog

theorem walkPath_eq_some_iff_leads {path : String} :
    (c.walkPath (c.mappings e) path).value = some names ↔
      ∃ ps, Leads c e (PropertyPath.segments path) ps ∧ names = ps.map (·.name) := by
  rw [walkPath_eq_some_iff, resolves_iff_leads]

/-- Behind a path with a segment at its end the walk goes on from the entity that the path leads to. -/
theorem walkPath_append_iff {p q : String} {d : Char} (hp : PropertyPath.segments p ≠ [])
    (hend : PropertyPath.EndsInSegment p) (hd : PropertyPath.isDelimiter d = true)
    (hq : PropertyPath.segments q ≠ []) :
    (c.walkPath (c.mappings root) (p ++ String.singleton d ++ q)).value = some names ↔
      ∃ ps last e qs, Leads c root (PropertyPath.segments p) ps ∧
        (c.walkPath (c.mappings root) p).value = some (ps.map (·.name)) ∧
        ps.getLast? = some last ∧ c.entity? last.type = some e ∧
        (c.walkPath (c.mappings e) q).value = some qs ∧ names = ps.map (·.name) ++ qs := by
  rw [walkPath_eq_some_iff_leads, PropertyPath.segments_append hend hd]
  constructor
  · intro h
    obtain ⟨rs, hrs, rfl⟩ := h
    obtain ⟨ps, last, e, qs, hps, hl, he, hqs, rfl⟩ := (Leads.append_iff hp hq).1 hrs
    exact ⟨ps, last, e, qs.map (·.name), hps, walkPath_eq_some_iff_leads.2 ⟨ps, hps, rfl⟩, hl, he,
      walkPath_eq_some_iff_leads.2 ⟨qs, hqs, rfl⟩, List.map_append ..⟩
  · intro h
    obtain ⟨ps, last, e, qnames, hps, -, hl, he, hwalk, rfl⟩ := h
    obtain ⟨qs, hqs, rfl⟩ := walkPath_eq_some_iff_leads.1 hwalk
    exact ⟨ps ++ qs, (Leads.append_iff hp hq).2 ⟨ps, last, e, qs, hps, hl, he, hqs, rfl⟩,
      (List.map_append ..).symm⟩

/-- **Extension.** Let a path `p` with a segment end in no delimiter, and let `q` have a segment. Then `p`,
a delimiter and `q` together resolve from the root exactly when `p` does, the type of the last property on
its way has an entity, and `q` resolves from that; and then to the names of `p` followed by those of `q`.
So the names of `p` stand in front of those of every path that goes on from it, and where `p` is dropped
a clause by such a path makes no difference to any sorting. -/
theorem walkPath_extended (root : Entity τ) {p q : String} {d : Char}
    (hp : PropertyPath.segments p ≠ [])
    (hend : ∀ k, p.toList.getLast? = some k → PropertyPath.isDelimiter k = false)
    (hd : d = '.' ∨ d = '_') (hq : PropertyPath.segments q ≠ []) :
    (∀ names, (c.walkPath (c.mappings root) (p ++ String.singleton d ++ q)).value = some names ↔
      ∃ ps last e qs, Leads c root (PropertyPath.segments p) ps ∧
        (c.walkPath (c.mappings root) p).value = some (ps.map (·.name)) ∧
        ps.getLast? = some last ∧ c.entity? last.type = some e ∧
        (c.walkPath (c.mappings e) q).value = some qs ∧ names = ps.map (·.name) ++ qs) ∧
    (∀ names, (c.walkPath (c.mappings root) (p ++ String.singleton d ++ q)).value = some names →
      ∃ front, (c.walkPath (c.mappings root) p).value = some front ∧ front <+: names) ∧
    ((c.walkPath (c.mappings root) p).value = none →
      ∀ (k : Clause) (before after : List Clause), k.property = p ++ String.singleton d ++ q →
        (c.resolve (some ⟨before ++ k :: after⟩) (some root)).value =
          (c.resolve (some ⟨before ++ after⟩) (some root)).value) := by
  have hdelimiter : PropertyPath.isDelimiter d = true := by rcases hd with rfl | rfl <;> rfl
  have hsegment := PropertyPath.endsInSegment_of_segments_ne_nil hp hend
  have hfront : ∀ names,
      (c.walkPath (c.mappings root) (p ++ String.singleton d ++ q)).value = some names →
        ∃ front, (c.walkPath (c.mappings root) p).value = some front ∧ front <+: names := by
    intro names h
    obtain ⟨ps, -, -, qs, -, hwalk, -, -, -, rfl⟩ := (walkPath_append_iff hp hsegment hdelimiter hq).1 h
    exact ⟨_, hwalk, List.prefix_append ..⟩
  refine ⟨fun names => walkPath_append_iff hp hsegment hdelimiter hq, hfront,
    fun hnone k before after hk => value_resolve_of_dropped ?_ before after⟩
  rw [hk, Option.eq_none_iff_forall_ne_some]
  intro names h
  obtain ⟨front, hwalk, -⟩ := hfront names h
  rw [hnone] at hwalk
  cases hwalk

/-- Tables of parcels: the wrapped name `to` ends at a city, whose code has an external name that begins
with a delimiter. -/
def parcels : Catalog String where
  entity? t := if t = "City" then some ⟨t, []⟩ else none
  flat e := if e.type = "City" then .ofList [("_zip", ⟨"code", "str", none, false⟩)] else .empty
  wrapped e :=
    if e.type = "Parcel" then
      .ofList [("to", [⟨"address", "Address", none, false⟩, ⟨"city", "City", none, false⟩])]
    else .empty

/-- The path goes on behind the city, with two delimiters at the cut. -/
theorem walkPath_extended_parcels : PropertyPath.segments "to" ≠ [] ∧
    (∀ k, "to".toList.getLast? = some k → PropertyPath.isDelimiter k = false) ∧
    PropertyPath.segments "_zip" ≠ [] ∧
    (parcels.walkPath (parcels.mappings ⟨"Parcel", []⟩) ("to" ++ String.singleton '.' ++ "_zip")).value =
      some ["address", "city", "code"] := by
  have hp : PropertyPath.segments "to" ≠ [] := by decide
  have hend : ∀ k, "to".toList.getLast? = some k → PropertyPath.isDelimiter k = false := by
    intro k hk
    obtain rfl : 'o' = k := Option.some.inj hk
    rfl
  have hq : PropertyPath.segments "_zip" ≠ [] := by decide
  refine ⟨hp, hend, hq, ((walkPath_extended ⟨"Parcel", []⟩ hp hend (.inl rfl) hq).1 _).2 ?_⟩
  refine ⟨[⟨"address", "Address", none, false⟩, ⟨"city", "City", none, false⟩],
    ⟨"city", "City", none, false⟩, ⟨"City", []⟩, ["code"], .last ?_, ?_, rfl, ?_, ?_, rfl⟩
  · decide +kernel
  · decide +kernel
  · decide +kernel
  · decide +kernel

end Catalog

end SortPath
