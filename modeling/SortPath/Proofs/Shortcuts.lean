import SortPath.Proofs.Composition
import SortPath.Proofs.Exposure

/-!
# Wrapped names are shortcuts

A wrapped name leads along a chain of properties at once: one lookup, and one look at the whole chain for
associations. The same properties can be named one by one, each by its own external name, and then every
step looks up an entity and fetches its mappings anew. Both ways lead to the same place, with whatever
follows.

`Spells e chain names` says that the names spell a chain out from the entity `e`. Each name is plain: it
is a segment in normal form that leads to its property in the flat mapping of its entity, and no wrapped
name hides it. A collection may stand at the end of the chain only, since no path goes on from one.

Results:
* `PropertyPath.segments_joinNames`: segments joined by dots are read off their path again.
* `Registry.Spells.leads_iff`: the names that spell a chain of unwrapped fields out lead along it, unless
  there is an association in it.
* `Registry.resolve_shortcut`: a sorting by a wrapped name and one by the names that spell its chain out
  come to the same.
-/
namespace SortPath

/-! ## Segments joined by dots -/

namespace PropertyPath

theorem endsInSegment_append {q : String} (hq : EndsInSegment q) (p : String) :
    EndsInSegment (p ++ q) := by
  obtain ⟨k, hlast, hk⟩ := hq
  refine ⟨k, ?_, hk⟩
  rw [String.toList_append, List.getLast?_append, hlast]
  rfl

theorem endsInSegment_of_segments_eq {name : String} (h : segments name = [name]) :
    EndsInSegment name := by
  have hmem : name ∈ segments name := by
    rw [h]
    exact List.mem_singleton_self name
  obtain ⟨lead, word, hname, -, hne, hword⟩ := mem_segments hmem
  have hlast := List.getLast?_eq_some_getLast hne
  refine ⟨word.getLast hne, ?_, hword _ (List.getLast_mem hne)⟩
  rw [hname, List.getLast?_append, hlast]
  rfl

theorem segments_joinNames {names : List String} (hne : names ≠ [])
    (h : ∀ n ∈ names, segments n = [n]) :
    segments (joinNames names) = names ∧ EndsInSegment (joinNames names) := by
  induction names with
  | nil => exact absurd rfl hne
  | cons n ns ih =>
    rw [List.forall_mem_cons] at h
    cases ns with
    | nil =>
      have hj : joinNames [n] = n := String.intercalate_singleton
      rw [hj]
      exact ⟨h.1, endsInSegment_of_segments_eq h.1⟩
    | cons n' ns =>
      obtain ⟨hsegments, hend⟩ := ih (by simp) h.2
      have hj : joinNames (n :: n' :: ns) = n ++ String.singleton '.' ++ joinNames (n' :: ns) :=
        String.intercalate_cons_cons
      rw [hj, segments_append (endsInSegment_of_segments_eq h.1) rfl, h.1, hsegments]
      exact ⟨rfl, endsInSegment_append hend _⟩

/-- Behind a segment every text that begins with a delimiter makes the same segments. -/
theorem exists_segments_append {q : String}
    (hq : q = "" ∨ ∃ d s, (d = '.' ∨ d = '_') ∧ q = String.singleton d ++ s) :
    ∃ rest, ∀ p, EndsInSegment p → segments (p ++ q) = segments p ++ rest := by
  rcases hq with rfl | ⟨d, s, hd, rfl⟩
  · exact ⟨[], fun p _ => by rw [String.append_empty, List.append_nil]⟩
  · refine ⟨segments s, fun p hp => ?_⟩
    rw [← String.append_assoc]
    exact segments_append hp (by rcases hd with rfl | rfl <;> rfl) s

end PropertyPath

/-! ## Steps along a known chain -/

/-- A segment that stands for a chain steps along it, unless there is an association in it. -/
theorem Mappings.step?_eq_some_iff_of_finds {τ : Type} {m : Mappings τ} {segment : String}
    {chain ps : List (Property τ)} (hf : m.Finds (PropertyPath.normalize segment) chain)
    (hne : chain ≠ []) :
    m.step? segment = some ps ↔ ps = chain ∧ ∀ p ∈ chain, p.isAssociation = false := by
  rw [step?_eq_some_iff]
  constructor
  · intro h
    obtain ⟨hfs, -, ha⟩ := h
    obtain rfl := hf.unique hfs
    exact ⟨rfl, ha⟩
  · intro h
    obtain ⟨rfl, ha⟩ := h
    exact ⟨hf, hne, ha⟩

namespace Registry

variable {r : Registry} {byAlias : Bool} {e : Entity TypeExpr} {p : Property TypeExpr}
  {ps chain : List (Property TypeExpr)} {name : String} {names : List String}

/-! ## Chains spelled out -/

/-- A single segment in normal form that leads to the property `p` in the flat mapping of the entity `e`,
so that it is the external name of `p`, and that is no wrapped name of `e`. -/
structure PlainName (r : Registry) (byAlias : Bool) (e : Entity TypeExpr) (p : Property TypeExpr)
    (name : String) : Prop where
  segment : PropertyPath.segments name = [name]
  normal : PropertyPath.normalize name = name
  flat : (r.flat byAlias e).property? name = some p
  unwrapped : (r.wrapped byAlias e).chain? name = none

/-- The names are the plain names of the properties in a chain, the first in the entity `e` and each next
one in the entity of the actual type of the one before. No property but the last is a collection. -/
inductive Spells (r : Registry) (byAlias : Bool) :
    Entity TypeExpr → List (Property TypeExpr) → List String → Prop
  | last {e : Entity TypeExpr} {p : Property TypeExpr} {name : String} :
      r.PlainName byAlias e p name → Spells r byAlias e [p] [name]
  | next {e : Entity TypeExpr} {p : Property TypeExpr} {ps : List (Property TypeExpr)} {name : String}
      {names : List String} :
      r.PlainName byAlias e p name → p.isCollection = false → ps ≠ [] →
      (∀ e', r.entity? p.actualType = some e' → Spells r byAlias e' ps names) →
      Spells r byAlias e (p :: ps) (name :: names)

theorem PlainName.step?_eq_some_iff (h : r.PlainName byAlias e p name) :
    ((r.catalog byAlias).mappings e).step? name = some ps ↔ ps = [p] ∧ p.isAssociation = false := by
  have hf : ((r.catalog byAlias).mappings e).Finds (PropertyPath.normalize name) [p] := by
    rw [h.normal]
    exact .flat h.unwrapped h.flat
  rw [Mappings.step?_eq_some_iff_of_finds hf (by simp), List.forall_mem_singleton]

theorem Spells.names_ne_nil (h : r.Spells byAlias e chain names) : names ≠ [] := by
  cases h <;> simp

/-- Names that spell a chain of unwrapped fields out lead along it and nowhere else, unless there is an
association in it. -/
theorem Spells.leads_iff {m m' : Model} {us : List Field} {ms : List Model} {f : Field}
    (hus : r.Unwraps m us ms m') (hs : r.Spells byAlias m.entity ((us ++ [f]).map Field.property) names) :
    Leads (r.catalog byAlias) m.entity names ps ↔
      ps = (us ++ [f]).map Field.property ∧
        ∀ p ∈ (us ++ [f]).map Field.property, p.isAssociation = false := by
  -- Along the chain: the walk enters the entity that unwrapping enters.
  induction hus generalizing names ps with
  | here =>
    rw [List.nil_append, List.map_singleton] at hs ⊢
    cases hs with
    | last hn => rw [Leads.singleton_iff, hn.step?_eq_some_iff, List.forall_mem_singleton]
    | next _ _ hne _ => exact absurd rfl hne
  | @into m m₁ m' g u us ms hg hu hm₁ hus ih =>
    rw [List.cons_append, List.map_cons] at hs ⊢
    generalize hrest : (us ++ [f]).map Field.property = rest at hs ih ⊢
    cases hs with
    | last hn => simp at hrest
    | next hn hcoll hne hs =>
      have he₁ : r.entity? g.property.actualType = some m₁.entity :=
        entity?_eq_some_iff.2 ⟨m₁, hm₁, rfl⟩
      have hs₁ := hs _ he₁
      rw [actualType_of_not_isCollection hcoll] at he₁
      rw [Leads.cons_iff hs₁.names_ne_nil, List.forall_mem_cons]
      constructor
      · intro h
        obtain ⟨chain, last, e', qs, hstep, hl, he, hr, rfl⟩ := h
        obtain ⟨rfl, ha⟩ := hn.step?_eq_some_iff.1 hstep
        obtain rfl : g.property = last := Option.some.inj hl
        obtain rfl : m₁.entity = e' := Option.some.inj (he₁.symm.trans he)
        obtain ⟨rfl, hrest⟩ := (ih hs₁).1 hr
        exact ⟨rfl, ha, hrest⟩
      · intro h
        obtain ⟨rfl, ha, hrest⟩ := h
        exact ⟨[g.property], g.property, m₁.entity, rest, hn.step?_eq_some_iff.2 ⟨rfl, ha⟩, rfl, he₁,
          (ih hs₁).2 ⟨rfl, hrest⟩, rfl⟩

theorem Spells.segments_eq {m m' : Model} {us : List Field} {ms : List Model} {f : Field}
    (hus : r.Unwraps m us ms m') (hs : r.Spells byAlias m.entity ((us ++ [f]).map Field.property) names) :
    ∀ n ∈ names, PropertyPath.segments n = [n] := by
  induction hus generalizing names with
  | here =>
    rw [List.nil_append, List.map_singleton] at hs
    cases hs with
    | last hn => exact List.forall_mem_singleton.2 hn.segment
    | next _ _ hne _ => exact absurd rfl hne
  | into hg hu hm₁ hus ih =>
    rw [List.cons_append, List.map_cons] at hs
    generalize hrest : List.map Field.property _ = rest at hs ih
    cases hs with
    | last hn => simp at hrest
    | next hn _ _ hs =>
      exact List.forall_mem_cons.2 ⟨hn.segment, ih (hs _ (entity?_eq_some_iff.2 ⟨_, hm₁, rfl⟩))⟩

/-! ## The shortcut and the long way -/

/-- **Shortcut.** Let a wrapped name of a registered root be a segment in normal form, and let names spell
its chain out. Then the wrapped name and these names joined by dots, each with the same text behind it
that is empty or begins with a delimiter, lead to the same property names or both nowhere. So a clause by
the one path can stand for a clause by the other in every sorting. -/
theorem resolve_shortcut {t : TypeExpr} {root : Entity TypeExpr} (hroot : r.entity? t = some root)
    (hk : (r.wrapped byAlias root).chain? name = some chain)
    (hsegment : PropertyPath.segments name = [name]) (hnormal : PropertyPath.normalize name = name)
    (hs : r.Spells byAlias root chain names) {q : String}
    (hq : q = "" ∨ ∃ d s, (d = '.' ∨ d = '_') ∧ q = String.singleton d ++ s) :
    ((r.catalog byAlias).walkPath ((r.catalog byAlias).mappings root) (name ++ q)).value =
        ((r.catalog byAlias).walkPath ((r.catalog byAlias).mappings root) (joinNames names ++ q)).value ∧
      ∀ (k k' : Clause) (before after : List Clause),
        k.property = name ++ q → k'.property = joinNames names ++ q → k.direction = k'.direction →
        k.nullPlacement = k'.nullPlacement → k.ignoreCase = k'.ignoreCase →
        ((r.catalog byAlias).resolve (some ⟨before ++ k :: after⟩) (some root)).value =
          ((r.catalog byAlias).resolve (some ⟨before ++ k' :: after⟩) (some root)).value := by
  obtain ⟨m, hm, rfl⟩ := entity?_eq_some_iff.1 hroot
  have hfinds : ((r.catalog byAlias).mappings m.entity).Finds (PropertyPath.normalize name) chain := by
    rw [hnormal]
    exact .wrapped hk
  obtain ⟨us, f, ms, m', hus, -, rfl⟩ := exists_unwraps_of_finds hm hfinds
  have hleads : ∀ ps, Leads (r.catalog byAlias) m.entity [name] ps ↔
      Leads (r.catalog byAlias) m.entity names ps := fun ps => by
    rw [Leads.singleton_iff, Mappings.step?_eq_some_iff_of_finds hfinds (by simp), hs.leads_iff hus]
  have hwalk : ((r.catalog byAlias).walkPath ((r.catalog byAlias).mappings m.entity) (name ++ q)).value =
      ((r.catalog byAlias).walkPath ((r.catalog byAlias).mappings m.entity)
        (joinNames names ++ q)).value := by
    obtain ⟨rest, hrest⟩ := PropertyPath.exists_segments_append hq
    obtain ⟨hsegments, hend⟩ := PropertyPath.segments_joinNames hs.names_ne_nil (hs.segments_eq hus)
    refine Option.ext fun found => ?_
    rw [Catalog.walkPath_eq_some_iff_leads, Catalog.walkPath_eq_some_iff_leads, hrest _ hend, hsegments,
      hrest _ (PropertyPath.endsInSegment_of_segments_eq hsegment), hsegment]
    have hbehind : ∀ ps, Leads (r.catalog byAlias) m.entity ([name] ++ rest) ps ↔
        Leads (r.catalog byAlias) m.entity (names ++ rest) ps := fun ps =>
      Leads.append_congr (by simp) hs.names_ne_nil hleads rest
    simp only [hbehind]
  refine ⟨hwalk, fun k k' before after hk hk' hd hn hi => ?_⟩
  rw [← hk, ← hk'] at hwalk
  exact Catalog.value_resolve_congr hwalk hd hn hi before after

end Registry

/-! ## A sample: orders that inline a recipient and a home -/

namespace Sample

open Registry

def region : Model := declare "Region" none [field "name" text]

def home : Model :=
  declare "Home" none
    [field "street" text, Field.named (field "region_ref" (.model "Region")) "region"]

def recipient : Model :=
  declare "Recipient" none
    [field "home" ((TypeExpr.model "Home").annotate [.unwrapped ⟨"at", "", true⟩])]

def order : Model :=
  declare "Order" none
    [field "to" ((TypeExpr.model "Recipient").annotate [.unwrapped ⟨"to", "", true⟩])]

def orders : Registry := (empty [region, home, recipient, order]).addModel "Order"

/-- The properties behind the wrapped name of the region. -/
def toRegion : List (Property TypeExpr) :=
  [⟨"to", .model "Recipient", none, false⟩, ⟨"home", .model "Home", none, false⟩,
    ⟨"region_ref", .model "Region", none, false⟩]

theorem spells_toRegion : orders.Spells true order.entity toRegion ["to", "home", "region"] := by
  have hrecipient : orders.entity? (.model "Recipient") = some recipient.entity := by
    with_unfolding_all rfl
  have hhome : orders.entity? (.model "Home") = some home.entity := by with_unfolding_all rfl
  refine .next ⟨by decide, by decide +kernel, by with_unfolding_all rfl, by decide +kernel⟩ rfl
    (by simp) fun e he => ?_
  obtain rfl : recipient.entity = e := Option.some.inj (hrecipient.symm.trans he)
  refine .next ⟨by decide, by decide +kernel, by with_unfolding_all rfl, by decide +kernel⟩ rfl
    (by simp) fun e he => ?_
  obtain rfl : home.entity = e := Option.some.inj (hhome.symm.trans he)
  exact .last ⟨by decide, by decide +kernel, by with_unfolding_all rfl, by decide +kernel⟩

/-- The name of the region behind its wrapped name, and behind the names of the three properties. -/
theorem resolve_shortcut_orders : orders.entity? (.model "Order") = some order.entity ∧
    (orders.wrapped true order.entity).chain? "toatregion" = some toRegion ∧
    orders.Spells true order.entity toRegion ["to", "home", "region"] ∧
    ((orders.catalog true).walkPath ((orders.catalog true).mappings order.entity)
      ("toatregion" ++ ".name")).value = some ["to", "home", "region_ref", "name"] ∧
    ((orders.catalog true).walkPath ((orders.catalog true).mappings order.entity)
      (joinNames ["to", "home", "region"] ++ ".name")).value =
        some ["to", "home", "region_ref", "name"] := by
  have hroot : orders.entity? (.model "Order") = some order.entity := by with_unfolding_all rfl
  have hchain : (orders.wrapped true order.entity).chain? "toatregion" = some toRegion := by
    with_unfolding_all rfl
  have hwalk : ((orders.catalog true).walkPath ((orders.catalog true).mappings order.entity)
      ("toatregion" ++ ".name")).value = some ["to", "home", "region_ref", "name"] := by
    decide +kernel
  have heq := (resolve_shortcut hroot hchain (by decide) (by decide +kernel) spells_toRegion
    (q := ".name") (.inr ⟨'.', "name", .inl rfl, rfl⟩)).1
  exact ⟨hroot, hchain, spells_toRegion, hwalk, heq ▸ hwalk⟩

end Sample

end SortPath
