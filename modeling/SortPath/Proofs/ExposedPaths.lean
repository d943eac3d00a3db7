import SortPath.Proofs.Dispatch

/-!
# Under which paths exposed types are found

A type is exposed under any path, without the slashes around it, and the call answers with that path. A
request is told by one segment only, the first one behind the base path that is not empty. So the two agree
where the path is one segment, and then whatever follows it in the URL. Otherwise they need not:

* A path with a slash inside leads where its first segment leads. If nothing is exposed under that segment
  alone the path leads nowhere, and if something else is, it leads there.
* Of a path of slashes only, nothing is left. It is a path like any other in the table, but no request names
  it.

Neither is refused, and in the table of paths the type stands under the path as it was answered.

Results:
* `BeginsWith.append`, `exists_beginsWith`: the first segment of a path.
* `typeAt?_run_iff`: a path behind the base path leads to the type that was exposed under its first segment.
* `granted_found`: how a type is found under the path that it was exposed under.
* `granted_not_found`: types that are not found there.
-/
namespace SortPath.Repositories

variable {base path segment tail : String} {r : Registry} {calls : List Call} {t : TypeExpr}

/-! ## First segments -/

/-- The text is over, or goes on with a slash. -/
def GoesOn (tail : String) : Prop := tail = "" ∨ ∃ more, tail = "/" ++ more

/-- The segment stands at the beginning of the path, up to the first slash or the end. -/
structure BeginsWith (path segment : String) : Prop where
  nonempty : segment ≠ ""
  unbroken : '/' ∉ segment.toList
  rest : ∃ rest, path = segment ++ rest ∧ GoesOn rest

theorem GoesOn.append {rest : String} (h : GoesOn rest) (ht : GoesOn tail) : GoesOn (rest ++ tail) := by
  rcases h with rfl | ⟨more, rfl⟩
  · rwa [String.empty_append]
  · exact .inr ⟨more ++ tail, String.append_assoc⟩

theorem BeginsWith.append (h : BeginsWith path segment) (ht : GoesOn tail) :
    BeginsWith (path ++ tail) segment := by
  obtain ⟨rest, rfl, hrest⟩ := h.rest
  exact ⟨h.nonempty, h.unbroken, rest ++ tail, String.append_assoc, hrest.append ht⟩

theorem beginsWith_self (hne : path ≠ "") (hs : '/' ∉ path.toList) : BeginsWith path path :=
  ⟨hne, hs, "", String.append_empty.symm, .inl rfl⟩

/-- Unless it is empty, a path that does not begin with a slash has a first segment. -/
theorem exists_beginsWith (hbare : Text.Bare path) (hne : path ≠ "") :
    ∃ segment, BeginsWith path segment := by
  obtain ⟨c, cs, hpath⟩ := List.exists_cons_of_ne_nil (mt String.toList_eq_nil_iff.1 hne)
  have hc : c ≠ '/' := fun h => hbare.1 (by rw [hpath, h, List.head?_cons])
  refine ⟨String.ofList (path.toList.takeWhile (· ≠ '/')), ?_, ?_,
    String.ofList (path.toList.dropWhile (· ≠ '/')), ?_, ?_⟩
  · rw [Ne, String.ofList_eq_empty_iff, hpath, List.takeWhile_cons_of_pos (by simpa using hc)]
    simp
  · rw [String.toList_ofList]
    intro hmem
    simpa using List.all_eq_true.1 List.all_takeWhile '/' hmem
  · rw [← String.ofList_append, List.takeWhile_append_dropWhile, String.ofList_toList]
  · rw [GoesOn, slash_append_iff, String.ofList_eq_empty_iff, String.toList_ofList]
    cases h : path.toList.dropWhile (· ≠ '/') with
    | nil => exact .inl rfl
    | cons d ds =>
      obtain rfl : d = '/' := by simpa using Text.head_dropWhile h
      exact .inr ⟨ds, rfl⟩

theorem repositorySegment?_of_beginsWith (h : BeginsWith path segment) :
    repositorySegment? base (base ++ "/" ++ path) = some segment := by
  obtain ⟨rest, rfl, hrest⟩ := h.rest
  have hgoes : rest.toList = [] ∨ ∃ more, rest.toList = '/' :: more := by
    rwa [String.toList_eq_nil_iff, ← slash_append_iff]
  have hfirst := firstSegment?_append (mt String.toList_eq_nil_iff.1 h.nonempty) h.unbroken hgoes
  rw [repositorySegment?_behind, String.toList_append, hfirst, Option.map_some, String.ofList_toList]

theorem repositorySegment?_slash : repositorySegment? base (base ++ "/" ++ "") = none := by
  rw [repositorySegment?_behind]
  rfl

/-! ## Where paths lead after a run -/

/-- Behind the base path, a path leads to the type that a call has exposed under the first segment of the
path, whatever the path itself was exposed for, and whatever follows it. -/
theorem typeAt?_run_iff (h : BeginsWith path segment) (htail : GoesOn tail) :
    ((ofRegistry r).run calls).typeAt? base (base ++ "/" ++ path ++ tail) = some t ↔
      (ofRegistry r).Granted calls t segment := by
  have hpath : ∀ name, ((ofRegistry r).run calls).byPath.get? segment = some name ↔
      (ofRegistry r).Granted calls (.model name) segment := fun name => by
    rw [get?_byPath_run_iff]
    simp [ofRegistry, Table.get?_empty]
  rw [typeAt?, String.append_assoc, repositorySegment?_of_beginsWith (h.append htail), Option.bind_some,
    modelAt?, trimSlashes_of_notMem h.unbroken, Option.map_eq_some_iff]
  constructor
  · intro hname
    obtain ⟨name, hname, rfl⟩ := hname
    exact (hpath name).1 hname
  · intro hgranted
    obtain ⟨name, rfl⟩ := exists_model_of_granted hgranted
    exact ⟨name, (hpath name).2 hgranted, rfl⟩

/-- A slash alone behind the base path leads nowhere, even if a type is exposed under the empty path. -/
theorem typeAt?_slash {rs : Repositories} : rs.typeAt? base (base ++ "/" ++ "") = none := by
  rw [typeAt?, repositorySegment?_slash, Option.bind_none]

/-! ## Requests -/

/-- The endpoint is not bound, and the path in the URL is `path` behind the base path, or goes on from there
with a slash. -/
def AsksFor (request : Request) (base path : String) : Prop :=
  request.binding = none ∧ ∃ tail, GoesOn tail ∧ request.urlPath = .ok (base ++ "/" ++ path ++ tail)

/-- How the type `t` that calls have exposed under `path` is found behind a base path in normal form. -/
structure Found (r : Registry) (calls : List Call) (base : String) (t : TypeExpr) (path : String) :
    Prop where
  /-- The path is one segment: every request for it is about the type. -/
  bySegment : path ≠ "" → '/' ∉ path.toList → ∀ request, AsksFor request base path →
    request.domainType? ((ofRegistry r).run calls) base = .ok (some t)
  /-- A request for the path is about the type that is exposed under the first segment, if there is one. -/
  byFirst : ∀ segment, BeginsWith path segment → ∀ request, AsksFor request base path → ∀ t',
    request.domainType? ((ofRegistry r).run calls) base = .ok (some t') ↔
      (ofRegistry r).Granted calls t' segment
  /-- Nothing is left of the path: a request for it alone is about no type. -/
  byNothing : path = "" → ∀ request : Request, request.binding = none →
    request.urlPath = .ok (base ++ "/" ++ path) →
      request.domainType? ((ofRegistry r).run calls) base = .ok none
  /-- The path leads to the type, whatever follows it, just where its first segment was exposed for the same
  type. -/
  always_iff : (∀ tail, GoesOn tail →
      ((ofRegistry r).run calls).typeAt? base (base ++ "/" ++ path ++ tail) = some t) ↔
    ∃ segment, BeginsWith path segment ∧ (ofRegistry r).Granted calls t segment

/-- **Which exposed types are found.** Let nothing be exposed over any registry, let any calls be made, some
of which may be refused, and let one of them expose a type and answer with a path. Behind any base path the
type is found under a path of one segment. Under a path with slashes inside the type is found that was exposed
under the first segment alone, if there is one, and under the empty path none. -/
theorem granted_found (base : String) (h : (ofRegistry r).Granted calls t path) :
    Found r calls (normalizeBase base) t path where
  bySegment hne hs request hasks := by
    obtain ⟨hbinding, tail, htail, hurl⟩ := hasks
    rw [Request.domainType?_of_unbound hbinding hurl,
      (typeAt?_run_iff (beginsWith_self hne hs) htail).2 h]
  byFirst segment hfirst request hasks t' := by
    obtain ⟨hbinding, tail, htail, hurl⟩ := hasks
    rw [Request.domainType?_of_unbound hbinding hurl, Except.ok.injEq]
    exact typeAt?_run_iff hfirst htail
  byNothing hempty request hbinding hurl := by
    rw [Request.domainType?_of_unbound hbinding hurl, hempty, typeAt?_slash]
  always_iff := by
    constructor
    · intro halways
      have hne : path ≠ "" := by
        rintro rfl
        have hslash := halways "" (.inl rfl)
        rw [String.append_empty, typeAt?_slash] at hslash
        cases hslash
      obtain ⟨segment, hfirst⟩ := exists_beginsWith (bare_of_granted h) hne
      exact ⟨segment, hfirst, (typeAt?_run_iff hfirst (.inl rfl)).1 (halways "" (.inl rfl))⟩
    · intro hsegment tail htail
      obtain ⟨segment, hfirst, hgranted⟩ := hsegment
      exact (typeAt?_run_iff hfirst htail).2 hgranted

/-- People are exposed under a segment, accounts under a path with a slash inside, and profiles under a slash
alone. -/
def slashCalls : List Call :=
  [.register (some (.model "Person")) (some "people/"),
   .register (some (.model "Account")) (some "/shop/accounts"),
   .register (some (.model "Profile")) (some "/")]

theorem granted_slashCalls :
    (ofRegistry (.empty Sample.models)).Granted slashCalls (.model "Person") "people" ∧
    (ofRegistry (.empty Sample.models)).Granted slashCalls (.model "Account") "shop/accounts" ∧
    (ofRegistry (.empty Sample.models)).Granted slashCalls (.model "Profile") "" :=
  ⟨⟨[], _, _, rfl, some "people/", _, rfl, by with_unfolding_all rfl⟩,
    ⟨[_], _, _, rfl, some "/shop/accounts", _, rfl, by with_unfolding_all rfl⟩,
    ⟨[_, _], _, _, rfl, some "/", _, rfl, by with_unfolding_all rfl⟩⟩

/-- Under a base path people are found, and neither accounts nor profiles. -/
theorem granted_found_people :
    let rs := (ofRegistry (.empty Sample.models)).run slashCalls
    let base := normalizeBase "api/"
    rs.paths = ["people", "shop/accounts", ""] ∧
    (Service.localRequest "/api/people/1" none).domainType? rs base = .ok (some (.model "Person")) ∧
    (∀ t, (Service.localRequest "/api/shop/accounts" none).domainType? rs base ≠ .ok (some t)) ∧
    (Service.localRequest "/api/" none).domainType? rs base = .ok none := by
  intro rs base
  obtain ⟨hperson, haccount, hprofile⟩ := granted_slashCalls
  refine ⟨by decide +kernel, ?_, ?_, ?_⟩
  · exact (granted_found "api/" hperson).bySegment (by decide) (by decide) _
      ⟨rfl, "/1", .inr ⟨"1", rfl⟩,
        Service.urlPath_localRequest (rfl : _ = "/" ++ "api/people/1") (by decide)⟩
  · intro t ht
    have hfirst : BeginsWith "shop/accounts" "shop" :=
      ⟨by decide, by decide, "/accounts", rfl, .inr ⟨"accounts", rfl⟩⟩
    have hasks : AsksFor (Service.localRequest "/api/shop/accounts" none) base "shop/accounts" :=
      ⟨rfl, "", .inl rfl, Service.urlPath_localRequest (rfl : _ = "/" ++ "api/shop/accounts") (by decide)⟩
    have hshop := ((granted_found "api/" haccount).byFirst "shop" hfirst _ hasks t).1 ht
    obtain ⟨name, rfl⟩ := exists_model_of_granted hshop
    have hpath : rs.byPath.get? "shop" = some name := get?_byPath_run_iff.2 (.inr hshop)
    have hnone : rs.byPath.get? "shop" = none := by decide +kernel
    rw [hnone] at hpath
    cases hpath
  · exact (granted_found "api/" hprofile).byNothing rfl _ rfl
      (Service.urlPath_localRequest (rfl : _ = "/" ++ "api/") (by decide))

/-- Without a base path: accounts are exposed under `shop/accounts` and profiles under the empty path, and
requests for these paths are about no type. -/
theorem granted_not_found :
    let start := ofRegistry (.empty Sample.models)
    let rs := start.run slashCalls
    (start.Granted slashCalls (.model "Account") "shop/accounts" ∧
      AsksFor (Service.localRequest "/shop/accounts" none) (normalizeBase "") "shop/accounts" ∧
      (Service.localRequest "/shop/accounts" none).domainType? rs (normalizeBase "") = .ok none) ∧
    start.Granted slashCalls (.model "Profile") "" ∧
      AsksFor (Service.localRequest "/" none) (normalizeBase "") "" ∧
      (Service.localRequest "/" none).domainType? rs (normalizeBase "") = .ok none := by
  intro start rs
  obtain ⟨-, haccount, hprofile⟩ := granted_slashCalls
  have hshop : (Service.localRequest "/shop/accounts" none).urlPath = .ok "/shop/accounts" :=
    Service.urlPath_localRequest (rfl : _ = "/" ++ "shop/accounts") (by decide)
  have hslash : (Service.localRequest "/" none).urlPath = .ok "/" :=
    Service.urlPath_localRequest (rfl : _ = "/" ++ "") (by decide)
  have hnowhere : ∀ text ∈ ["/shop/accounts", "/"], rs.typeAt? (normalizeBase "") text = none := by
    decide +kernel
  refine ⟨⟨haccount, ⟨rfl, "", .inl rfl, hshop⟩, ?_⟩, hprofile, ⟨rfl, "", .inl rfl, hslash⟩, ?_⟩
  · rw [Request.domainType?_of_unbound rfl hshop, hnowhere _ (by simp)]
  · rw [Request.domainType?_of_unbound rfl hslash, hnowhere _ (by simp)]

end SortPath.Repositories
