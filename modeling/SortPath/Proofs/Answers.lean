import SortPath.Endpoint
import SortPath.Proofs.Exposure
import SortPath.Proofs.Registration
import SortPath.Proofs.ResolutionFailures

/-!
# What the endpoint answers

Two readings of a path have to agree. The route takes the last segment as the name of the repository, and
names that are not exposed are refused. The resolver cuts the base path off the URL and takes the first
segment that is left; where it finds no exposed model, the sorting is passed on as the client wrote it.
Under a base path without parameters both read the same segment, and what this leads to is exposed with its
metadata (`Repositories.Sound`). So nothing is passed on.

The route gets every path that is the base path and one segment, but those of the pages, which come first.
The pages answer whatever the query, and none of them stands where a sample model is exposed.

`Answers s repository query answer` says what the answer has to be, and `Translates` what it tells about a
sorting: the one that the query asks for, and its resolution against the metadata of the model that the
repository exposes.

**Hypothesis (`hurl`).** The path of the URL of a request is the path that is routed.

Results:
* `repositorySegment?_behind`, `repositorySegment?_append`: the segment behind the base path names the
  repository.
* `Service.destination?_iff`: the paths that the route gets.
* `Service.domainType?_of_destination?`: a request is about the model that its route names.
* `Service.respond_of_destination?`: no sorting is passed on where a path leads to a repository.
* `Service.respond_sample`: what is answered for the sample models, whatever the base path, the names and the
  query.
-/
namespace SortPath

/-! ## The segment behind the base path -/

theorem trimSlashes_of_notMem {s : String} (h : '/' ∉ s.toList) : Text.trimSlashes s = s :=
  Text.trimSlashes_of_bare ⟨fun hh => h (List.mem_of_head? hh), fun hl => h (List.mem_of_getLast? hl)⟩

theorem notMem_normalizeBase {c : Char} (hc : c ≠ '/') {base : String} (h : c ∉ base.toList) :
    c ∉ (normalizeBase base).toList := by
  have htrim : c ∉ (Text.trimSlashes base).toList := fun hm => by
    rw [Text.trimSlashes, String.toList_ofList, Text.trimBy, List.mem_reverse] at hm
    exact h (List.dropWhile_subset _ (List.mem_reverse.1 (List.dropWhile_subset _ hm)))
  rw [normalizeBase]
  split
  · simp
  · rw [String.toList_append, List.mem_append, not_or]
    exact ⟨by simpa using hc, htrim⟩

theorem firstSegment?_append {segment tail : List Char} (hne : segment ≠ []) (hs : '/' ∉ segment)
    (htail : tail = [] ∨ ∃ more, tail = '/' :: more) :
    firstSegment? ('/' :: (segment ++ tail)) = some segment := by
  obtain ⟨c, cs, rfl⟩ := List.exists_cons_of_ne_nil hne
  have hc : c ≠ '/' := fun h => hs (by simp [h])
  have hinside : ∀ d ∈ c :: cs, decide (d ≠ '/') = true := fun d hd => by
    rw [decide_eq_true_eq]
    rintro rfl
    exact hs hd
  have hrest : tail.takeWhile (· ≠ '/') = [] := by
    rcases htail with rfl | ⟨more, rfl⟩ <;> simp
  have hstart : (c :: cs ++ tail).dropWhile (· = '/') = c :: cs ++ tail :=
    List.dropWhile_cons_of_neg (by simpa using hc)
  rw [firstSegment?, List.dropWhile_cons_of_pos rfl, hstart, List.takeWhile_append_of_pos hinside, hrest,
    List.append_nil]

/-- What stands behind the base path and a slash names the repository by its first segment. -/
theorem repositorySegment?_behind (base path : String) : repositorySegment? base (base ++ "/" ++ path) =
    (firstSegment? ('/' :: path.toList)).map String.ofList := by
  have hafter : afterBase? base.toList (base ++ "/" ++ path).toList = some ('/' :: path.toList) :=
    afterBase?_eq_some_iff.2 ⟨by simp, .inr (.inr ⟨_, rfl⟩)⟩
  rw [repositorySegment?, hafter, Option.bind_some]

theorem repositorySegment?_append {base segment : String} (hne : segment ≠ "")
    (hs : '/' ∉ segment.toList) :
    repositorySegment? base (base ++ "/" ++ segment) = some segment := by
  have hfirst := firstSegment?_append (mt String.toList_eq_nil_iff.1 hne) hs (.inl rfl)
  rw [List.append_nil] at hfirst
  rw [repositorySegment?_behind, hfirst, Option.map_some, String.ofList_toList]

/-! ## Answers -/

namespace Service

variable {s : Service} {host path query repository : String} {request : Request} {m : RouteMatch}
  {requested translated : Option Sorting}

/-! ## Where paths lead -/

theorem routeMatch?_of_notMem (hbase : '\x7b' ∉ s.basePath.toList) :
    s.routeMatch? path = .ok (SortPath.routeMatch? s.basePath path) := by
  unfold routeMatch?
  split
  · next h => rw [h]
  · next m h =>
    have hdigits : m.excessDigits? = none := by
      rw [RouteMatch.excessDigits?, ((routeMatch?_eq_some_iff hbase).1 h).1]
      rfl
    rw [hdigits, h]

theorem destination?_iff (hbase : '\x7b' ∉ s.basePath.toList) :
    s.destination? path = .ok (some (.repository m)) ↔
      page? path = none ∧ m.arguments = [] ∧ m.segment ≠ "" ∧ '/' ∉ m.segment.toList ∧
        path = s.basePath ++ "/" ++ m.segment := by
  rw [destination?_eq_repository_iff, routeMatch?_of_notMem hbase, Except.ok.injEq,
    routeMatch?_eq_some_iff hbase]

theorem exists_destination? (hbase : '\x7b' ∉ s.basePath.toList) (path : String) :
    ∃ d?, s.destination? path = .ok d? := by
  rw [destination?]
  split
  · exact ⟨_, rfl⟩
  · rw [routeMatch?_of_notMem hbase]
    exact ⟨_, rfl⟩

/-- No page stands behind the base path where the path of no page ends in the segment. -/
theorem page?_append_eq_none {base segment : String}
    (h : (Page.all.all fun p => !('/' :: segment.toList).isSuffixOf p.path.toList &&
      !('/' :: segment.toList).isSuffixOf (p.path ++ "\n").toList) = true) :
    page? (base ++ "/" ++ segment) = none := by
  have hsuffix : '/' :: segment.toList <:+ (base ++ "/" ++ segment).toList := ⟨base.toList, by simp⟩
  refine List.find?_eq_none.2 fun p hp hat => ?_
  have hno := List.all_eq_true.1 h p hp
  simp only [Bool.and_eq_true, Bool.not_eq_true', ← Bool.not_eq_true, List.isSuffixOf_iff_suffix] at hno
  simp only [Page.isAt, Bool.or_eq_true, decide_eq_true_eq] at hat
  rcases hat with hat | hat
  · exact hno.1 (hat ▸ hsuffix)
  · exact hno.2 (hat ▸ hsuffix)

/-! ## Sortings -/

/-- The query asks for a sorting of the repository, and `translated` is what that resolves to for the
metadata of the model exposed there; there is none where the query asks for none. -/
structure Translates (s : Service) (repository query : String) (requested translated : Option Sorting) :
    Prop where
  parsed : s.sortingOf query = .ok requested
  unasked : requested = none → translated = none
  resolved : ∃ name entity, s.repositories.byPath.get? repository = some name ∧
    s.repositories.registry.entity? (.model name) = some entity ∧
    ∀ sorting, requested = some sorting →
      (s.catalog.resolve (some sorting) (some entity)).value = .ok translated

/-- What the answer to a request for a repository has to be: that the repository is unknown, whatever the
query, unless a model is exposed there; and then the sorting that the query asks for, its translation and
a key for each clause of that. -/
structure Answers (s : Service) (repository query : String) (answer : Response) : Prop where
  unknown : repository ∉ s.repositories.paths →
    answer.status = 404 ∧ answer = .unknownRepository repository
  known : repository ∈ s.repositories.paths → answer.status = 200 ∧
    ∃ requested translated, s.Translates repository query requested translated ∧
      answer = .sorted repository requested translated
        (((translated.map (·.clauses)).getD []).map fun k =>
          (k.property, if k.direction = .ascending then 1 else -1))

theorem sortingOf_eq_ok (hdelimiter : s.settings.delimiter ≠ "") (query : String) :
    ∃ requested, s.sortingOf query = .ok requested := by
  rw [sortingOf, SortParameter.parse, if_neg fun h => hdelimiter h.1]
  exact ⟨_, rfl⟩

/-- Where the URL of a request is its path, the request is about the model that its route names. -/
theorem domainType?_of_destination? (hbase : '\x7b' ∉ s.basePath.toList)
    (hd : s.destination? path = .ok (some (.repository m)))
    (hurl : Request.urlPath ⟨path, query, some host, none⟩ = .ok path) :
    s.domainType? ⟨path, query, some host, none⟩ =
      .ok ((s.repositories.byPath.get? m.segment).map .model) := by
  obtain ⟨-, -, hne, hs, hpath⟩ := (destination?_iff hbase).1 hd
  have htype : s.repositories.typeAt? s.basePath path =
      (s.repositories.byPath.get? m.segment).map .model := by
    rw [hpath, Repositories.typeAt?, repositorySegment?_append hne hs, Option.bind_some,
      Repositories.modelAt?, trimSlashes_of_notMem hs]
  rw [domainType?_of_urlPath rfl hurl, htype]

/-- The sorting for a request about a model with metadata is resolved and not passed on. -/
theorem resolution_of_domainType? (hn : s.catalog.Named) {t : TypeExpr} {e : Entity TypeExpr}
    (ht : s.domainType? request = .ok (some t)) (he : s.repositories.entity? t = some e) :
    ∃ translated, s.resolution requested request = .ok translated ∧
      (requested = none → translated = none) ∧ ∀ sorting, requested = some sorting →
        (s.catalog.resolve (some sorting) (some e)).value = .ok translated := by
  cases requested with
  | none => exact ⟨none, rfl, fun _ => rfl, by simp⟩
  | some sorting =>
    obtain ⟨translated, hresolve⟩ :
        ∃ translated, (s.catalog.resolve (some sorting) (some e)).value = .ok translated :=
      ⟨_, Catalog.value_resolve_of_named hn sorting⟩
    refine ⟨translated, ?_, by simp, fun sorting' h => ?_⟩
    · rw [resolution, resolve_of_domainType ht he, hresolve]
      rfl
    · cases h
      exact hresolve

theorem respond_get (hbase : '\x7b' ∉ s.basePath.toList)
    (hd : s.destination? path = .ok (some (.repository m))) : s.respond host "GET" path query =
      (s.sortedCollection ⟨path, query, some host, none⟩ (some m.segment)).mapError .sortParameter := by
  have hname : s.repositoryName? m.segment query = some m.segment := by
    rw [repositoryName?, if_pos (namesRepository_of_notMem hbase)]
  rw [respond, hd, ← hname]
  rfl

/-- A path that leads nowhere is redirected or not found, whatever the method. -/
theorem respond_of_destination?_eq_none (hbase : '\x7b' ∉ s.basePath.toList)
    (hd : s.destination? path = .ok none) (method : String) :
    s.respond host method path query = .ok .redirect ∨ s.respond host method path query = .ok .notFound := by
  obtain ⟨d?, htarget⟩ := exists_destination? hbase (redirectTarget path)
  simp only [respond, hd, htarget, bind, Except.bind, pure, Except.pure]
  split
  · exact .inr rfl
  · cases d? with
    | none => exact .inr rfl
    | some _ => exact .inl rfl

theorem sortedCollection_unknown (hp : s.sortingOf request.query = .ok requested)
    (hr : s.repositories.modelAt? repository = none) :
    s.sortedCollection request (some repository) = .ok (.unknownRepository repository) := by
  simp [sortedCollection, hp, hr, bind, Except.bind, pure, Except.pure]

theorem sortedCollection_known (hp : s.sortingOf request.query = .ok requested)
    (hr : s.repositories.modelAt? repository ≠ none)
    (hres : s.resolution requested request = .ok translated) :
    s.sortedCollection request (some repository) =
      .ok (.sorted repository requested translated (Mongo.keys translated)) := by
  simp [sortedCollection, hp, hr, hres, bind, Except.bind, pure, Except.pure]

theorem keys_eq_map (sorting : Option Sorting) :
    Mongo.keys sorting = ((sorting.map (·.clauses)).getD []).map fun k =>
      (k.property, if k.direction = .ascending then 1 else -1) := by
  refine List.map_congr_left fun k _ => ?_
  cases k.direction <;> rfl

/-- **No sorting is passed on.** Let the exposed models of a service have metadata, and no property a blank
name. A request whose path leads to a repository and is the path of its URL is answered by what is exposed
under the name in the route: that it is unknown, or the translation of the sorting that is asked for. -/
theorem respond_of_destination? (hs : s.repositories.Sound) (hn : s.catalog.Named)
    (hdelimiter : s.settings.delimiter ≠ "") (hbase : '\x7b' ∉ s.basePath.toList)
    (hd : s.destination? path = .ok (some (.repository m)))
    (hurl : Request.urlPath ⟨path, query, some host, none⟩ = .ok path) :
    ∃ answer, s.respond host "GET" path query = .ok answer ∧ s.Answers m.segment query answer := by
  obtain ⟨requested, hp⟩ := sortingOf_eq_ok hdelimiter query
  have hmodel : s.repositories.modelAt? m.segment = s.repositories.byPath.get? m.segment := by
    rw [Repositories.modelAt?, trimSlashes_of_notMem ((destination?_iff hbase).1 hd).2.2.2.1]
  rw [respond_get hbase hd]
  cases hr : s.repositories.byPath.get? m.segment with
  | none =>
    have hnot : m.segment ∉ s.repositories.paths := Table.get?_eq_none_iff.1 hr
    have hanswer : s.sortedCollection ⟨path, query, some host, none⟩ (some m.segment) =
        .ok (.unknownRepository m.segment) := sortedCollection_unknown hp (hmodel.trans hr)
    rw [hanswer]
    exact ⟨_, rfl, fun _ => ⟨rfl, rfl⟩, fun h => absurd h hnot⟩
  | some name =>
    have hmem : m.segment ∈ s.repositories.paths := Classical.byContradiction fun h => by
      rw [Table.get?_eq_none_iff.2 h] at hr
      cases hr
    obtain ⟨e, he⟩ := hs m.segment name hr
    have ht := domainType?_of_destination? hbase hd hurl
    rw [hr] at ht
    obtain ⟨translated, hres, hnone, hsome⟩ := resolution_of_domainType? hn ht he
    have hknown : s.repositories.modelAt? m.segment ≠ none := by rw [hmodel, hr]; simp
    have hanswer : s.sortedCollection ⟨path, query, some host, none⟩ (some m.segment) =
        .ok (.sorted m.segment requested translated (Mongo.keys translated)) :=
      sortedCollection_known hp hknown hres
    rw [hanswer, keys_eq_map]
    refine ⟨_, rfl, fun h => absurd hmem h, fun _ => ⟨rfl, requested, translated, ⟨hp, hnone, ?_⟩, rfl⟩⟩
    exact ⟨name, e, hr, (Repositories.entity?_eq_some_iff.1 he).2, hsome⟩

theorem registerAll_of_ofTypes {models : Models} {types : List (Option TypeExpr × Option String)}
    {backend? : Option Backend} {settings : Settings}
    (h : ofTypes models types backend? settings = .ok s) :
    s.settings = settings ∧ (Repositories.empty models).registerAll types = .ok s.repositories := by
  rw [ofTypes] at h
  cases hr : (Repositories.empty models).registerAll types with
  | error e =>
    rw [hr] at h
    cases h
  | ok rs =>
    rw [hr] at h
    cases h
    exact ⟨rfl, rfl⟩

theorem sound_of_ofTypes {models : Models} {types : List (Option TypeExpr × Option String)}
    {backend? : Option Backend} {settings : Settings}
    (h : ofTypes models types backend? settings = .ok s) :
    s.settings = settings ∧ s.repositories.registry.models = models ∧ s.repositories.Sound := by
  obtain ⟨hsettings, hr⟩ := registerAll_of_ofTypes h
  exact ⟨hsettings, Repositories.models_registerAll hr, (Repositories.sound_empty models).registerAll hr⟩

theorem exists_sample (settings : Settings) :
    ∃ s, sample settings = .ok s ∧ s.repositories.paths = ["people", "accounts"] := by
  have hpaths : ((Repositories.empty Sample.models).registerAll
      [(some (.model "Person"), some "people"), (some (.model "Account"), some "accounts")]).toOption.map
        Repositories.paths = some ["people", "accounts"] := by
    decide +kernel
  rw [sample, ofTypes]
  revert hpaths
  cases (Repositories.empty Sample.models).registerAll _ with
  | error e => intro h; cases h
  | ok rs => exact fun h => ⟨_, rfl, Option.some.inj h⟩

/-- **The sample service passes no sorting on.** Let the settings have a delimiter and a base path without
parameters.
* The route gets the paths that are the base path and one segment, if they lead to no page, and no page is in
  the way of an exposed model.
* Every `GET` request to the route whose path is the path of its URL is answered by what is exposed under the
  name in the route.
* The answer to any other one is a page, whatever the query, or holds no sorting. -/
theorem respond_sample (settings : Settings) (hdelimiter : settings.delimiter ≠ "")
    (hbase : '\x7b' ∉ settings.basePath.toList) :
    ∃ s, sample settings = .ok s ∧ s.settings = settings ∧
      s.repositories.paths = ["people", "accounts"] ∧
      (∀ path m, s.destination? path = .ok (some (.repository m)) ↔
        page? path = none ∧ m.arguments = [] ∧ m.segment ≠ "" ∧ '/' ∉ m.segment.toList ∧
          path = s.basePath ++ "/" ++ m.segment) ∧
      (∀ repository ∈ s.repositories.paths, page? (s.basePath ++ "/" ++ repository) = none) ∧
      (∀ host path query m, s.destination? path = .ok (some (.repository m)) →
        Request.urlPath ⟨path, query, some host, none⟩ = .ok path →
        ∃ answer, s.respond host "GET" path query = .ok answer ∧ s.Answers m.segment query answer) ∧
      (∀ host path query p, page? path = some p → s.respond host "GET" path query = .ok (.page p)) ∧
      ∀ host path query, s.destination? path = .ok none →
        s.respond host "GET" path query = .ok .redirect ∨ s.respond host "GET" path query = .ok .notFound := by
  obtain ⟨s, hsample, hpaths⟩ := exists_sample settings
  obtain ⟨rfl, hmodels, hsound⟩ := sound_of_ofTypes hsample
  have hnames : ∀ m ∈ s.repositories.registry.models, ∀ f ∈ m.fields,
      Text.isAllBlank f.name = false := by
    rw [hmodels]
    decide +kernel
  have hbrace : '\x7b' ∉ s.basePath.toList := notMem_normalizeBase (by decide) hbase
  refine ⟨s, hsample, rfl, hpaths, fun path m => destination?_iff hbrace, fun repository hr => ?_,
    fun host path query m hd hurl => ?_, fun host path query p hp => respond_of_page hp (by decide),
    fun host path query hd => respond_of_destination?_eq_none hbrace hd "GET"⟩
  · rw [hpaths, List.mem_cons, List.mem_singleton] at hr
    rcases hr with rfl | rfl <;> exact page?_append_eq_none (by decide +kernel)
  · exact respond_of_destination? hsound (Registry.catalog_named hnames) hdelimiter hbrace hd hurl

/-- Settings with a base path that has slashes too many. -/
def atApi : Settings := { Settings.default with basePath := "/api//" }

/-- The sorting of people by their last name, which is inlined, and the pages beside the base path. -/
theorem respond_sample_people : atApi.delimiter ≠ "" ∧ '\x7b' ∉ atApi.basePath.toList ∧
    ∃ s, sample atApi = .ok s ∧ s.destination? "/api/people" = .ok (some (.repository ⟨"people", []⟩)) ∧
      Request.urlPath ⟨"/api/people", "sort=last,desc", some "localhost", none⟩ = .ok "/api/people" ∧
      (∃ answer, s.respond "localhost" "GET" "/api/people" "sort=last,desc" = .ok answer ∧
        s.Answers "people" "sort=last,desc" answer ∧
        answer = .sorted "people" (some ⟨[⟨"last", .descending, .native, false, by decide⟩]⟩)
          (some ⟨[⟨"name.last_name", .descending, .native, false, by decide⟩]⟩)
          [("name.last_name", -1)]) ∧
      s.respond "localhost" "GET" "/openapi.json" "sort=last" = .ok (.page .schema) ∧
      (s.respond "localhost" "GET" "/people" "sort=last" = .ok .redirect ∨
        s.respond "localhost" "GET" "/people" "sort=last" = .ok .notFound) := by
  have hdelimiter : atApi.delimiter ≠ "" := by decide
  have hbase : '\x7b' ∉ atApi.basePath.toList := by decide
  have hurl : Request.urlPath ⟨"/api/people", "sort=last,desc", some "localhost", none⟩ =
      .ok "/api/people" := by with_unfolding_all rfl
  obtain ⟨s₀, hs₀, hd, hnowhere, hrun⟩ : ∃ s, sample atApi = .ok s ∧
      s.destination? "/api/people" = .ok (some (.repository ⟨"people", []⟩)) ∧
      s.destination? "/people" = .ok none ∧
      s.respond "localhost" "GET" "/api/people" "sort=last,desc" =
        .ok (.sorted "people" (some ⟨[⟨"last", .descending, .native, false, by decide⟩]⟩)
          (some ⟨[⟨"name.last_name", .descending, .native, false, by decide⟩]⟩)
          [("name.last_name", -1)]) := by
    refine ⟨_, rfl, ?_, ?_, ?_⟩ <;> with_unfolding_all rfl
  obtain ⟨s, hs, -, -, -, -, hanswers, hpages, helsewhere⟩ := respond_sample atApi hdelimiter hbase
  obtain rfl : s = s₀ := Except.ok.inj (hs.symm.trans hs₀)
  obtain ⟨answer, hanswer, hspec⟩ := hanswers _ _ _ _ hd hurl
  exact ⟨hdelimiter, hbase, s, hs, hd, hurl, ⟨answer, hanswer, hspec, Except.ok.inj (hanswer.symm.trans hrun)⟩,
    hpages _ _ _ _ (by decide), helsewhere _ _ _ hnowhere⟩

end Service

end SortPath
