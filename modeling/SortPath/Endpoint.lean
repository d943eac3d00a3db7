import SortPath.Route
import SortPath.Sample
import SortPath.Service

/-!
# The HTTP endpoint

`GET BASE/{repository}` answers with the sorting that the query string asks for and with what that
resolves to for the model of the repository. Where the last segment of the route does not name the
repository, a parameter of the query string does.

Before the route come the pages that the web framework adds to describe the endpoint: its schema and the
tools to look at it. They have fixed paths outside the base path, and what they lead to is answered before the
route is asked. So under the empty base path `GET /openapi.json` is no request for a repository. Which
requests the pages answer is modelled; what stands on them is not.

A path that leads nowhere, but would without the slashes at its end, or with one, is redirected.

Results:
* `Service.destination?_eq_repository_iff`: the route gets the paths that fit it and lead to no page.
* `Service.respond_of_page`: a page is the answer whatever the query and the settings.
-/
namespace SortPath

/-! ## Pages -/

/-- What describes the endpoint. -/
inductive Page
  | schema
  | explorer
  /-- Where the explorer comes back to after a login elsewhere. -/
  | explorerReturn
  | reference
deriving DecidableEq, Repr

namespace Page

def path : Page → String
  | schema => "/openapi.json"
  | explorer => "/docs"
  | explorerReturn => "/docs/oauth2-redirect"
  | reference => "/redoc"

def all : List Page := [schema, explorer, explorerReturn, reference]

/-- The methods that pages answer. -/
def methods : List String := ["GET", "HEAD"]

/-- A path leads to a page also with a line end behind it. -/
def isAt (p : Page) (path : String) : Bool := path = p.path || path = p.path ++ "\n"

end Page

/-- The page that a path leads to. -/
def page? (path : String) : Option Page := Page.all.find? (·.isAt path)

/-! ## Answers -/

inductive Response
  | sorted (repository : String) (requested resolved : Option Sorting) (keys : List (String × Int))
  | page (page : Page)
  | unknownRepository (repository : String)
  /-- The query string does not name the repository. -/
  | unnamedRepository
  | notFound
  | methodNotAllowed
  | redirect
  | failed (message : String)

namespace Response

def status : Response → Nat
  | sorted .. | page _ => 200
  | unknownRepository _ | notFound => 404
  | unnamedRepository => 422
  | methodNotAllowed => 405
  | redirect => 307
  | failed _ => 500

/-- What an answer without a sorting says about the reason. -/
def detail? : Response → Option String
  | sorted .. | page _ | redirect => none
  | unnamedRepository => some Problem.missing.message
  | unknownRepository r => some ("Unknown repository '" ++ r ++ "'")
  | notFound => some "Not Found"
  | methodNotAllowed => some "Method Not Allowed"
  | failed m => some ("Sort translation failed: " ++ m)

end Response

/-- Where a path that leads nowhere is redirected, if this leads somewhere: the path without the slashes at
its end, or with a slash if it has none. -/
def redirectTarget (path : String) : String :=
  match path.toList.reverse with
  | '/' :: cs => String.ofList (cs.dropWhile (· = '/')).reverse
  | _ => path ++ "/"

/-- Why a request gets no answer. -/
inductive EndpointError
  | sortParameter (e : SortParameter.Error)
  /-- An argument in the path has too many digits to be read as a whole number. -/
  | excessDigits (count : Nat)
deriving DecidableEq, Repr

def EndpointError.message : EndpointError → String
  | .sortParameter e => e.message
  | .excessDigits count =>
    "Exceeds the limit (" ++ toString digitLimit ++
      " digits) for integer string conversion: value has " ++ toString count ++
      " digits; use sys.set_int_max_str_digits() to increase the limit"

/-- What answers the requests for a path. -/
inductive Destination
  | page (page : Page)
  | repository (m : RouteMatch)
deriving DecidableEq, Repr

namespace Service

/-- Answer a request for the sorting of a repository, which may not be named. -/
def sortedCollection (s : Service) (request : Request) (repository? : Option String) :
    Except SortParameter.Error Response := do
  let requested ← s.sortingOf request.query
  match repository? with
  | none => return .unnamedRepository
  | some repository =>
    if s.repositories.modelAt? repository = none then return .unknownRepository repository
    match s.resolution requested request with
    | .ok resolved => return .sorted repository requested resolved (Mongo.keys resolved)
    | .error e => return .failed e.message

/-- The name of the repository that a request is about: the last segment of its path, or the last value
of the parameter of that name. -/
def repositoryName? (s : Service) (segment query : String) : Option String :=
  if namesRepository s.basePath then some segment
  else (Query.values query repositoryName).getLast?

/-- How a path fits the route; an argument with too many digits is an error. -/
def routeMatch? (s : Service) (path : String) : Except EndpointError (Option RouteMatch) :=
  match SortPath.routeMatch? s.basePath path with
  | none => .ok none
  | some m => match m.excessDigits? with
    | some count => .error (.excessDigits count)
    | none => .ok (some m)

/-- Where a path leads: pages come before the route. -/
def destination? (s : Service) (path : String) : Except EndpointError (Option Destination) :=
  match page? path with
  | some p => .ok (some (.page p))
  | none => (s.routeMatch? path).map (·.map .repository)

/-- Answer an HTTP request to a host. -/
def respond (s : Service) (host method path query : String) : Except EndpointError Response := do
  match ← s.destination? path with
  | some (.page p) => return if method ∈ Page.methods then .page p else .methodNotAllowed
  | some (.repository m) =>
    if method = "GET" then
      (s.sortedCollection ⟨path, query, some host, none⟩ (s.repositoryName? m.segment query)).mapError
        .sortParameter
    else return .methodNotAllowed
  | none =>
    if path = "/" then return .notFound
    match ← s.destination? (redirectTarget path) with
    | some _ => return .redirect
    | none => return .notFound

/-- The service of the sample models. -/
def sample (settings : Settings) : Except RegistrationError Service :=
  ofTypes Sample.models
    [(some (.model "Person"), some "people"), (some (.model "Account"), some "accounts")]
    (some .mongo) settings

/-! ## Where paths lead -/

variable {s : Service} {host method path query : String}

theorem destination?_eq_repository_iff {m : RouteMatch} : s.destination? path = .ok (some (.repository m)) ↔
    page? path = none ∧ s.routeMatch? path = .ok (some m) := by
  unfold destination?
  split
  · next h => simp [h]
  · next h =>
    cases s.routeMatch? path with
    | error e => simp [Except.map]
    | ok m? => cases m? <;> simp [Except.map, h]

/-- The answer to a request for a page does not depend on the query, nor on the settings. -/
theorem respond_of_page {p : Page} (hp : page? path = some p) (hmethod : method ∈ Page.methods) :
    s.respond host method path query = .ok (.page p) := by
  have hdestination : s.destination? path = .ok (some (.page p)) := by rw [destination?, hp]
  simp [respond, hdestination, hmethod, bind, Except.bind, pure, Except.pure]

end Service

end SortPath
