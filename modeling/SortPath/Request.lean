import SortPath.Repositories
import SortPath.Url

/-!
# Requests and the models they are about

The URL of a request decides which model it is about: the first segment of the path after the base
path names a repository. An endpoint may be bound to a type, which then counts whatever the URL.

Results:
* `afterBase?_eq_some_iff`: a path lies under the base path if it goes on from there with a slash or
  ends there.
* `Request.domainType?_of_unbound`: without a binding the path in the URL decides.
-/
namespace SortPath

structure Request where
  path : String
  query : String
  /-- The host that the request names, which stands before the path in its URL. -/
  host? : Option String
  /-- The type that the endpoint is bound to. -/
  binding : Option TypeExpr

/-! ## The path in the URL -/

/-- The escape of a character that would end or split the path of a URL. -/
def escapePathChar (c : Char) : List Char :=
  if c = '?' then "%3F".toList
  else if c = '#' then "%23".toList
  else if c = '\\' then "%5C".toList
  else [c]

/-- The URL of a request up to its query. Without a host it begins with the path, and the second of two
slashes at the beginning of that is escaped, for two would announce a host. -/
def Request.url (r : Request) : List Char :=
  match r.host?, r.path.toList with
  | some host, cs => "http://".toList ++ host.toList ++ cs.flatMap escapePathChar
  | none, '/' :: '/' :: cs => '/' :: "%2F".toList ++ cs.flatMap escapePathChar
  | none, cs => cs.flatMap escapePathChar

/-- The path in the URL of a request. -/
def Request.urlPath (r : Request) : Except Url.Error String := (Url.path r.url).map String.ofList

/-! ## Base paths -/

/-- A base path with one slash in front and none behind; only slashes mean no base path. -/
def normalizeBase (base : String) : String :=
  let inner := Text.trimSlashes base
  if inner = "" then "" else "/" ++ inner

/-- What follows the base in a path that lies under it. -/
def afterBase? (base path : List Char) : Option (List Char) :=
  if base = [] then some path
  else if path = base ∨ (base ++ ['/']).isPrefixOf path then some (path.drop base.length)
  else none

/-- The first segment that is not empty. -/
def firstSegment? (path : List Char) : Option (List Char) :=
  match (path.dropWhile (· = '/')).takeWhile (· ≠ '/') with
  | [] => none
  | cs => some cs

/-- The segment of a path that names a repository. -/
def repositorySegment? (base path : String) : Option String :=
  ((afterBase? base.toList path.toList).bind firstSegment?).map String.ofList

/-- The exposed type that a path of a URL leads to, under a normalized base path. -/
def Repositories.typeAt? (rs : Repositories) (base path : String) : Option TypeExpr :=
  (repositorySegment? base path).bind fun s => (rs.modelAt? s).map .model

/-- The type that a request is about, under a normalized base path. -/
def Request.domainType? (r : Request) (rs : Repositories) (base : String) :
    Except Url.Error (Option TypeExpr) :=
  match r.binding with
  | some t => .ok (some t)
  | none => r.urlPath.map (rs.typeAt? base)

theorem afterBase?_eq_some_iff {base path rest : List Char} :
    afterBase? base path = some rest ↔
      path = base ++ rest ∧ (base = [] ∨ rest = [] ∨ ∃ r, rest = '/' :: r) := by
  unfold afterBase?
  split
  · next h => subst h; simp
  · next h =>
    split
    · next hp =>
      rw [List.isPrefixOf_iff_prefix] at hp
      rcases hp with rfl | ⟨r, rfl⟩
      · simp [h, eq_comm]
        rintro rfl; exact .inl rfl
      · simp [h]
        rintro rfl; exact .inr ⟨r, rfl⟩
    · next hp =>
      rw [List.isPrefixOf_iff_prefix] at hp
      simp only [reduceCtorEq, false_iff]
      rintro ⟨rfl, h' | rfl | ⟨r, rfl⟩⟩
      · exact h h'
      · exact hp (.inl (by simp))
      · exact hp (.inr ⟨r, by simp⟩)

theorem Request.domainType?_of_unbound {r : Request} {rs : Repositories} {base path : String}
    (hbinding : r.binding = none) (hurl : r.urlPath = .ok path) :
    r.domainType? rs base = .ok (rs.typeAt? base path) := by
  rw [domainType?, hbinding, hurl]
  rfl

end SortPath
