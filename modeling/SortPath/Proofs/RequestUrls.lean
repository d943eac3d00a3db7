import Mathlib.Data.List.TakeWhile
import SortPath.Request

/-!
# The path in the URL of a request

A request is told by its host and its path, and the URL put together from them is read again for the path in
it. Not every URL can be read, and tabs and line ends in it do not count. Where a request names a host that
can stand in a URL, and its path begins with a slash, there is always a path in the URL, and it is the path
of the request if nothing in that needs an escape.

Results:
* `Url.path_of_host`: what stands behind a host is the path.
* `Request.urlPath_of_host`, `Request.urlPath_eq_path`: the path in the URL of a request that names a host.
-/
namespace SortPath

theorem slash_append_iff {text : String} :
    (∃ tail, text = "/" ++ tail) ↔ ∃ cs, text.toList = '/' :: cs := by
  simp only [← String.toList_inj, String.toList_append]
  constructor
  · intro h
    obtain ⟨tail, h⟩ := h
    exact ⟨tail.toList, h⟩
  · intro h
    obtain ⟨cs, h⟩ := h
    exact ⟨String.ofList cs, by simp [h]⟩

namespace Url

/-- A text without the tabs and line ends in it. -/
def unbroken (cs : List Char) : List Char := cs.filter fun c => c ≠ '\t' && c ≠ '\r' && c ≠ '\n'

/-- Nothing in the path is escaped in a URL, or left out of it. -/
def isPlain (path : List Char) : Bool := path.all fun c => c ∉ ['?', '#', '\\', '\t', '\r', '\n']

/-- A host that can stand in a URL: nothing in it ends it or is left out, and it is no bad address. -/
structure IsHost (host : List Char) : Prop where
  inside : host.all inAuthority = true
  unbroken : unbroken host = host
  valid : authorityError? host = none

theorem path_of_host {host rest : List Char} (hhost : IsHost host)
    (hrest : ∀ c ∈ rest, (c ≠ '?' && c ≠ '#') = true) :
    path ("http://".toList ++ (host ++ '/' :: rest)) = .ok ('/' :: unbroken rest) := by
  have hclean : cleaned ("http://".toList ++ (host ++ '/' :: rest)) =
      "http://".toList ++ (host ++ '/' :: unbroken rest) := by
    have hunbroken : unbroken ("http://".toList ++ (host ++ '/' :: rest)) =
        "http://".toList ++ (host ++ '/' :: unbroken rest) := by
      rw [unbroken, List.filter_append, List.filter_append, ← unbroken, ← unbroken, hhost.unbroken]
      rfl
    rw [← hunbroken]
    rfl
  have hscheme : afterScheme ("http://".toList ++ (host ++ '/' :: unbroken rest)) =
      '/' :: '/' :: (host ++ '/' :: unbroken rest) := rfl
  have hsplit : splitAuthority ('/' :: '/' :: (host ++ '/' :: unbroken rest)) =
      (host, '/' :: unbroken rest) := by
    have hinside : ∀ c ∈ host, inAuthority c = true := List.all_eq_true.1 hhost.inside
    rw [splitAuthority, List.takeWhile_append_of_pos hinside, List.dropWhile_append_of_pos hinside]
    simp [inAuthority]
  have htake : ('/' :: unbroken rest).takeWhile (fun c => c ≠ '?' && c ≠ '#') = '/' :: unbroken rest :=
    List.takeWhile_eq_self_iff.2 fun c hc => by
      rcases List.mem_cons.1 hc with rfl | hc
      · rfl
      · exact hrest c (List.mem_filter.1 hc).1
  simp only [path, hclean, hscheme, hsplit, hhost.valid, htake]

end Url

namespace Request

variable {request : Request} {host tail : String}

theorem mem_flatMap_escapePathChar {cs : List Char} {c : Char} (h : c ∈ cs.flatMap escapePathChar) :
    (c ≠ '?' && c ≠ '#') = true := by
  obtain ⟨d, -, hc⟩ := List.mem_flatMap.1 h
  have hescapes : ∀ e ∈ ["%3F".toList, "%23".toList, "%5C".toList],
      (e.all fun c => c ≠ '?' && c ≠ '#') = true := by decide
  rw [escapePathChar] at hc
  split at hc
  · exact List.all_eq_true.1 (hescapes _ (by simp)) c hc
  · split at hc
    · exact List.all_eq_true.1 (hescapes _ (by simp)) c hc
    · split at hc
      · exact List.all_eq_true.1 (hescapes _ (by simp)) c hc
      · simp_all

/-- The path of a request that names a host, and whose path begins with a slash, can be read off its URL.
It is the path with its escapes, without tabs and line ends. -/
theorem urlPath_of_host (hhost : request.host? = some host) (hvalid : Url.IsHost host.toList)
    (hpath : request.path = "/" ++ tail) : request.urlPath =
      .ok (String.ofList (Url.unbroken (request.path.toList.flatMap escapePathChar))) := by
  obtain ⟨cs, hcs⟩ := slash_append_iff.1 ⟨tail, hpath⟩
  have hescaped : request.path.toList.flatMap escapePathChar = '/' :: cs.flatMap escapePathChar := by
    rw [hcs]
    rfl
  have hurl : request.url = "http://".toList ++ (host.toList ++ '/' :: cs.flatMap escapePathChar) := by
    rw [url, hhost, ← List.append_assoc, ← hescaped]
  rw [urlPath, hurl, Url.path_of_host hvalid fun c => mem_flatMap_escapePathChar, hescaped]
  rfl

/-- Without anything to escape or to leave out, the path in the URL is the path. -/
theorem urlPath_eq_path (hhost : request.host? = some host) (hvalid : Url.IsHost host.toList)
    (hpath : request.path = "/" ++ tail)
    (hplain : Url.isPlain request.path.toList = true) :
    request.urlPath = .ok request.path := by
  have hescaped : request.path.toList.flatMap escapePathChar = request.path.toList := by
    have hsame : ∀ c ∈ request.path.toList, escapePathChar c = [c] := fun c hc => by
      have := List.all_eq_true.1 hplain c hc
      simp_all [escapePathChar]
    rw [List.flatMap_def, List.map_congr_left hsame, ← List.flatMap_def, List.flatMap_singleton']
  have hunbroken : Url.unbroken request.path.toList = request.path.toList :=
    List.filter_eq_self.2 fun c hc => by
      have := List.all_eq_true.1 hplain c hc
      simp_all
  rw [urlPath_of_host hhost hvalid hpath, hescaped, hunbroken, String.ofList_toList]

end Request

end SortPath
