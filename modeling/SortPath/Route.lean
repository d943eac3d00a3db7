import SortPath.Text.Blank
import SortPath.Url.Address

/-!
# Routes

The route to a repository is a base path and one more segment. Parameters in braces may stand in the
base path; `{name}` fits one segment or a part of it, and `{name:kind}` what its kind says. A path that
fits gives each parameter a text, to those in front as much as they can take.

The last segment names the repository if the braces around its name are a pair of their own; an opening
brace that is left over in the base path takes the closing one away.

Results:
* `routeMatch?_eq_some_iff`: without parameters the paths with one segment behind the base path fit.
* `namesRepository_of_notMem`: without braces in the base path the last segment names the repository.
-/
namespace SortPath

/-! ## Parameters -/

inductive Wildcard
  | segment
  | path
  | digits
  | decimal
  | uuid
deriving DecidableEq, Repr

namespace Wildcard

def words : List (String × Wildcard) :=
  [("str", segment), ("path", path), ("int", digits), ("float", decimal), ("uuid", uuid)]

/-- Groups of so many hexadecimal digits, with or without hyphens between them. -/
def isHexGroups : List Nat → List Char → Bool
  | [], cs => cs = []
  | n :: ns, cs =>
    let rest := cs.drop n
    (cs.take n).length = n && (cs.take n).all Url.isHexDigit &&
      isHexGroups ns (if ns ≠ [] ∧ rest.head? = some '-' then rest.drop 1 else rest)

/-- The texts that a parameter fits. -/
def accepts : Wildcard → List Char → Bool
  | segment, cs => cs ≠ [] && '/' ∉ cs
  | path, cs => '\n' ∉ cs
  | digits, cs => cs ≠ [] && cs.all (·.isDigit)
  | decimal, cs =>
    match cs.takeWhile (·.isDigit), cs.dropWhile (·.isDigit) with
    | _ :: _, [] => true
    | _ :: _, '.' :: fraction => fraction ≠ [] && fraction.all (·.isDigit)
    | _, _ => false
  | uuid, cs => isHexGroups [8, 4, 4, 4, 12] cs

end Wildcard

structure Parameter where
  name : String
  kind : String
deriving DecidableEq, Repr

/-! ## Base paths with parameters -/

inductive Piece
  | literal (c : Char)
  | parameter (p : Parameter)
deriving DecidableEq, Repr

/-- A name at the beginning, and what follows it. -/
def identifier? (cs : List Char) : Option (List Char × List Char) :=
  let inName (c : Char) := c.isAlphanum || c = '_'
  if cs.head?.any fun c => c.isAlpha || c = '_' then some (cs.takeWhile inName, cs.dropWhile inName)
  else none

/-- A parameter after its opening brace, and what follows it. -/
def parameter? (cs : List Char) : Option (Parameter × List Char) := do
  let (name, rest) ← identifier? cs
  match rest with
  | '\x7d' :: rest => return (⟨String.ofList name, "str"⟩, rest)
  | ':' :: rest =>
    let (kind, rest) ← identifier? rest
    match rest with
    | '\x7d' :: rest => return (⟨String.ofList name, String.ofList kind⟩, rest)
    | _ => none
  | _ => none

/-- The pieces of a base path, where `skip` characters of a parameter are still to be passed over. -/
def piecesFrom : Nat → List Char → List Piece
  | _, [] => []
  | skip + 1, _ :: cs => piecesFrom skip cs
  | 0, c :: cs =>
    if c = '\x7b' then
      match parameter? cs with
      | some (p, rest) => .parameter p :: piecesFrom (cs.length - rest.length) cs
      | none => .literal c :: piecesFrom 0 cs
    else .literal c :: piecesFrom 0 cs

def pieces (base : List Char) : List Piece := piecesFrom 0 base

/-- A parameter with the text that it gets. -/
structure Argument where
  parameter : Parameter
  text : List Char
deriving DecidableEq, Repr

/-- The arguments of a text that fits the pieces, where each parameter in turn gets the longest text with
which the rest fits; a parameter of no known kind fits nothing. -/
def arguments? : List Piece → List Char → Option (List Argument)
  | [], cs => if cs = [] then some [] else none
  | .literal c :: ps, cs => match cs with
    | d :: ds => if c = d then arguments? ps ds else none
    | [] => none
  | .parameter p :: ps, cs =>
    (Wildcard.words.lookup p.kind).bind fun w =>
      (List.range (cs.length + 1)).reverse.findSome? fun i =>
        if w.accepts (cs.take i) then (arguments? ps (cs.drop i)).map (⟨p, cs.take i⟩ :: ·)
        else none

/-- A path that fits the route: its last segment, and the arguments of the base path. -/
structure RouteMatch where
  segment : String
  arguments : List Argument
deriving DecidableEq, Repr

/-- How a path fits the route under a normalized base path. -/
def routeMatch? (base path : String) : Option RouteMatch :=
  let reversed := path.toList.reverse
  let segment := (reversed.takeWhile (· ≠ '/')).reverse
  match reversed.dropWhile (· ≠ '/') with
  | _ :: before =>
    if segment = [] then none
    else (arguments? (pieces base.toList) before.reverse).map fun as =>
      ⟨String.ofList segment, as⟩
  | [] => none

/-- The most digits that a whole number is read from. -/
def digitLimit : Nat := 4300

/-- The number of digits of the first argument that has too many to be read as a whole number. -/
def RouteMatch.excessDigits? (m : RouteMatch) : Option Nat :=
  m.arguments.findSome? fun a =>
    if Wildcard.words.lookup a.parameter.kind = some .digits ∧ digitLimit < a.text.length then
      some a.text.length
    else none

/-! ## Names in braces -/

/-- What stands in pairs of braces within a line, where an opening brace takes the next closing one. -/
def bracedNames : List Char → List (List Char)
  | [] => []
  | '\x7b' :: cs =>
    let inName (c : Char) := c ≠ '\x7d' && c ≠ '\n'
    match _closed : cs.dropWhile inName with
    | '\x7d' :: rest => cs.takeWhile inName :: bracedNames rest
    | _ => bracedNames cs
  | _ :: cs => bracedNames cs
termination_by cs => cs.length
decreasing_by
  · have := (List.dropWhile_sublist inName (l := cs)).length_le
    rw [_closed, List.length_cons] at this
    simp only [List.length_cons]; omega
  · simp
  · simp

/-- The name of the last segment. -/
def repositoryName : String := "repository"

/-- The route as it is written, without the kinds of the parameters. -/
def routeText (base : List Char) : List Char :=
  (pieces base).flatMap (fun
    | .literal c => [c]
    | .parameter p => '\x7b' :: p.name.toList ++ ['\x7d']) ++
  "/\x7b".toList ++ repositoryName.toList ++ "\x7d".toList

/-- Whether the last segment names the repository. -/
def namesRepository (base : String) : Bool :=
  (bracedNames (routeText base.toList)).contains repositoryName.toList

/-! ## Errors -/

inductive RouteError
  | unknownKind (kind : String)
  /-- Parameters whose names occur more than once, in a route. -/
  | repeatedNames (names : List String) (route : String)
deriving DecidableEq, Repr

def RouteError.message : RouteError → String
  | unknownKind kind => "Unknown path convertor '" ++ kind ++ "'"
  | repeatedNames names route =>
    "Duplicated param name" ++ (if names.length > 1 then "s " else " ") ++ ", ".intercalate names ++
      " at path " ++ route

/-- What is wrong with the route under a normalized base path. -/
def routeError? (base : String) : Option RouteError :=
  let parameters := (pieces base.toList).filterMap fun
    | .parameter p => some p
    | .literal _ => none
  match parameters.find? fun p => (Wildcard.words.lookup p.kind).isNone with
  | some p => some (.unknownKind p.kind)
  | none =>
    let names := parameters.map (·.name) ++ [repositoryName]
    match (names.filter fun n => names.count n > 1).eraseDups.mergeSort (· ≤ ·) with
    | [] => none
    | repeated => some (.repeatedNames repeated (base ++ "/\x7brepository\x7d"))

/-! ## Routes without parameters -/

theorem pieces_eq_map {cs : List Char} (h : '\x7b' ∉ cs) : pieces cs = cs.map .literal := by
  unfold pieces
  induction cs with
  | nil => rfl
  | cons c cs ih =>
    rw [List.mem_cons, not_or] at h
    rw [piecesFrom, if_neg (Ne.symm h.1), ih h.2, List.map_cons]

theorem arguments?_literals_eq_some_iff {cs ds : List Char} {as : List Argument} :
    arguments? (cs.map .literal) ds = some as ↔ as = [] ∧ ds = cs := by
  induction cs generalizing ds with
  | nil => cases ds <;> simp [arguments?, eq_comm]
  | cons c cs ih =>
    cases ds with
    | nil => simp [arguments?]
    | cons d ds =>
      rw [List.map_cons, arguments?]
      by_cases h : c = d
      · simp [h, ih]
      · simp [h, Ne.symm h]

/-- Read from its end, a text is cut at the last slash in it. -/
theorem cut_lastSlash_iff {cs before segment : List Char} :
    cs.reverse.takeWhile (· ≠ '/') = segment.reverse ∧
        cs.reverse.dropWhile (· ≠ '/') = '/' :: before.reverse ↔
      '/' ∉ segment ∧ cs = before ++ '/' :: segment := by
  constructor
  · intro h
    obtain ⟨ht, hd⟩ := h
    have hsplit : cs.reverse.takeWhile (· ≠ '/') ++ cs.reverse.dropWhile (· ≠ '/') = cs.reverse :=
      List.takeWhile_append_dropWhile
    rw [ht, hd] at hsplit
    refine ⟨fun hm => ?_, ?_⟩
    · rw [← List.mem_reverse, ← ht] at hm
      simpa using List.all_eq_true.1 List.all_takeWhile _ hm
    · rw [← List.reverse_reverse cs, ← hsplit]
      simp
  · intro h
    obtain ⟨hs, rfl⟩ := h
    have hall : ∀ c ∈ segment.reverse, decide (c ≠ '/') = true := fun c hc => by
      rw [decide_eq_true_eq]
      rintro rfl
      exact hs (List.mem_reverse.1 hc)
    rw [List.reverse_append, List.reverse_cons, List.append_assoc, List.takeWhile_append_of_pos hall,
      List.dropWhile_append_of_pos hall]
    simp

theorem routeMatch?_eq_some_iff {base path : String} {m : RouteMatch} (hbase : '\x7b' ∉ base.toList) :
    routeMatch? base path = some m ↔ m.arguments = [] ∧ m.segment ≠ "" ∧ '/' ∉ m.segment.toList ∧
      path = base ++ "/" ++ m.segment := by
  have hpath : path = base ++ "/" ++ m.segment ↔
      path.toList = base.toList ++ '/' :: m.segment.toList := by
    rw [← String.toList_inj]
    simp
  rw [routeMatch?, pieces_eq_map hbase, hpath]
  constructor
  · intro h
    split at h
    · next c before hbefore =>
      obtain rfl : c = '/' := by simpa using Text.head_dropWhile hbefore
      split at h
      · cases h
      · next hne =>
        obtain ⟨as, has, rfl⟩ := Option.map_eq_some_iff.1 h
        obtain ⟨rfl, hb⟩ := arguments?_literals_eq_some_iff.1 has
        rw [← List.reverse_reverse before, hb] at hbefore
        obtain ⟨hs, hcs⟩ := cut_lastSlash_iff.1 ⟨(List.reverse_reverse _).symm, hbefore⟩
        rw [String.toList_ofList]
        exact ⟨rfl, by simpa using hne, hs, hcs⟩
    · cases h
  · intro h
    obtain ⟨ha, hne, hs, hcs⟩ := h
    obtain ⟨ht, hd⟩ := cut_lastSlash_iff.2 ⟨hs, hcs⟩
    have hne' : m.segment.toList ≠ [] := by simpa using hne
    rw [ht, hd]
    dsimp only
    rw [List.reverse_reverse, if_neg hne', List.reverse_reverse,
      arguments?_literals_eq_some_iff.2 ⟨rfl, rfl⟩, String.ofList_toList, ← ha]
    rfl

theorem bracedNames_append {cs : List Char} (h : '\x7b' ∉ cs) (ds : List Char) :
    bracedNames (cs ++ ds) = bracedNames ds := by
  induction cs with
  | nil => rfl
  | cons c cs ih =>
    rw [List.mem_cons, not_or] at h
    rw [List.cons_append, bracedNames, ih h.2]
    exact fun e => h.1 e.symm

theorem namesRepository_of_notMem {base : String} (h : '\x7b' ∉ base.toList) :
    namesRepository base = true := by
  have hl : ((base.toList.map Piece.literal).flatMap fun
      | .literal c => [c]
      | .parameter p => '\x7b' :: p.name.toList ++ ['\x7d']) = base.toList := by
    simp [List.flatMap_map, List.flatMap_singleton']
  rw [namesRepository, routeText, pieces_eq_map h, hl, List.append_assoc, List.append_assoc,
    bracedNames_append h]
  decide +kernel

end SortPath
