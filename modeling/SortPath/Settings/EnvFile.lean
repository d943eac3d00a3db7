import SortPath.Table
import SortPath.Text.Blank

/-!
# Environment files

An environment file is a sequence of bindings `KEY=value`, each on a line of its own and perhaps after
the word `export`; a byte order mark may stand at the beginning. A value stands in single or double
quotes, which may span lines, or runs to the end of its line or to a comment. A key without `=` is bound
to no value. A line that cannot be read is skipped. The last binding of a key counts.

A value may refer to variables: `${NAME}` stands for the variable of that name in the environment or bound
before, and `${NAME:-text}` for the text if there is none.

Results:
* `length_reference?_le`: what follows a reference is no longer than the text before it was read.
-/
namespace SortPath.EnvFile

/-- White space within a line. -/
def isInlineBlank (c : Char) : Bool := Text.isBlank c && c ≠ '\n' && c ≠ '\r'

def isLineEnd (c : Char) : Bool := c = '\n' || c = '\r'

def skipInline (cs : List Char) : List Char := cs.dropWhile isInlineBlank

/-- What follows the line end at the beginning, if one is there; a carriage return and a line feed
after it are one line end. -/
def lineEnd? : List Char → Option (List Char)
  | [] => some []
  | '\r' :: '\n' :: cs => some cs
  | c :: cs => if isLineEnd c then some cs else none

/-- What follows the rest of the line. -/
def restOfLine (cs : List Char) : List Char := (cs.dropWhile fun c => !isLineEnd c).drop 1

/-- Without `export` and the white space after it, where both stand at the beginning. -/
def skipExport (cs : List Char) : List Char :=
  let rest := cs.drop 6
  if "export".toList.isPrefixOf cs ∧ rest.head?.any isInlineBlank then skipInline rest else cs

/-- A key, with what follows it. A comment has none. -/
def key? : List Char → Option (Option (List Char) × List Char)
  | '#' :: cs => some (none, '#' :: cs)
  | '\'' :: cs =>
    match cs.takeWhile (· ≠ '\''), cs.dropWhile (· ≠ '\'') with
    | [], _ | _, [] => none
    | key, _ :: rest => some (some key, rest)
  | cs =>
    let inKey c := c ≠ '=' && c ≠ '#' && !Text.isBlank c
    match cs.takeWhile inKey with
    | [] => none
    | key => some (some key, cs.dropWhile inKey)

/-- The text up to the closing quote, with what follows the quote. A backslash takes the next character
with it. -/
def untilQuote? (quote : Char) : List Char → Option (List Char × List Char)
  | [] => none
  | '\\' :: c :: cs => (untilQuote? quote cs).map fun e => ('\\' :: c :: e.1, e.2)
  | c :: cs =>
    if c = quote then some ([], cs) else (untilQuote? quote cs).map fun e => (c :: e.1, e.2)

/-- The escapes in single quotes. -/
def singleEscapes : List (Char × Char) := [('\\', '\\'), ('\'', '\'')]

/-- The escapes in double quotes. -/
def doubleEscapes : List (Char × Char) :=
  [('\\', '\\'), ('\'', '\''), ('"', '"'), ('a', '\x07'), ('b', '\x08'), ('f', '\x0c'), ('n', '\n'),
   ('r', '\r'), ('t', '\t'), ('v', '\x0b')]

/-- Replace the escapes of a table, and leave other backslashes. -/
def unescape (escapes : List (Char × Char)) : List Char → List Char
  | '\\' :: c :: cs =>
    match escapes.lookup c with
    | some d => d :: unescape escapes cs
    | none => '\\' :: unescape escapes (c :: cs)
  | c :: cs => c :: unescape escapes cs
  | [] => []

/-- A value without the comment that white space and `#` begin. -/
def withoutComment (afterBlank : Bool) : List Char → List Char
  | [] => []
  | c :: cs =>
    if afterBlank && c = '#' then [] else c :: withoutComment (Text.isBlank c) cs

/-- A value without quotes, with what follows its line; `afterBlank` says whether white space stands
before it. -/
def plainValue (afterBlank : Bool) (cs : List Char) : List Char × List Char :=
  let line := cs.takeWhile fun c => !isLineEnd c
  (((withoutComment afterBlank line).reverse.dropWhile Text.isBlank).reverse,
    cs.dropWhile fun c => !isLineEnd c)

/-- The value after an equals sign, with what follows it. -/
def value? (cs : List Char) : Option (List Char × List Char) :=
  match skipInline cs with
  | '\'' :: rest => (untilQuote? '\'' rest).map fun e => (unescape singleEscapes e.1, e.2)
  | '"' :: rest => (untilQuote? '"' rest).map fun e => (unescape doubleEscapes e.1, e.2)
  | rest => some (plainValue (cs.head?.any isInlineBlank) rest)

/-- What follows a comment, if one begins here after white space. -/
def skipComment (cs : List Char) : List Char :=
  match skipInline cs with
  | '#' :: rest => rest.dropWhile fun c => !isLineEnd c
  | _ => cs

/-- A key with its value. -/
abbrev Binding := String × Option String

/-- The binding, if any, of a line with what follows the line. -/
def binding (cs : List Char) : Option Binding × List Char :=
  let cs := skipExport cs
  match key? cs with
  | none => (none, restOfLine cs)
  | some (key?, afterKey) =>
    let finish (value? : Option (List Char)) (after : List Char) :=
      match lineEnd? (skipInline (skipComment after)) with
      | some rest => (key?.map fun k => (String.ofList k, value?.map String.ofList), rest)
      | none => (none, restOfLine (skipComment after))
    match skipInline afterKey with
    | '=' :: cs =>
      match value? cs with
      | some (value, rest) => finish (some value) rest
      | none => (none, restOfLine (skipInline cs))
    | cs => finish none cs

/-- The bindings of a file. -/
def bindings (cs : List Char) : List Binding :=
  match cs.dropWhile Text.isBlank with
  | [] => []
  | c :: rest =>
    let (b?, next) := binding (c :: rest)
    if _shorter : next.length < cs.length then b?.toList ++ bindings next else b?.toList
termination_by cs.length

/-- A file without the byte order mark at its beginning. -/
def withoutMark : List Char → List Char
  | c :: cs => if c.toNat = 0xFEFF then cs else c :: cs
  | [] => []

/-! ## References to variables -/

/-- A reference without its beginning: the name, the text for the case that the variable is missing, and
what follows. -/
def reference? (cs : List Char) : Option (List Char × List Char × List Char) :=
  let inName c := c ≠ '\x7d' && c ≠ ':'
  let name := cs.takeWhile inName
  match cs.dropWhile inName with
  | '\x7d' :: rest => some (name, [], rest)
  | ':' :: '-' :: rest =>
    match rest.dropWhile (· ≠ '\x7d') with
    | _ :: after => some (name, rest.takeWhile (· ≠ '\x7d'), after)
    | [] => none
  | _ => none

theorem length_reference?_le {cs name missing rest : List Char}
    (h : reference? cs = some (name, missing, rest)) : rest.length ≤ cs.length := by
  have hd := (List.dropWhile_sublist (fun c => c ≠ '\x7d' && c ≠ ':') (l := cs)).length_le
  simp only [reference?] at h
  split at h
  · next he => cases h; rw [he] at hd; exact Nat.le_of_succ_le hd
  · next r he =>
    have hr := (List.dropWhile_sublist (fun c => decide (c ≠ '\x7d')) (l := r)).length_le
    split at h
    · next he' => cases h; rw [he] at hd; rw [he'] at hr; simp only [List.length_cons] at hd hr; omega
    · cases h
  · cases h

/-- Replace the references in a text, by the value of a name and the text for a missing one. -/
def expand (value : List Char → List Char → List Char) : List Char → List Char
  | '$' :: '\x7b' :: cs =>
    match _found : reference? cs with
    | some (name, missing, rest) => value name missing ++ expand value rest
    | none => '$' :: expand value ('\x7b' :: cs)
  | c :: cs => c :: expand value cs
  | [] => []
termination_by cs => cs.length
decreasing_by
  · have := length_reference?_le _found; simp only [List.length_cons]; omega
  · simp
  · simp

/-- The value of a name in an environment, or else among the keys bound so far. -/
def valueOf (vars : List (String × String)) (bound : Table String (Option String))
    (name missing : List Char) : List Char :=
  match vars.lookup (String.ofList name), bound.get? (String.ofList name) with
  | some v, _ => v.toList
  | none, some v => (v.getD "").toList
  | none, none => missing

/-- The values of the keys after some bindings. -/
def bindAll (vars : List (String × String)) :
    Table String (Option String) → List Binding → Table String (Option String)
  | bound, [] => bound
  | bound, (key, value?) :: bs =>
    let expanded := value?.map fun v => String.ofList (expand (valueOf vars bound) v.toList)
    bindAll vars (bound.insert key expanded) bs

/-- The variables that a file adds to an environment: its keys in the order of their first bindings, with
the last values. A key that is a variable already, or has no value, adds nothing. -/
def additions (vars : List (String × String)) (file : String) : List (String × String) :=
  (bindAll vars .empty (bindings (withoutMark file.toList))).entries.filterMap fun (key, value?) =>
    if (vars.lookup key).isSome then none else value?.map (key, ·)

end SortPath.EnvFile
