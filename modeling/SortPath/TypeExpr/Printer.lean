import SortPath.Text.Quoted
import SortPath.TypeExpr

/-!
# How annotations are written

Annotations have two written forms. `render` is the short one, with the members of a union in ascending
order of their texts. `spelling` is the one that error messages show, as annotations stand in the
declaration of a model, but with the full names of types; there `display` shows a whole annotation.
`shortName?` is the name of a type
without its arguments, and `ofLeaf?` reads the name of a type that has no parts.
-/
namespace SortPath

/-! ## Names -/

def Scalar.name : Scalar → String
  | text => "str"
  | bytes => "bytes"
  | bool => "bool"
  | int => "int"
  | float => "float"
  | decimal => "decimal"
  | datetime => "datetime"
  | date => "date"
  | time => "time"
  | duration => "timedelta"
  | uuid => "uuid"
  | enumeration => "enum"
  | null => "none"
  | any => "any"
  | object => "object"

def Scalar.shortName : Scalar → String
  | decimal => "Decimal"
  | uuid => "UUID"
  | enumeration => "Enum"
  | null => "NoneType"
  | any => "Any"
  | s => s.name

/-- The name with the module that defines the type, unless it is built in. -/
def Scalar.fullName : Scalar → String
  | decimal => "decimal.Decimal"
  | datetime => "datetime.datetime"
  | date => "datetime.date"
  | time => "datetime.time"
  | duration => "datetime.timedelta"
  | uuid => "uuid.UUID"
  | enumeration => "enum.Enum"
  | any => "typing.Any"
  | s => s.shortName

def Scalar.display : Scalar → String
  | enumeration => "<enum 'Enum'>"
  | any => "typing.Any"
  | s => "<class '" ++ s.fullName ++ "'>"

def Scalar.all : List Scalar :=
  [.text, .bytes, .bool, .int, .float, .decimal, .datetime, .date, .time, .duration, .uuid,
   .enumeration, .null, .any, .object]

def Former.name : Former → String
  | list => "list"
  | set => "set"
  | frozenSet => "frozenset"
  | tuple => "tuple"
  | dictionary => "dict"
  | sequence => "sequence"
  | deque => "deque"
  | type => "type"
  | literal => "literal"
  | callable => "callable"

/-- The spelling that takes arguments. -/
def Former.capitalName : Former → String
  | list => "List"
  | set => "Set"
  | frozenSet => "FrozenSet"
  | tuple => "Tuple"
  | dictionary => "Dict"
  | sequence => "Sequence"
  | deque => "Deque"
  | type => "Type"
  | literal => "Literal"
  | callable => "Callable"

/-- The capital spelling with the module that defines it. -/
def Former.fullName (f : Former) : String := "typing." ++ f.capitalName

namespace TypeExpr

def shortName? : TypeExpr → Option String
  | .scalar s => some s.shortName
  | .model name => some name
  | .bare f capital => some (if capital then f.capitalName else f.name)
  | .applied f _ => some f.capitalName
  | .ellipsis => some "ellipsis"
  | .literal _ => some Former.literal.capitalName
  | .union .named ts => some (if ts.length = 2 ∧ ts.any isNull then "Optional" else "Union")
  | .union .barred _ => none
  | .annotated _ _ => some "Annotated"

/-- The names of the types that have no parts. -/
def leaves : List (String × TypeExpr) :=
  Scalar.all.map (fun s => (s.name, .scalar s)) ++
  [Former.list, .set, .frozenSet, .tuple, .dictionary].map (fun f => (f.name, .bare f false)) ++
  [Former.list, .set, .tuple, .dictionary].map (fun f => (f.capitalName, .bare f true))

def ofLeaf? (name : String) : Option TypeExpr := leaves.lookup name

end TypeExpr

/-! ## The short form -/

def LiteralValue.render : LiteralValue → String
  | text s => Text.jsonQuoted s
  | int i => toString i

namespace TypeExpr

/-- The texts in brackets. -/
def bracketed (separator : String) (texts : List String) : String :=
  "[" ++ separator.intercalate texts ++ "]"

mutual
def render : TypeExpr → String
  | .scalar s => s.name
  | .model name => name
  | .bare f _ => f.name
  | .applied .callable args =>
    let texts := renderEach args
    "callable" ++ bracketed "," (bracketed "," texts.dropLast :: texts.getLast?.toList)
  | .applied f args => f.name ++ bracketed "," (renderEach args)
  | .ellipsis => "..."
  | .literal vs => "literal" ++ bracketed "," (vs.map (·.render))
  | .union _ ts => "union" ++ bracketed "|" ((renderEach ts).mergeSort (· ≤ ·))
  | .annotated base _ => "annotated[" ++ render base ++ "]"

def renderEach : List TypeExpr → List String
  | [] => []
  | t :: ts => render t :: renderEach ts
end

end TypeExpr

/-! ## The form in error messages -/

def LiteralValue.spelling : LiteralValue → String
  | text s => Text.quoted s
  | int i => toString i

def Unwrapping.spelling (u : Unwrapping) : String :=
  "Unwrapped(prefix=" ++ Text.quoted u.lead ++ ", suffix=" ++ Text.quoted u.trail ++
    ", enabled=" ++ (if u.enabled then "True" else "False") ++ ")"

def Marker.spelling : Marker → String
  | unwrapped u => u.spelling
  | association => "Association()"
  | transient => "Transient()"
  | note text => Text.quoted text

namespace TypeExpr

mutual
/-- An annotation as it stands within another one, where models have full names. -/
def spelling (fullName : String → String) : TypeExpr → String
  | .scalar s => s.fullName
  | .model name => fullName name
  | .bare f capital => if capital then f.fullName else f.name
  | .applied .callable args =>
    let texts := spellEach fullName args
    Former.callable.fullName ++
      bracketed ", " (bracketed ", " texts.dropLast :: texts.getLast?.toList)
  | .applied .tuple [] => Former.tuple.fullName ++ "[()]"
  | .applied f args => f.fullName ++ bracketed ", " (spellEach fullName args)
  | .ellipsis => "..."
  | .literal [] => Former.literal.fullName ++ "[()]"
  | .literal vs => Former.literal.fullName ++ bracketed ", " (vs.map (·.spelling))
  | .union .named ts =>
    match ts.map isNull, spellEach fullName ts with
    | [true, false], [_, text] | [false, true], [text, _] => "typing.Optional[" ++ text ++ "]"
    | _, texts => "typing.Union" ++ bracketed ", " texts
  | .union .barred ts =>
    " | ".intercalate
      ((ts.zip (spellEach fullName ts)).map fun e => if e.1.isNull then "None" else e.2)
  | .annotated base ms =>
    "typing.Annotated" ++ bracketed ", " (spelling fullName base :: ms.map (·.spelling))

def spellEach (fullName : String → String) : List TypeExpr → List String
  | [] => []
  | t :: ts => spelling fullName t :: spellEach fullName ts
end

/-- A whole annotation: a type that is a class of its own is shown as such. -/
def display (fullName : String → String) : TypeExpr → String
  | .scalar s => s.display
  | .model name => "<class '" ++ fullName name ++ "'>"
  | .bare f false => "<class '" ++ f.name ++ "'>"
  | t => t.spelling fullName

end TypeExpr

end SortPath
