/-!
# Naming strategies

A naming strategy makes the external name of a field from its own name. Field names are ASCII, and so
are the letter classes here.
-/
namespace SortPath

inductive NamingStrategy
  | upper
  | camel
  | pascal
  | snake
deriving DecidableEq, Repr

namespace NamingStrategy

/-- Capitals after a character that is no letter, small letters after a letter; `afterLetter` says
what stands before the text. -/
def titleAfter (afterLetter : Bool) : List Char → List Char
  | [] => []
  | c :: cs => (if afterLetter then c.toLower else c.toUpper) :: titleAfter c.isAlpha cs

/-- Drop the underscores between a letter or digit and a capital or digit; `before` is the character
in front. -/
def joinWords (before : Char) : List Char → List Char
  | [] => []
  | [c] => [c]
  | c :: d :: cs =>
    if c = '_' && before.isAlphanum && (d.isUpper || d.isDigit) then joinWords c (d :: cs)
    else c :: joinWords c (d :: cs)

def toPascal (cs : List Char) : List Char := joinWords '_' (titleAfter false cs)

/-- Whether a digit has a small letter right after it. -/
def digitBeforeSmall : List Char → Bool
  | c :: d :: cs => (c.isDigit && d.isLower) || digitBeforeSmall (d :: cs)
  | _ => false

/-- A text without the line feed at its end, if one is there. -/
def withoutLineFeed (cs : List Char) : List Char :=
  if cs.getLast? = some '\n' then cs.dropLast else cs

/-- A name in camel case already: it begins with a small letter, holds letters and digits only, and no
small letter follows a digit. A line feed at the end does not count. -/
def isCamel (cs : List Char) : Bool :=
  cs.head?.any (·.isLower) && (withoutLineFeed cs).all (·.isAlphanum) && !digitBeforeSmall cs

/-- Lower-case the capital that follows the underscores at the beginning, if one does. -/
def lowerFirst : List Char → List Char
  | [] => []
  | c :: cs => if c = '_' then c :: lowerFirst cs else c.toLower :: cs

def toCamel (cs : List Char) : List Char :=
  if isCamel cs then cs else lowerFirst (toPascal cs)

/-- Whether a word begins at `d`, between the characters `c` and `next`. -/
def beginsWord (c d : Char) (next : Option Char) : Bool :=
  (c.isUpper && d.isUpper && next.any (·.isLower)) || (c.isLower && d.isUpper) ||
    (c.isDigit && d.isUpper) || (c.isLower && d.isDigit)

/-- Put underscores between words. -/
def splitWords : List Char → List Char
  | c :: d :: cs =>
    if beginsWord c d cs.head? then c :: '_' :: splitWords (d :: cs) else c :: splitWords (d :: cs)
  | cs => cs

def toSnake (cs : List Char) : List Char :=
  (splitWords cs).map fun c => if c = '-' then '_' else c.toLower

def apply (s : NamingStrategy) (name : String) : String :=
  match s with
  | upper => String.ofList (name.toList.map Char.toUpper)
  | camel => String.ofList (toCamel name.toList)
  | pascal => String.ofList (toPascal name.toList)
  | snake => String.ofList (toSnake name.toList)

end NamingStrategy

end SortPath
