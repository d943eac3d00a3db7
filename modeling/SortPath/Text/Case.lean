import SortPath.Text.Case.Mappings
import SortPath.Text.Case.Sigma

/-!
# Letter case

`lowerChar` and `upperChar` map one character to the characters of its other case: usually one, but
U+0130 has the lower-case form `i` U+0307 and `ß` the upper-case form `SS`. `lower` and `upper` map
whole texts; only the capital sigma depends on its neighbours.
-/
namespace SortPath.Text

/-- The lower-case form of a character that stands alone. -/
def lowerChar (c : Char) : List Char :=
  if c.toNat < 0x80 then [c.toLower]
  else if c.toNat = 0x130 then ['i', Char.ofNat 0x307]
  else [((lowerRuns.image? c.toNat).map Char.ofNat).getD c]

def upperChar (c : Char) : List Char :=
  if c.toNat < 0x80 then [c.toUpper]
  else match upperExpansions.lookup c.toNat with
    | some cs => cs.map Char.ofNat
    | none => [((upperRuns.image? c.toNat).map Char.ofNat).getD c]

/-- Whether a character is a capital. -/
def isUpperChar (c : Char) : Bool :=
  if c.toNat < 0x80 then c.isUpper else uppercaseRuns.holds c.toNat

/-- Lower-case the characters after `before`, which is listed nearest first. -/
def lowerAfter (before : List Char) : List Char → List Char
  | [] => []
  | c :: cs =>
    (if c.toNat = 0x3A3 then [lowerSigma before cs] else lowerChar c) ++ lowerAfter (c :: before) cs

def lower (s : String) : String := String.ofList (lowerAfter [] s.toList)

def upper (s : String) : String := String.ofList (s.toList.flatMap upperChar)

end SortPath.Text
