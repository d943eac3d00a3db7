import SortPath.Number.Binary64

/-!
# The text of a binary number

A number of the 64-bit binary format is written with the fewest decimal digits that read back as the
number, and among so many digits as the decimal nearest to it. Numbers from 10^-4 up to 10^16 are
written with a point, all others with an exponent.
-/
namespace SortPath

/-- The number `digits` times ten to the power of `exponent`. -/
structure Decimal where
  digits : Nat
  exponent : Int
deriving DecidableEq, Repr

namespace Decimal

/-- The nearest number of the binary format. -/
def binary (d : Decimal) : Binary64 := .ofDecimal false d.digits d.exponent

/-- The digits without the zeros at their end, at most `fuel` of them, which go into the exponent. -/
def strip (fuel : Nat) (d : Decimal) : Decimal :=
  match fuel with
  | 0 => d
  | fuel + 1 =>
    if d.digits ≠ 0 ∧ d.digits % 10 = 0 then strip fuel ⟨d.digits / 10, d.exponent + 1⟩ else d

/-- The text with a point, where `whole` counts the digits in front of it and may be negative. -/
def positional (digits : List Char) (whole : Int) : List Char :=
  if whole ≤ 0 then '0' :: '.' :: List.replicate (-whole).toNat '0' ++ digits
  else
    let padded := digits ++ List.replicate (whole.toNat + 1 - digits.length) '0'
    padded.take whole.toNat ++ '.' :: padded.drop whole.toNat

/-- The text with a point after the first digit, if others follow, and an exponent with a sign and at
least two digits. -/
def scientific (digits : List Char) (exponent : Int) : List Char :=
  let fraction := if digits.length > 1 then '.' :: digits.drop 1 else []
  let text := (Nat.repr exponent.natAbs).toList
  digits.take 1 ++ fraction ++ 'e' :: (if exponent < 0 then '-' else '+') ::
    (List.replicate (2 - text.length) '0' ++ text)

/-- The text of a decimal. -/
def spelling (d : Decimal) : String :=
  let digits := (Nat.repr d.digits).toList
  let whole := d.exponent + digits.length
  String.ofList <|
    if -4 < whole ∧ whole ≤ 16 then positional digits whole else scientific digits (whole - 1)

end Decimal

namespace Binary64

/-- Whether a decimal reads back as so many units. -/
def readsBack (units : Nat) (d : Decimal) : Bool := d.binary = .finite false units

/-- The decimal place in front of the first digit of so many units, or the place before that. -/
def leadingPlace (units : Nat) : Int :=
  if one ≤ units then (Nat.repr (units / one)).length else 1 - (Nat.repr (one / units)).length

/-- The decimals with the given last place around so many units that read back, the nearer one
first and of two equally near the even one. -/
def candidate? (units : Nat) (place : Int) : Option Decimal :=
  let num := units * Nat.pow 10 (-place).toNat
  let den := one * Nat.pow 10 place.toNat
  let near := roundDiv num den
  let far := if near = num / den then near + 1 else num / den
  [near, far].map (Decimal.mk · place) |>.find? (readsBack units)

/-- So many units as a decimal. -/
def exact (units : Nat) : Decimal := ⟨units * Nat.pow 5 places, -places⟩

/-- The shortest decimal that reads back as so many units: coarser places are tried first. -/
def shortest (units : Nat) : Decimal :=
  let lead := leadingPlace units
  let found := (List.range 20).findSome? fun (n : Nat) => candidate? units (lead - n)
  (found.getD (exact units)).strip 20

/-- The text of a number. -/
def spelling : Binary64 → String
  | .finite negative units =>
    (if negative then "-" else "") ++ (if units = 0 then "0.0" else (shortest units).spelling)
  | .infinite negative => if negative then "-inf" else "inf"
  | .notANumber => "nan"

end Binary64

end SortPath
