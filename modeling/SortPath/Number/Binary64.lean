/-!
# Binary numbers

A `Binary64` is a number of the 64-bit binary format. Every finite one is a whole number of units of
`2 ^ -1074`, with a sign that zero has too. Between two powers of two the numbers of the format lie
evenly; `gap` is the number of units from one to the next.

A quotient of natural numbers and a decimal are read as the nearest number of the format, and of two
that are equally near as the one with an even multiple of the gap.
-/
namespace SortPath

inductive Binary64
  /-- So many units of `2 ^ -1074`. -/
  | finite (negative : Bool) (units : Nat)
  | infinite (negative : Bool)
  | notANumber
deriving DecidableEq, Repr

namespace Binary64

/-! ## Rounding -/

/-- The binary places after the point. -/
def places : Nat := 1074

/-- How many units make one. -/
def one : Nat := 1 <<< places

/-- Finite numbers lie below so many units. -/
def bound : Nat := 1 <<< (1024 + places)

/-- The units between the neighbours in the format around so many units. -/
def gap (units : Nat) : Nat := 1 <<< (units.log2 - 52)

/-- A quotient as a whole number, the nearest one and of two the even one. -/
def roundDiv (num den : Nat) : Nat :=
  let twice := 2 * (num % den)
  if twice < den ∨ (twice = den ∧ num / den % 2 = 0) then num / den else num / den + 1

/-- The number nearest to a quotient of units. -/
def ofUnits (negative : Bool) (num den : Nat) : Binary64 :=
  let gap := gap (num / den)
  let units := roundDiv num (den * gap) * gap
  if units < bound then .finite negative units else .infinite negative

/-- The number nearest to `digits` times ten to the power of `exponent`. Decimals beyond the range of
the format are told by their exponent, so no huge power is computed for them. -/
def ofDecimal (negative : Bool) (digits : Nat) (exponent : Int) : Binary64 :=
  let leading := exponent + (Nat.repr digits).length
  if digits = 0 ∨ leading < -330 then .finite negative 0
  else if 330 < leading then .infinite negative
  else ofUnits negative (digits * Nat.pow 10 exponent.toNat * one) (Nat.pow 10 (-exponent).toNat)

/-! ## Comparing -/

/-- The integer that a number equals, if there is one. -/
def toInt? : Binary64 → Option Int
  | .finite negative units =>
    if units % one = 0 then some (if negative then -(units / one : Int) else units / one) else none
  | _ => none

/-- Equality of the values: the zeros are equal, and what is no number equals nothing. -/
def same : Binary64 → Binary64 → Bool
  | .finite s m, .finite t n => m == n && (s == t || m == 0)
  | .infinite s, .infinite t => s == t
  | _, _ => false

end Binary64

end SortPath
