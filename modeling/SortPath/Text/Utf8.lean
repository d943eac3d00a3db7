/-!
# UTF-8 with replacement

`encode` gives the bytes of a text. `decode` reads any bytes: where no character can be read, each
longest run of bytes that begins one becomes a single replacement character U+FFFD, and so does each
byte that cannot begin one. Bytes are natural numbers below 256.
-/
namespace SortPath.Text.Utf8

/-- The bytes of a character. -/
def encodeChar (c : Char) : List Nat :=
  let n := c.toNat
  if n < 0x80 then [n]
  else if n < 0x800 then [0xC0 + n / 0x40, 0x80 + n % 0x40]
  else if n < 0x10000 then [0xE0 + n / 0x1000, 0x80 + n / 0x40 % 0x40, 0x80 + n % 0x40]
  else [0xF0 + n / 0x40000, 0x80 + n / 0x1000 % 0x40, 0x80 + n / 0x40 % 0x40, 0x80 + n % 0x40]

def encode (cs : List Char) : List Nat := cs.flatMap encodeChar

def replacement : Char := Char.ofNat 0xFFFD

/-- A character of which the first bytes have been read: the bits so far, how many bytes are owed, and
the bounds of the next byte. -/
structure Partial where
  bits : Nat
  owed : Nat
  low : Nat
  high : Nat

/-- What the first byte of a character makes: characters that are complete, and one that is not. -/
def begin (b : Nat) : List Char × Option Partial :=
  if b < 0x80 then ([Char.ofNat b], none)
  else if b < 0xC2 then ([replacement], none)
  else if b < 0xE0 then ([], some ⟨b - 0xC0, 1, 0x80, 0xBF⟩)
  else if b < 0xF0 then
    ([], some ⟨b - 0xE0, 2, if b = 0xE0 then 0xA0 else 0x80, if b = 0xED then 0x9F else 0xBF⟩)
  else if b < 0xF5 then
    ([], some ⟨b - 0xF0, 3, if b = 0xF0 then 0x90 else 0x80, if b = 0xF4 then 0x8F else 0xBF⟩)
  else ([replacement], none)

/-- The characters of some bytes after the first bytes of a character. -/
def decodeFrom : Option Partial → List Nat → List Char
  | none, [] => []
  | some _, [] => [replacement]
  | none, b :: bs => (begin b).1 ++ decodeFrom (begin b).2 bs
  | some p, b :: bs =>
    if p.low ≤ b ∧ b ≤ p.high then
      let bits := p.bits * 0x40 + b % 0x40
      if p.owed = 1 then Char.ofNat bits :: decodeFrom none bs
      else decodeFrom (some ⟨bits, p.owed - 1, 0x80, 0xBF⟩) bs
    else replacement :: ((begin b).1 ++ decodeFrom (begin b).2 bs)

def decode (bytes : List Nat) : List Char := decodeFrom none bytes

end SortPath.Text.Utf8
