import SortPath.Text.Split

/-!
# Internet addresses

`isIpv4` and `isIpv6` tell the texts that are addresses of the two families. In an IPv6 address two
colons may once stand for a stretch of zero groups, the last two groups may be written as an IPv4
address, and a scope may follow after a percent sign.
-/
namespace SortPath.Url

/-- A number up to 255 in decimal digits, without a zero in front. -/
def isOctet (cs : List Char) : Bool :=
  cs ≠ [] && cs.all (·.isDigit) && cs.length ≤ 3 && (cs.length = 1 || cs.head? ≠ some '0') &&
    cs.foldl (fun n c => 10 * n + (c.toNat - '0'.toNat)) 0 ≤ 255

def isIpv4 (cs : List Char) : Bool :=
  let octets := Text.splitFrom ['.'] 0 [] cs
  octets.length = 4 && octets.all isOctet

def isHexDigit (c : Char) : Bool := c.isDigit || ('a' ≤ c && c ≤ 'f') || ('A' ≤ c && c ≤ 'F')

/-- A group of up to four hexadecimal digits. -/
def isGroup (cs : List Char) : Bool := cs ≠ [] && cs.length ≤ 4 && cs.all isHexDigit

/-- The groups on one side of the two colons; there are none where the side is empty. -/
def sideLength? (side : List (List Char)) : Option Nat :=
  if side = [[]] then some 0 else if side.all isGroup then some side.length else none

/-- The parts between the colons of an address. -/
def isIpv6Parts (parts : List (List Char)) : Bool :=
  match (parts.drop 1).dropLast.countP (· = []) with
  | 0 => parts.length = 8 && parts.all isGroup
  | 1 =>
    let i := (parts.drop 1).findIdx (· = []) + 1
    match sideLength? (parts.take i), sideLength? (parts.drop (i + 1)) with
    | some m, some n => m + n < 8
    | _, _ => false
  | _ => false

/-- The parts with two groups in place of an IPv4 address at the end; `none` if what stands there has
points and is no address. -/
def withoutIpv4? (parts : List (List Char)) : Option (List (List Char)) :=
  match parts.getLast? with
  | some last =>
    if '.' ∉ last then some parts
    else if isIpv4 last then some (parts.dropLast ++ [['0'], ['0']])
    else none
  | none => none

def isIpv6 (cs : List Char) : Bool :=
  let parts := Text.splitFrom [':'] 0 [] (cs.takeWhile (· ≠ '%'))
  let scopeIsGood := match cs.dropWhile (· ≠ '%') with
    | [] => true
    | _ :: scope => scope ≠ [] && '%' ∉ scope
  scopeIsGood && 3 ≤ parts.length && (withoutIpv4? parts).any isIpv6Parts

end SortPath.Url
