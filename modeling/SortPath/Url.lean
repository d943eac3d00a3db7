import SortPath.Text.Quoted
import SortPath.Url.Address

/-!
# URLs

`Url.path` reads the path off the text of a URL: what follows the scheme and the authority, up to the
query or the fragment. Control characters and spaces in front of a URL do not count, and neither do
tabs and line ends anywhere in it. Brackets in an authority stand around an address and nothing else,
and none of its characters may fold to a delimiter.
-/
namespace SortPath.Url

/-! ## Errors -/

inductive Error
  /-- There is one kind of bracket only, or something stands next to the address in brackets. -/
  | misplacedBrackets
  /-- The brackets hold a `v` but no address of a future version. -/
  | badFutureAddress
  | bracketedIpv4
  | notAnAddress (host : String)
  /-- The authority holds a character whose compatibility form has a delimiter in it. -/
  | foldedDelimiter (authority : String)
deriving DecidableEq, Repr

def Error.message : Error → String
  | misplacedBrackets => "Invalid IPv6 URL"
  | badFutureAddress => "IPvFuture address is invalid"
  | bracketedIpv4 => "An IPv4 address cannot be in brackets"
  | notAnAddress host => Text.quoted host ++ " does not appear to be an IPv4 or IPv6 address"
  | foldedDelimiter authority =>
    "netloc '" ++ authority ++ "' contains invalid characters under NFKC normalization"

/-! ## Authorities -/

/-- The compatibility forms of these characters hold a slash, a question mark, a number sign, an at
sign or a colon. -/
def foldingCodePoints : List Nat :=
  [0x2047, 0x2048, 0x2049, 0x2100, 0x2101, 0x2105, 0x2106, 0x2A74, 0xFE13, 0xFE16, 0xFE55, 0xFE56,
   0xFE5F, 0xFE6B, 0xFF03, 0xFF0F, 0xFF1A, 0xFF1F, 0xFF20]

/-- A version in hexadecimal digits, a point, and something after it. -/
def isFutureAddress (cs : List Char) : Bool :=
  match cs.takeWhile isHexDigit, cs.dropWhile isHexDigit with
  | _ :: _, '.' :: _ :: _ => true
  | _, _ => false

/-- The host of an authority that has brackets, as they mark it off: the user before an at sign may hold
others, and only a port may follow the host. -/
def markedHost? (cs : List Char) : Option (List Char) :=
  match (cs.reverse.takeWhile (· ≠ '@')).reverse with
  | '[' :: host =>
    match host.dropWhile (· ≠ ']') with
    | [] | [_] | _ :: ':' :: _ => some (host.takeWhile (· ≠ ']'))
    | _ => none
  | host => if '[' ∈ host then none else some (host.takeWhile (· ≠ ':'))

/-- What is wrong with a host that brackets should mark off. -/
def markedError? : List Char → Option Error
  | 'v' :: cs => if isFutureAddress cs then none else some .badFutureAddress
  | cs =>
    if isIpv4 cs then some .bracketedIpv4
    else if isIpv6 cs then none
    else some (.notAnAddress (String.ofList cs))

/-- What is wrong with an authority. -/
def authorityError? (cs : List Char) : Option Error :=
  if '[' ∈ cs ∧ ']' ∈ cs then
    match markedHost? cs with
    | some host => (markedError? host).or folded?
    | none => some .misplacedBrackets
  else if '[' ∈ cs ∨ ']' ∈ cs then some .misplacedBrackets
  else folded?
where
  folded? : Option Error :=
    if cs.any fun c => foldingCodePoints.contains c.toNat then
      some (.foldedDelimiter (String.ofList cs))
    else none

/-! ## Paths -/

/-- A URL without what does not count in it. -/
def cleaned (cs : List Char) : List Char :=
  (cs.dropWhile (·.toNat ≤ 0x20)).filter fun c => c ≠ '\t' && c ≠ '\r' && c ≠ '\n'

def isSchemeChar (c : Char) : Bool := c.isAlphanum || c = '+' || c = '-' || c = '.'

/-- What follows the scheme, if there is one. -/
def afterScheme (cs : List Char) : List Char :=
  match cs.dropWhile isSchemeChar with
  | ':' :: rest => if cs.head?.any (·.isAlpha) then rest else cs
  | _ => cs

def inAuthority (c : Char) : Bool := c ≠ '/' && c ≠ '?' && c ≠ '#'

/-- The authority that two slashes announce, and what follows it. -/
def splitAuthority : List Char → List Char × List Char
  | '/' :: '/' :: cs => (cs.takeWhile inAuthority, cs.dropWhile inAuthority)
  | cs => ([], cs)

def path (url : List Char) : Except Error (List Char) :=
  let (authority, rest) := splitAuthority (afterScheme (cleaned url))
  match authorityError? authority with
  | some e => .error e
  | none => .ok (rest.takeWhile fun c => c ≠ '?' && c ≠ '#')

end SortPath.Url
