import Conformance.Url.Address
/-!
# URLs

A URL of a web scheme in normal form, and for all other schemes just the scheme. The text of a web URL is
its scheme, its authority and a path that starts with a slash.
-/

/-! ## Percent encoding

Characters a part of a URL may not hold stand there as `%` and two hexadecimal digits for each byte of their
UTF-8 form. Which characters these are depends on the part.
-/

namespace Conformance.Percent

/-- A hexadecimal digit, in upper case. -/
def hexDigit (n : Nat) : Char := if n < 10 then Char.ofNat (48 + n) else Char.ofNat (55 + n)

/-- The encoded form of a byte. -/
def ofByte (b : UInt8) : List Char := ['%', hexDigit (b.toNat / 16), hexDigit (b.toNat % 16)]

/-- A character, encoded if it belongs to a set. -/
def encodeChar (isEncoded : Char → Bool) (c : Char) : List Char :=
  if isEncoded c then (String.utf8EncodeChar c).flatMap ofByte else [c]

/-- A text with the characters of a set encoded. -/
def encode (isEncoded : Char → Bool) (cs : List Char) : List Char := cs.flatMap (encodeChar isEncoded)

/-- Encoded in every part: ASCII controls and everything beyond ASCII. -/
def isControl (c : Char) : Bool := Text.isAsciiControl c || 0x7f < c.toNat

/-- Encoded in a path. -/
def inPath (c : Char) : Bool := isControl c || " \"<>\x60#?\x7b\x7d".toList.contains c

/-- Encoded in the user information. -/
def inUser (c : Char) : Bool := inPath c || "/:;=@[\\]^|".toList.contains c

/-- The bytes of a text whose encoded bytes are decoded. A `%` without two digits stays as it is. -/
def decode : List Char → List UInt8
  | [] => []
  | c :: cs =>
    if c = '%' then
      match cs with
      | a :: b :: rest =>
        match Radix.digitValue? a, Radix.digitValue? b with
        | some x, some y => UInt8.ofNat (16 * x + y) :: decode rest
        | _, _ => String.utf8EncodeChar c ++ decode (a :: b :: rest)
      | rest => String.utf8EncodeChar c ++ decode rest
    else String.utf8EncodeChar c ++ decode cs

end Conformance.Percent

/-! ## Parts of URLs -/

namespace Conformance

/-- Who answers at an address. -/
inductive Host where
  | name (domain : String)
  | ipv4 (address : Ipv4)
  | ipv6 (address : Ipv6)
deriving DecidableEq, Repr

def Host.text : Host → String
  | .name domain => domain
  | .ipv4 address => address.text
  | .ipv6 address => "[" ++ address.text ++ "]"

/-- The part of a URL between the two slashes and the path. -/
structure Authority where
  /-- name and password in encoded form, empty if there are none -/
  user : String
  host : Host
  /-- the port, unless it is that of the scheme -/
  port : Option UInt16
deriving DecidableEq, Repr

def Authority.text (a : Authority) : String :=
  (if a.user.isEmpty then "" else a.user ++ "@") ++ a.host.text ++
    (match a.port with
      | some p => ":" ++ Decimal.text p.toNat
      | none => "")

/-- A URL of a web scheme. -/
structure WebUrl where
  scheme : String
  authority : Authority
  /-- what stands between the slashes of the path, in encoded form -/
  segments : List String
  hasQuery : Bool
  hasFragment : Bool
deriving DecidableEq, Repr

/-- The path of a web URL. -/
def WebUrl.path (u : WebUrl) : String := "/" ++ Text.join "/" u.segments

/-- The text of a web URL up to its path. -/
def WebUrl.text (u : WebUrl) : String := u.scheme ++ "://" ++ u.authority.text ++ u.path

/-- A URL. -/
inductive Url where
  | web (url : WebUrl)
  | other (scheme : String)
deriving DecidableEq, Repr

/-- The scheme of a URL. -/
def Url.scheme : Url → String
  | .web url => url.scheme
  | .other scheme => scheme

/-- Why a text is no URL. -/
inductive UrlError where
  | relative
  | emptyHost
  | invalidPort
  | invalidIpv4
  | invalidIpv6
  | invalidDomain
  | invalidHostCharacter
deriving DecidableEq, Repr

def UrlError.text : UrlError → String
  | .relative => "relative URL without a base"
  | .emptyHost => "empty host"
  | .invalidPort => "invalid port number"
  | .invalidIpv4 => "invalid IPv4 address"
  | .invalidIpv6 => "invalid IPv6 address"
  | .invalidDomain => "invalid international domain name"
  | .invalidHostCharacter => "invalid domain character"

/-- A library that reads URLs, and hosts alone. The laws that are relied on are named by `UrlLibrary.Lawful`. -/
class UrlLibrary where
  parse : String → Except UrlError Url
  parseHost : String → Except UrlError Host

end Conformance
