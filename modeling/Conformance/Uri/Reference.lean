import Conformance.Url.Reader
/-!
# URI references

URIs and references to them by the strict grammar (RFC 3986): how a text is taken apart, how a reference is
resolved against a base, and the normal form in which two spellings of one URI agree. In contrast to the
URLs that are requested, a text that breaks the grammar is refused and never mended.
-/

namespace Conformance

/-- A URI, or with no scheme a reference relative to another. -/
structure Uri where
  scheme : Option (List Char)
  authority : Option (List Char)
  path : List Char
  query : Option (List Char)
  fragment : Option (List Char)
deriving DecidableEq, Repr, Inhabited

namespace Uri

/-! ## Characters -/

/-- Means the same encoded and plain. -/
def isUnreserved (c : Char) : Bool := c.isAlphanum || "-._~".toList.contains c

/-- Delimits parts within a component. -/
def isSubDelimiter (c : Char) : Bool := "!$&'()*+,;=".toList.contains c

/-- Stands in a segment of a path. -/
def inSegment (c : Char) : Bool := isUnreserved c || isSubDelimiter c || c == ':' || c == '@'

/-- Stands in a path. -/
def inPath (c : Char) : Bool := inSegment c || c == '/'

/-- Stands in a query or a fragment. -/
def inTail (c : Char) : Bool := inPath c || c == '?'

/-- Stands in user information. -/
def inUser (c : Char) : Bool := isUnreserved c || isSubDelimiter c || c == ':'

/-- Stands in a host name. -/
def inName (c : Char) : Bool := isUnreserved c || isSubDelimiter c

/-- Consists of allowed characters and complete percent codes. -/
def isPart (allowed : Char → Bool) : List Char → Bool
  | [] => true
  | '%' :: a :: b :: cs => Radix.isDigit 16 a && Radix.isDigit 16 b && isPart allowed cs
  | c :: cs => allowed c && isPart allowed cs

/-! ## Authorities -/

/-- The user information with its mark, the host, and the port with its colon. -/
def authorityParts (cs : List Char) : List Char × List Char × List Char :=
  let back := cs.reverse
  let user := if cs.contains '@' then (back.dropWhile (· != '@')).reverse else []
  let rest := cs.drop user.length
  let digits := (rest.reverse.takeWhile Decimal.isDigit).reverse
  let front := rest.take (rest.length - digits.length)
  if front.getLast? = some ':' then (user, front.dropLast, ':' :: digits) else (user, rest, [])

/-- A host: an address in brackets or a name. -/
def isHost : List Char → Bool
  | '[' :: cs =>
    cs.getLast? == some ']' &&
      match cs.dropLast with
      | 'v' :: rest | 'V' :: rest =>
        let (version, name) := rest.span (Radix.isDigit 16)
        !version.isEmpty && name.head? == some '.' && 1 < name.length && (name.drop 1).all inUser
      | address => (Ipv6.parse? address).isSome
  | cs => isPart inName cs

/-- An authority. -/
def isAuthority (cs : List Char) : Bool :=
  let (user, host, _) := authorityParts cs
  isPart inUser user.dropLast && isHost host

/-! ## Reading -/

/-- A scheme. -/
def isScheme : List Char → Bool
  | [] => false
  | c :: cs => c.isAlpha && cs.all Url.isSchemeChar

/-- What stands in front of and behind the first mark, the second without the mark. -/
def cutAt (mark : Char) (cs : List Char) : List Char × Option (List Char) :=
  match cs.span (· != mark) with
  | (front, _ :: back) => (front, some back)
  | (front, []) => (front, none)

/-- Reads what stands in front of query and fragment, the scheme included. -/
def readFront? (cs : List Char) : Option Uri :=
  let (first, rest) := cs.span fun c => c != ':' && c != '/'
  let (scheme, rest) :=
    if rest.head? = some ':' then (some first, rest.drop 1) else (none, cs)
  if scheme.any fun s => !isScheme s then none
  else
    match rest with
    | '/' :: '/' :: rest =>
      let (authority, path) := rest.span (· != '/')
      if isAuthority authority && isPart inPath path then some ⟨scheme, some authority, path, none, none⟩
      else none
    | path => if isPart inPath path then some ⟨scheme, none, path, none, none⟩ else none

/-- Reads a URI or a relative reference. -/
def parse? (s : String) : Option Uri :=
  let (front, fragment) := cutAt '#' s.toList
  let (front, query) := cutAt '?' front
  if (query.all (isPart inTail)) && (fragment.all (isPart inTail)) then
    (readFront? front).map fun u => { u with query := query, fragment := fragment }
  else none

/-! ## Writing -/

/-- A component with its mark. -/
def marked (mark : List Char) : Option (List Char) → List Char
  | none => []
  | some cs => mark ++ cs

def text (u : Uri) : String :=
  String.ofList
    ((u.scheme.map (· ++ [':'])).getD [] ++ marked ['/', '/'] u.authority ++ u.path ++
      marked ['?'] u.query ++ marked ['#'] u.fragment)

/-! ## Resolution -/

/-- Follows the segments `.` and `..` of a path behind its first slash. `done` are the segments so far, the
last one first. -/
def follow (done : List (List Char)) : List (List Char) → List (List Char)
  | [] => done.reverse
  | [['.']] => ([] :: done).reverse
  | [['.', '.']] => ([] :: done.drop 1).reverse
  | ['.'] :: rest => follow done rest
  | ['.', '.'] :: rest => follow (done.drop 1) rest
  | s :: rest => follow (s :: done) rest

/-- Segments joined with slashes. -/
def joined : List (List Char) → List Char
  | [] => []
  | [s] => s
  | s :: rest => s ++ '/' :: joined rest

/-- A path without the segments `.` and `..`. -/
def withoutDots : List Char → List Char
  | '/' :: cs => '/' :: joined (follow [] (Text.split '/' cs))
  | cs => joined (follow [] (Text.split '/' cs))

/-- A relative path put in the place of the last segment of another. -/
def merged (base : Uri) (path : List Char) : List Char :=
  if base.authority.isSome && base.path.isEmpty then '/' :: path
  else (base.path.reverse.dropWhile (· != '/')).reverse ++ path

/-- The URI a reference stands for in a resource with a base URI. -/
def resolve (base r : Uri) : Uri :=
  if r.scheme.isSome then { r with path := withoutDots r.path }
  else if r.authority.isSome then { r with scheme := base.scheme, path := withoutDots r.path }
  else if r.path.isEmpty then
    { base with query := if r.query.isSome then r.query else base.query, fragment := r.fragment }
  else
    let path := if r.path.head? = some '/' then r.path else merged base r.path
    ⟨base.scheme, base.authority, withoutDots path, r.query, r.fragment⟩

/-! ## Normal form -/

/-- Percent codes in upper case, and plain characters instead of codes that mean the same. -/
def plain : List Char → List Char
  | '%' :: a :: b :: cs =>
    let c := Char.ofNat (Radix.value 16 [a, b])
    if isUnreserved c then c :: plain cs else '%' :: a.toUpper :: b.toUpper :: plain cs
  | c :: cs => c :: plain cs
  | [] => []

/-- Lower case outside of percent codes. -/
def lowered : List Char → List Char
  | '%' :: a :: b :: cs => '%' :: a :: b :: lowered cs
  | c :: cs => c.toLower :: lowered cs
  | [] => []

/-- The port with its colon, unless it is missing or that of the scheme. -/
def plainPort (scheme : List Char) (port : List Char) : List Char :=
  let usual := (Url.webSchemes.lookup (String.ofList scheme)).map UInt16.toNat
  if port.length ≤ 1 || usual == some (Decimal.value (port.drop 1)) then [] else port

/-- The normal form of an authority. -/
def plainAuthority (scheme cs : List Char) : List Char :=
  let (user, host, port) := authorityParts cs
  plain user ++ lowered (plain host) ++ plainPort scheme port

/-- The normal form of a URI. -/
def normal (u : Uri) : Uri :=
  let scheme := u.scheme.map (·.map Char.toLower)
  let path := plain u.path
  ⟨scheme, u.authority.map (plainAuthority (scheme.getD [])),
    if scheme.isSome || path.head? = some '/' then withoutDots path else path,
    u.query.map plain, u.fragment.map plain⟩

/-- The URI without its fragment. -/
def document (u : Uri) : Uri := { u with fragment := none }

/-- A URI without a hierarchy, which nothing but a fragment can be relative to. -/
def isOpaque (u : Uri) : Bool := u.authority.isNone && u.path.head? != some '/'

/-- A reference to a part of the resource it stands in. -/
def isFragment (r : Uri) : Bool :=
  r.scheme.isNone && r.authority.isNone && r.path.isEmpty && r.query.isNone

/-- The normal form of what a reference stands for in a resource with a base URI. -/
def resolve? (base : Uri) (reference : String) : Option Uri :=
  (parse? reference).bind fun r =>
    if r.scheme.isNone && base.isOpaque && !r.isFragment then none else some (resolve base r).normal

end Uri

end Conformance
