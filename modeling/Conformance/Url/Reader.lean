import Conformance.Url.Basic
import Conformance.Url.Domain
/-!
# Reading URLs

The reader follows the WHATWG rules for a URL without a base. Controls and spaces around the text and tabs
and line ends inside it do not count, backslashes count as slashes for web schemes, and what comes out is in
normal form: lower-case scheme and host, no default port, no dot segments, and every part encoded as
its place asks for.
-/

namespace Conformance.Url

/-! ## Scheme -/

/-- The web schemes with their default ports. -/
def webSchemes : List (String × UInt16) :=
  [("http", 80), ("https", 443), ("ws", 80), ("wss", 443), ("ftp", 21)]

/-- A character of a scheme behind its first letter. -/
def isSchemeChar (c : Char) : Bool := c.isAlphanum || c == '+' || c == '-' || c == '.'

/-- Reads a scheme and the colon behind it. -/
def scheme? (cs : List Char) : Option (String × List Char) :=
  match cs.span isSchemeChar with
  | (c :: name, ':' :: rest) =>
    if c.isAlpha then some (String.ofList ((c :: name).map Char.toLower), rest) else none
  | _ => none

/-- The text that counts: without controls and spaces around it, and without tabs and line ends. -/
def significant (cs : List Char) : List Char :=
  let outer (c : Char) : Bool := c.toNat ≤ 0x20
  let inner := ((cs.dropWhile outer).reverse.dropWhile outer).reverse
  inner.filter fun c => c != '\t' && c != '\n' && c != '\r'

/-! ## Authority -/

/-- Ends an authority; a backslash does so for web schemes alone. -/
def endsAuthority (web : Bool) (c : Char) : Bool :=
  c == '/' || c == '?' || c == '#' || (web && c == '\\')

/-- The encoded form of a name with an optional password behind a colon. -/
def userText (cs : List Char) : String :=
  let (name, rest) := cs.span (· != ':')
  let password := rest.drop 1
  String.ofList
    (if password.isEmpty then Percent.encode Percent.inUser name
    else Percent.encode Percent.inUser name ++ ':' :: Percent.encode Percent.inUser password)

/-- Reads the user information in front of the last `@` of the authority, if there is one. -/
def readUser (web : Bool) (cs : List Char) : Except UrlError (String × List Char) :=
  let (authority, tail) := cs.span fun c => !endsAuthority web c
  let back := authority.reverse
  if authority.contains '@' then
    let host := (back.takeWhile (· != '@')).reverse
    let before := ((back.dropWhile (· != '@')).drop 1).reverse
    if before.isEmpty ∧ host.isEmpty ∧ ¬tail.isEmpty then .error .emptyHost
    else .ok (userText before, host ++ tail)
  else .ok ("", cs)

/-- Cuts a host off, up to the end of the authority or to a colon outside of brackets. -/
def spanHost (web : Bool) (inBrackets : Bool) (done : List Char) : List Char → List Char × List Char
  | [] => (done.reverse, [])
  | c :: cs =>
    if endsAuthority web c || (c == ':' && !inBrackets) then (done.reverse, c :: cs)
    else spanHost web (c == '[' || (inBrackets && c != ']')) (c :: done) cs

/-- An address in brackets. -/
def bracketed (cs : List Char) : Except UrlError Host :=
  if cs.getLast? = some ']' then
    match Ipv6.parse? cs.dropLast with
    | some address => .ok (.ipv6 address)
    | none => .error .invalidIpv6
  else .error .invalidIpv6

/-- The host of a web URL. -/
def readHost : List Char → Except UrlError Host
  | '[' :: cs => bracketed cs
  | cs =>
    match (String.fromUTF8? ⟨(Percent.decode cs).toArray⟩).bind fun s => Domain.toAscii? s.toList with
    | none => .error .invalidDomain
    | some domain =>
      if domain.isEmpty then .error .emptyHost
      else if Ipv4.endsInNumber domain.toList then
        match Ipv4.parse? domain.toList with
        | some address => .ok (.ipv4 address)
        | none => .error .invalidIpv4
      else .ok (.name domain)

/-- Characters the host of no scheme may hold. -/
def isHostDelimiter (c : Char) : Bool := "\x00\t\n\r #/:<>?@[\\]^|".toList.contains c

/-- Checks the host of a scheme that is not a web scheme. -/
def checkHost : List Char → Except UrlError Unit
  | '[' :: cs => (bracketed cs).map fun _ => ()
  | cs => if cs.any isHostDelimiter then .error .invalidHostCharacter else .ok ()

/-- Reads the port behind a host. -/
def readPort : List Char → Except UrlError (Option UInt16 × List Char)
  | ':' :: cs =>
    let (digits, rest) := cs.span Decimal.isDigit
    if rest.head?.any fun c => !endsAuthority true c then .error .invalidPort
    else if digits.isEmpty then .ok (none, rest)
    else
      match Decimal.word16? (Decimal.value digits) with
      | some p => .ok (some p, rest)
      | none => .error .invalidPort
  | cs => .ok (none, cs)

/-- Reads the authority of a web URL whose scheme has a default port. -/
def readAuthority (default : UInt16) (cs : List Char) : Except UrlError (Authority × List Char) := do
  let (user, rest) ← readUser true cs
  let (name, rest) := spanHost true false [] rest
  if name.isEmpty then throw .emptyHost
  let host ← readHost name
  let (port, rest) ← readPort rest
  return (⟨user, host, if port = some default then none else port⟩, rest)

/-- Checks the authority of another scheme. -/
def checkAuthority (cs : List Char) : Except UrlError Unit := do
  let (user, rest) ← readUser false cs
  let (name, rest) := spanHost false false [] rest
  checkHost name
  if name.isEmpty ∧ rest.head? = some ':' then throw .emptyHost
  let _ ← readPort rest
  if name.isEmpty ∧ ¬user.isEmpty then throw .emptyHost

/-! ## Path -/

/-- A slash of a web URL. -/
def isSlash (c : Char) : Bool := c == '/' || c == '\\'

/-- The pieces of a path between its slashes. -/
def pieces (cs : List Char) : List String :=
  (Text.split '/' (cs.map fun c => if c = '\\' then '/' else c)).map fun p =>
    String.ofList (Percent.encode Percent.inPath p)

/-- The spellings of a dot. -/
def dots : List String := [".", "%2e", "%2E"]

/-- A segment that stands for the directory it is in. -/
def isHere (s : String) : Bool := dots.contains s

/-- A segment that leads one level up. -/
def isUp (s : String) : Bool := dots.any fun a => dots.any fun b => a ++ b == s

/-- A letter with a colon or a bar, the name of a drive. No dots lead out of a drive. -/
def isDrive (s : String) : Bool :=
  match s.toList with
  | [letter, mark] => letter.isAlpha && (mark == ':' || mark == '|')
  | _ => false

/-- Leaves the innermost directory. -/
def up : List String → List String
  | [] => []
  | s :: done => if isDrive s then s :: done else done

/-- Follows the dot segments of a path. `done` are the directories entered so far, innermost first. -/
def follow (done : List String) : List String → List String
  | [] => done.reverse
  | [s] =>
    if isUp s then ("" :: up done).reverse
    else if isHere s then ("" :: done).reverse
    else (s :: done).reverse
  | s :: rest =>
    if isUp s then follow (up done) rest
    else if isHere s then follow done rest
    else follow (s :: done) rest

/-- The segments of a path, given with or without its first slash. -/
def segments (cs : List Char) : List String :=
  follow [] (pieces (if cs.head?.any isSlash then cs.drop 1 else cs))

/-! ## URLs -/

/-- Ends a path. -/
def endsPath (c : Char) : Bool := c == '?' || c == '#'

/-- Reads a web URL behind the colon of its scheme. -/
def readWeb (scheme : String) (default : UInt16) (cs : List Char) : Except UrlError WebUrl := do
  let (authority, rest) ← readAuthority default (cs.dropWhile isSlash)
  let (path, tail) := rest.span fun c => !endsPath c
  return ⟨scheme, authority, segments path, tail.head? == some '?', tail.contains '#'⟩

/-- Checks the host of a file URL, which may be missing. -/
def checkFile : List Char → Except UrlError Unit
  | a :: b :: cs =>
    if isSlash a ∧ isSlash b then
      let name := cs.takeWhile fun c => !endsAuthority true c
      if name.isEmpty ∨ isDrive (String.ofList name) then .ok () else (readHost name).map fun _ => ()
    else .ok ()
  | _ => .ok ()

/-- Reads a URL. -/
def parse (s : String) : Except UrlError Url :=
  match scheme? (significant s.toList) with
  | none => .error .relative
  | some (scheme, rest) =>
    match webSchemes.lookup scheme with
    | some default => (readWeb scheme default rest).map .web
    | none =>
      let check := match rest with
        | '/' :: '/' :: cs => if scheme = "file" then checkFile rest else checkAuthority cs
        | _ => if scheme = "file" then checkFile rest else .ok ()
      check.map fun _ => .other scheme

end Conformance.Url
