import Conformance.Number.Binary
/-!
# JSON values

An object is the list of its members in writing order, repeated keys included; `get?` looks a key up and
lets the last one win. `sorted` is the normal form in which members are ordered by key and each key
stands once. Numbers are integers or 64-bit binary numbers, compared by what they denote.
-/

namespace Conformance

/-- A number of a JSON text. -/
inductive Json.Number where
  | integer (n : Int)
  | binary (x : Binary64)
deriving DecidableEq, Repr, Inhabited

/-- A JSON value. -/
inductive Json where
  | null
  | boolean (b : Bool)
  | number (n : Json.Number)
  | string (s : String)
  | array (items : List Json)
  | object (members : List (String × Json))
deriving Repr, Inhabited

namespace Json

/-! ## Building -/

/-- A natural number. -/
def nat (n : Nat) : Json := .number (.integer n)

/-- A value that may be absent, `null` standing for none. -/
def optional (f : α → Json) : Option α → Json
  | none => .null
  | some a => f a

/-! ## Looking inside -/

/-- The value of a key in a list of members; the last of several wins. -/
def lookup (key : String) (members : List (String × Json)) : Option Json :=
  (members.reverse.find? fun m => m.1 == key).map (·.2)

/-- The value of a key in an object. -/
def get? (key : String) : Json → Option Json
  | .object members => lookup key members
  | _ => none

/-- The text of a string. -/
def string? : Json → Option String
  | .string s => some s
  | _ => none

/-- The value of an integer. -/
def integer? : Json → Option Int
  | .number (.integer n) => some n
  | _ => none

/-- The value of a boolean. -/
def boolean? : Json → Option Bool
  | .boolean b => some b
  | _ => none

/-- The items of an array. -/
def items? : Json → Option (List Json)
  | .array xs => some xs
  | _ => none

/-- Absent or `null`. -/
def isNone : Option Json → Bool
  | none | some .null => true
  | some _ => false

/-! ## Numbers by value -/

namespace Number

/-- The exact value as a quotient with a positive denominator. -/
def ratio : Number → Int × Nat
  | .integer n => (n, 1)
  | .binary x => x.ratio

/-- Denotes the same number. -/
def same (a b : Number) : Bool :=
  let (n, d) := a.ratio
  let (m, e) := b.ratio
  n * e == m * d

/-- Denotes a smaller number. -/
def below (a b : Number) : Bool :=
  let (n, d) := a.ratio
  let (m, e) := b.ratio
  n * e < m * d

/-- Denotes an integer, however it is written. -/
def isWhole (a : Number) : Bool :=
  let (n, d) := a.ratio
  n % d == 0

/-- The nearest number of the 64-bit binary format. -/
def toBinary : Number → Binary64
  | .integer n => (Binary64.ofNat (n < 0) n.natAbs).getD (.zero false)
  | .binary x => x

end Number

/-! ## Normal form -/

/-- Puts a member into a list ordered by key, over an older one of that key. -/
def insertMember (key : String) (v : Json) : List (String × Json) → List (String × Json)
  | [] => [(key, v)]
  | (k, w) :: rest =>
    if key = k then (key, v) :: rest
    else if key < k then (key, v) :: (k, w) :: rest
    else (k, w) :: insertMember key v rest

mutual

/-- Members ordered by key at every level, the last of a repeated key kept. -/
def sorted : Json → Json
  | .array xs => .array (sortedItems xs)
  | .object ms => .object (sortedMembers ms [])
  | v => v

def sortedItems : List Json → List Json
  | [] => []
  | x :: xs => sorted x :: sortedItems xs

def sortedMembers : List (String × Json) → List (String × Json) → List (String × Json)
  | [], done => done
  | (k, v) :: rest, done => sortedMembers rest (insertMember k (sorted v) done)

end

mutual

/-- Equality of values in normal form, numbers by what they denote. -/
def same : Json → Json → Bool
  | .null, .null => true
  | .boolean a, .boolean b => a == b
  | .number a, .number b => a.same b
  | .string a, .string b => a == b
  | .array xs, .array ys => sameItems xs ys
  | .object ms, .object ns => sameMembers ms ns
  | _, _ => false

def sameItems : List Json → List Json → Bool
  | [], [] => true
  | x :: xs, y :: ys => same x y && sameItems xs ys
  | _, _ => false

def sameMembers : List (String × Json) → List (String × Json) → Bool
  | [], [] => true
  | (k, v) :: ms, (l, w) :: ns => k == l && same v w && sameMembers ms ns
  | _, _ => false

end

/-! ## Size -/

mutual

/-- The number of values in a value, itself included. -/
def weight : Json → Nat
  | .array xs => 1 + weightItems xs
  | .object ms => 1 + weightMembers ms
  | _ => 1

def weightItems : List Json → Nat
  | [] => 0
  | x :: xs => weight x + weightItems xs

def weightMembers : List (String × Json) → Nat
  | [] => 0
  | (_, v) :: rest => weight v + weightMembers rest

end

end Json

end Conformance
