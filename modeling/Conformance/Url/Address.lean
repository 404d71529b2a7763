import Conformance.Text.Character
import Conformance.Number.Decimal
/-!
# Internet addresses

The written forms of IPv4 and IPv6 addresses as URLs allow them, and the one form in which each address is
written back.
-/

namespace Conformance

/-! ## IPv4 -/

/-- A number of 32 bits, the first of the four written bytes highest. -/
structure Ipv4 where
  value : UInt32
deriving DecidableEq, Repr

namespace Ipv4

/-- The text of an address: four bytes joined with dots. -/
def text (a : Ipv4) : String :=
  let n := a.value.toNat
  Text.join "." ([n / Nat.pow 256 3, n / Nat.pow 256 2 % 256, n / 256 % 256, n % 256].map Decimal.text)

/-- Reads the digits of a base; no digits stand for 0. -/
def digits? (base : Nat) (cs : List Char) : Option Nat :=
  if cs.all (Radix.isDigit base) then some (Radix.value base cs) else none

/-- Reads a part of an address: hexadecimal behind `0x`, octal behind `0`, else decimal. -/
def part? : List Char → Option Nat
  | [] => none
  | '0' :: 'x' :: cs | '0' :: 'X' :: cs => digits? 16 cs
  | '0' :: c :: cs => digits? 8 (c :: cs)
  | cs => digits? 10 cs

/-- The parts of a text between dots, without the empty part behind a dot at the end. -/
def parts (cs : List Char) : List (List Char) :=
  let ps := Text.split '.' cs
  if 1 < ps.length ∧ ps.getLast? = some [] then ps.dropLast else ps

/-- The last part is a number, so the text has to be an address. -/
def endsInNumber (cs : List Char) : Bool :=
  match (parts cs).getLast? with
  | some part => (!part.isEmpty && part.all Decimal.isDigit) || (part? part).isSome
  | none => false

/-- The address whose parts are given: all but the last are bytes, the last fills what is left. -/
def ofParts? (numbers : List Nat) : Option Ipv4 :=
  match numbers.getLast? with
  | none => none
  | some last =>
    let bytes := numbers.dropLast
    if 3 < bytes.length ∨ bytes.any (255 < ·) ∨ Nat.pow 256 (4 - bytes.length) ≤ last then none
    else
      let high := bytes.foldl (fun n b => 256 * n + b) 0
      some ⟨UInt32.ofNat (high * Nat.pow 256 (4 - bytes.length) + last)⟩

/-- Reads an address of up to four parts. -/
def parse? (cs : List Char) : Option Ipv4 := ((parts cs).mapM part?).bind ofParts?

end Ipv4

/-! ## IPv6 -/

/-- Eight pieces of 16 bits. -/
structure Ipv6 where
  pieces : List UInt16
deriving DecidableEq, Repr

namespace Ipv6

/-- Reads a piece: one to four hexadecimal digits. -/
def piece? (cs : List Char) : Option UInt16 :=
  if cs.isEmpty || 4 < cs.length then none
  else if cs.all (Radix.isDigit 16) then some (UInt16.ofNat (Radix.value 16 cs))
  else none

/-- Reads a byte in decimal. -/
def byte? (cs : List Char) : Option Nat :=
  (Decimal.readPlain? cs).bind fun n => if n < 256 then some n else none

/-- Reads four bytes joined with dots as two pieces. -/
def dotted? (cs : List Char) : Option (List UInt16) := do
  match ← (Text.split '.' cs).mapM byte? with
  | [a, b, c, d] => some [UInt16.ofNat (256 * a + b), UInt16.ofNat (256 * c + d)]
  | _ => none

/-- Reads pieces, the last two possibly in dotted form. -/
def pieces? : List (List Char) → Option (List UInt16)
  | [] => some []
  | [p] => if p.contains '.' then dotted? p else (piece? p).map ([·])
  | p :: ps => (piece? p).bind fun n => (pieces? ps).map (n :: ·)

/-- The texts in front of and behind the first double colon. -/
def gap? : List Char → Option (List Char × List Char)
  | ':' :: ':' :: cs => some ([], cs)
  | c :: cs => (gap? cs).map fun (a, b) => (c :: a, b)
  | [] => none

/-- Reads the pieces of one side of a double colon. -/
def side? (cs : List Char) : Option (List UInt16) :=
  if cs.isEmpty then some [] else pieces? (Text.split ':' cs)

/-- Reads an address. A double colon stands for one or more zero pieces, and nothing dotted stands before
it. -/
def parse? (cs : List Char) : Option Ipv6 :=
  match gap? cs with
  | none => (side? cs).bind fun ps => if ps.length = 8 then some ⟨ps⟩ else none
  | some (before, behind) =>
    if before.contains '.' then none
    else do
      let a ← side? before
      let b ← side? behind
      if 8 ≤ a.length + b.length then none
      else return ⟨a ++ List.replicate (8 - a.length - b.length) 0 ++ b⟩

/-- The text of a piece. -/
def pieceText (p : UInt16) : String := String.ofList (Nat.toDigits 16 p.toNat)

/-- The length of the run of zero pieces at the start. -/
def zeros (ps : List UInt16) : Nat := (ps.takeWhile (· == 0)).length

/-- The start and length of the longest run of zero pieces, the first of equals. -/
def longestGap : Nat → List UInt16 → Nat × Nat
  | i, [] => (i, 0)
  | i, p :: ps =>
    let here := zeros (p :: ps)
    let later := longestGap (i + 1) ps
    if later.2 ≤ here then (i, here) else later

/-- Pieces joined with colons. -/
def joined (ps : List UInt16) : String := Text.join ":" (ps.map pieceText)

/-- The text of an address: the longest run of two or more zero pieces becomes a double colon. -/
def text (a : Ipv6) : String :=
  let (start, size) := longestGap 0 a.pieces
  if size < 2 then joined a.pieces
  else joined (a.pieces.take start) ++ "::" ++ joined (a.pieces.drop (start + size))

end Ipv6

end Conformance
