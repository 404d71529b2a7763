import Conformance.Text.Character
/-!
# Punycode

The ASCII form of a label that holds other characters (RFC 3492): its ASCII characters, a hyphen, and then
for every other character how far to count to reach its place and its code point. The counts are written
to base 36 with digits whose thresholds adapt to the counts so far.
-/

namespace Conformance.Punycode

/-! ## Digits -/

/-- The character of a digit. -/
def digit (d : Nat) : Char := if d < 26 then Char.ofNat (97 + d) else Char.ofNat (22 + d)

/-- The digit of a lower-case character. -/
def digitValue? (c : Char) : Option Nat :=
  if 'a' ≤ c ∧ c ≤ 'z' then some (c.toNat - 97)
  else if '0' ≤ c ∧ c ≤ '9' then some (c.toNat - 22)
  else none

/-- The least digit that has another behind it, at a distance from the first of a count. -/
def threshold (k bias : Nat) : Nat := if k ≤ bias then 1 else min (k - bias) 26

theorem threshold_pos (k bias : Nat) : 1 ≤ threshold k bias := by
  unfold threshold
  split <;> omega

/-- Divides a count down to the range of one digit, adding up the distance. -/
def settle (delta k : Nat) : Nat × Nat := if 455 < delta then settle (delta / 35) (k + 36) else (delta, k)
termination_by delta
decreasing_by exact Nat.div_lt_self (by omega) (by omega)

/-- The bias after a count, with the number of characters placed so far. -/
def adapt (delta placed : Nat) (isFirst : Bool) : Nat :=
  let start := if isFirst then delta / 700 else delta / 2
  let (delta, k) := settle (start + start / placed) 0
  k + 36 * delta / (delta + 38)

/-! ## Writing -/

/-- The digits of a count. -/
def writeCount (bias k q : Nat) : List Char :=
  let t := threshold k bias
  if q < t then [digit q]
  else digit (t + (q - t) % (36 - t)) :: writeCount bias (k + 36) ((q - t) / (36 - t))
termination_by q
decreasing_by
  have := threshold_pos k bias
  exact Nat.lt_of_le_of_lt (Nat.div_le_self _ _) (by omega)

/-- Where the writer stands: the characters placed, the count since the last one, and the bias. -/
structure Place where
  placed : Nat
  delta : Nat
  bias : Nat

/-- Goes over the text for one code point, writing a count at each of its places. -/
def writeAll (basic n : Nat) (p : Place) : List Char → List Char × Place
  | [] => ([], p)
  | c :: cs =>
    if c.toNat = n then
      let digits := writeCount p.bias 36 p.delta
      let next : Place := ⟨p.placed + 1, 0, adapt p.delta (p.placed + 1) (p.placed == basic)⟩
      let (rest, p) := writeAll basic n next cs
      (digits ++ rest, p)
    else writeAll basic n (if c.toNat < n then { p with delta := p.delta + 1 } else p) cs

/-- Writes the counts of the given code points, in ascending order; `n` is the next to be counted. -/
def writeCounts (cs : List Char) (basic : Nat) : List Nat → Nat → Place → List Char
  | [], _, _ => []
  | m :: ms, n, p =>
    let p := { p with delta := p.delta + (m - n) * (p.placed + 1) }
    let (digits, p) := writeAll basic m p cs
    digits ++ writeCounts cs basic ms (m + 1) { p with delta := p.delta + 1 }

/-- The ASCII form of a label. -/
def encode (cs : List Char) : List Char :=
  let basic := cs.filter fun c => c.toNat < 0x80
  let points := (Text.ascending (cs.filter fun c => 0x80 ≤ c.toNat)).map Char.toNat
  let start := if basic.isEmpty then [] else basic ++ ['-']
  start ++ writeCounts cs basic.length points 0x80 ⟨basic.length, 0, 72⟩

/-! ## Reading -/

/-- Reads one count, given what its digits add up to so far and the weight of the next one. -/
def readCount? (bias k weight sum : Nat) : List Char → Option (Nat × List Char)
  | [] => none
  | c :: cs =>
    (digitValue? c).bind fun d =>
      let sum := sum + d * weight
      let t := threshold k bias
      if UInt32.size ≤ sum then none
      else if d < t then some (sum, cs)
      else readCount? bias (k + 36) (weight * (36 - t)) sum cs

/-- Places the characters whose counts are left to read. `n` is the code point and `i` the place counting
starts from; fuel bounds the number of counts. -/
def readCounts? (fuel n i bias : Nat) (done : List Char) (cs : List Char) : Option (List Char) :=
  match fuel, cs with
  | _, [] => some done
  | 0, _ :: _ => none
  | fuel + 1, c :: cs =>
    (readCount? bias 36 1 0 (c :: cs)).bind fun (delta, rest) =>
      let size := done.length + 1
      let n := n + (i + delta) / size
      let place := (i + delta) % size
      if n.isValidChar then
        readCounts? fuel n (place + 1) (adapt delta size (i == 0))
          (done.take place ++ Char.ofNat n :: done.drop place) rest
      else none

/-- The label with an ASCII form: what stands before the last hyphen, with the counted characters. -/
def decode? (cs : List Char) : Option (List Char) :=
  let back := cs.reverse
  let counts := (back.takeWhile (· != '-')).reverse
  let basic := ((back.dropWhile (· != '-')).drop 1).reverse
  if basic.all fun c => c.toNat < 0x80 then readCounts? cs.length 0x80 0 72 basic counts else none

end Conformance.Punycode
