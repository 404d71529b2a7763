import Conformance.Number.Decimal
/-!
# Binary floating point

The finite numbers of the 64-bit binary format as exact values, without machine floats: a number is
`significand · 2 ^ exponent` with a sign. Rounding goes to the nearest representable number and, between
two equally near ones, to the even significand. `shortest` is the inverse direction: the fewest
decimal digits that round back to a given number, and the ones a number is written with.
-/

namespace Conformance

/-- A finite number of the 64-bit binary format. The significand is below `2 ^ 53`, the exponent is at
least -1074, and the significand is at least `2 ^ 52` unless the exponent is -1074. -/
structure Binary64 where
  negative : Bool
  significand : Nat
  exponent : Int
deriving DecidableEq, Repr, Inhabited

namespace Binary64

/-- The zero of a sign. -/
def zero (negative : Bool) : Binary64 := ⟨negative, 0, -1074⟩

/-- Zero of either sign. -/
def isZero (x : Binary64) : Bool := x.significand == 0

/-! ## Exact value -/

/-- `num / den` measured in units of `2 ^ e`, as a quotient again. -/
def inUnits (num den : Nat) (e : Int) : Nat × Nat :=
  if 0 ≤ e then (num, den * Nat.pow 2 e.toNat) else (num * Nat.pow 2 (-e).toNat, den)

/-- The magnitude as a quotient of natural numbers. -/
def magnitude (x : Binary64) : Nat × Nat := inUnits x.significand 1 (-x.exponent)

/-- The value as a quotient with a positive denominator. -/
def ratio (x : Binary64) : Int × Nat :=
  let (num, den) := x.magnitude
  (if x.negative then -(num : Int) else num, den)

/-! ## Rounding -/

/-- The natural number nearest to `num / den`, the even one of two. -/
def nearest (num den : Nat) : Nat :=
  let q := num / den
  let r := num % den
  if 2 * r < den then q
  else if den < 2 * r then q + 1
  else if q % 2 = 0 then q else q + 1

/-- The representable number nearest to `num / den`; none when that is beyond the largest one. -/
def ofRatio (negative : Bool) (num den : Nat) : Option Binary64 :=
  if num = 0 then some (zero negative)
  else
    let low := max ((Nat.log2 num : Int) - Nat.log2 den - 53) (-1074)
    let (a, b) := inUnits num den low
    let unit := if Nat.pow 2 53 ≤ a / b then low + 1 else low
    let (a, b) := inUnits num den unit
    let m := nearest a b
    let (m, unit) := if m = Nat.pow 2 53 then (Nat.pow 2 52, unit + 1) else (m, unit)
    if unit > 971 then none else some ⟨negative, m, unit⟩

/-- The representable number nearest to a natural number. -/
def ofNat (negative : Bool) (n : Nat) : Option Binary64 := ofRatio negative n 1

/-- The product with `10 ^ k`, the power rounded first. -/
def timesTenPow (x : Binary64) (k : Nat) : Option Binary64 :=
  (ofNat false (Nat.pow 10 k)).bind fun p =>
    let (a, b) := x.magnitude
    let (c, d) := p.magnitude
    ofRatio x.negative (a * c) (b * d)

/-- The quotient by `10 ^ k`, the power rounded first. -/
def overTenPow (x : Binary64) (k : Nat) : Option Binary64 :=
  (ofNat false (Nat.pow 10 k)).bind fun p =>
    let (a, b) := x.magnitude
    let (c, d) := p.magnitude
    ofRatio x.negative (a * d) (b * c)

/-- A decimal `significand · 10 ^ exponent`: the significand is rounded, then scaled by at most two
rounded powers of ten. None when the result is beyond the largest number. -/
def ofDecimal (negative : Bool) (significand : Nat) (exponent : Int) : Option Binary64 :=
  (ofNat negative significand).bind fun x =>
    if x.isZero then some (zero negative)
    else if 308 < exponent then none
    else if 0 ≤ exponent then x.timesTenPow exponent.toNat
    else if -308 ≤ exponent then x.overTenPow (-exponent).toNat
    else if -616 ≤ exponent then
      (x.overTenPow 308).bind fun y => y.overTenPow ((-exponent).toNat - 308)
    else some (zero negative)

/-! ## Shortest decimal -/

/-- The interval of reals that round to a number's magnitude, in quarter units of its significand:
lower end, upper end, and whether the ends belong to it. -/
def interval (x : Binary64) : Nat × Nat × Bool :=
  let m := x.significand
  let lower := if m = Nat.pow 2 52 ∧ -1074 < x.exponent then 4 * m - 1 else 4 * m - 2
  (lower, 4 * m + 2, m % 2 = 0)

/-- The point of the grid of multiples of `10 ^ p` nearest to the magnitude that rounds back to it. -/
def gridPoint? (x : Binary64) (p : Int) : Option Nat :=
  let (lower, upper, closed) := x.interval
  -- a point `k · 10 ^ p` is `k · ten / unit` quarter units
  let (ten, unit) : Nat × Nat := if 0 ≤ p then (Nat.pow 10 p.toNat, 1) else (1, Nat.pow 10 (-p).toNat)
  let (ten, unit) := inUnits ten unit (x.exponent - 2)
  let inside (k : Nat) : Bool :=
    if closed then lower * unit ≤ k * ten && k * ten ≤ upper * unit
    else lower * unit < k * ten && k * ten < upper * unit
  let below := 4 * x.significand * unit / ten
  let above := below + 1
  match inside below && 0 < below, inside above with
  | false, false => none
  | true, false => some below
  | false, true => some above
  | true, true =>
    let down := 4 * x.significand * unit - below * ten
    let up := above * ten - 4 * x.significand * unit
    if down < up then some below
    else if up < down then some above
    else some (if below % 2 = 0 then below else above)

/-- Tries grids from coarse to fine, at most `steps` of them. -/
def firstGrid (x : Binary64) : Nat → Int → Nat × Int
  | 0, p => (0, p)
  | steps + 1, p =>
    match x.gridPoint? p with
    | some k => (k, p)
    | none => firstGrid x steps (p - 1)

/-- Digits `k` and exponent `p` of the shortest decimal `k · 10 ^ p` that rounds back to the magnitude,
the nearest of several. The coarsest grid is the first above the magnitude, the finest any number
needs is that of the smallest one's last digit. -/
def shortest (x : Binary64) : Nat × Int :=
  let (num, den) := x.magnitude
  x.firstGrid 720 ((Nat.toDigits 10 (num / den)).length : Int)

/-! ## The written form

The point is placed by position between `1e-5` and `1e16`, with at least one digit on each side; beyond that the
first digit stands before the point and the power of ten behind an `e`, with its sign.
-/

/-- The positional forms reach this many digits before the point. -/
def longestWhole : Int := 16

/-- The positional forms reach this many zeros behind the point. -/
def mostZeros : Int := 5

/-- The written form of the decimal `k · 10 ^ p`. -/
def decimalForm (k : Nat) (p : Int) : List Char :=
  let ds := Decimal.digits k
  let point : Int := ds.length + p
  if 0 ≤ p ∧ point ≤ longestWhole then ds ++ List.replicate p.toNat '0' ++ ['.', '0']
  else if 0 < point ∧ point ≤ longestWhole then
    ds.take point.toNat ++ '.' :: ds.drop point.toNat
  else if -mostZeros < point ∧ point ≤ 0 then
    '0' :: '.' :: List.replicate (-point).toNat '0' ++ ds
  else
    let mantissa := match ds with
      | [d] => [d]
      | d :: rest => d :: '.' :: rest
      | [] => []
    let sign := if 0 ≤ point - 1 then ['+'] else []
    mantissa ++ 'e' :: sign ++ Decimal.signed (point - 1)

/-- The written form of a number. -/
def written (x : Binary64) : List Char :=
  let sign := if x.negative then ['-'] else []
  if x.isZero then sign ++ ['0', '.', '0']
  else
    let (k, p) := x.shortest
    sign ++ decimalForm k p

/-- The digits of a number at their places, however many zeros that takes, and no point behind a whole
number. -/
def positional (x : Binary64) : List Char :=
  let sign := if x.negative then ['-'] else []
  if x.isZero then sign ++ ['0']
  else
    let (k, p) := x.shortest
    let ds := Decimal.digits k
    let point : Int := ds.length + p
    sign ++
      if 0 ≤ p then ds ++ List.replicate p.toNat '0'
      else if 0 < point then ds.take point.toNat ++ '.' :: ds.drop point.toNat
      else '0' :: '.' :: List.replicate (-point).toNat '0' ++ ds

/-! ## Multiples

Multiples of whole numbers are a matter of division. All others are compared as the decimal fractions that the
numbers come to when they are multiplied by growing powers of ten in binary arithmetic, up to the first product
without a fraction; so a multiple is meant in decimal, as far as the products are exact.
-/

/-- A number without a fraction. -/
def isWhole (x : Binary64) : Bool := x.ratio.1 % x.ratio.2 == 0

/-- A number below another. -/
def below (x y : Binary64) : Bool := x.ratio.1 * y.ratio.2 < y.ratio.1 * x.ratio.2

/-- The whole part of a magnitude, unless what is left over counts. -/
def settled? (x : Binary64) : Option Nat :=
  let (num, den) := x.magnitude
  if num % den * Nat.pow 2 52 < den then some (num / den) else none

/-- The most powers of ten that are tried: far smaller numbers settle at once, far larger ones are whole. -/
def maxPower : Nat := 64

/-- The first whole product of a magnitude with a power of ten, and the power. -/
def product (x : Binary64) : Nat → Nat → Nat × Nat
  | 0, k => (0, Nat.pow 10 k)
  | steps + 1, k =>
    match (x.timesTenPow k).bind settled? with
    | some n => (n, Nat.pow 10 k)
    | none => product x steps (k + 1)

/-- The decimal fraction a number comes to. -/
def decimalFraction (x : Binary64) : Int × Nat :=
  let (num, den) := x.product maxPower 0
  (if x.negative then -(num : Int) else num, den)

/-- A number is a multiple of another. Of a divisor with a fraction, numbers below it are none but zero. -/
def isMultipleOf (x divisor : Binary64) : Bool :=
  if divisor.isWhole then
    x.isWhole && !divisor.isZero && x.ratio.1 / x.ratio.2 % (divisor.ratio.1 / divisor.ratio.2) == 0
  else if x.below divisor && !x.isZero then false
  else
    let (n, d) := x.decimalFraction
    let (m, e) := divisor.decimalFraction
    m == 0 || n * e % (m * d) == 0

end Binary64

end Conformance
