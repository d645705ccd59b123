import Geocoding.Decimal.Power
import Geocoding.Decimal.Reading
import Geocoding.Decimal.Shortest

/-!
# JSON numbers

Whole numbers that fit in 64 bits are kept exactly; every other number is a binary64 value, computed
from the digits that fit in 64 bits by one multiplication or division with a power of ten. A number
beyond the binary64 range has no value.
-/

namespace Geocoding.Json

open Geocoding.Decimal

/-- A number in a JSON text. -/
inductive Number where
  | natural (n : Nat)
  | negative (n : Nat)
  | real (x : Float)

/-- The largest whole number that is kept exactly. -/
def largest : Nat := twoTo 64 - 1

/-- Appends digits to `n` as long as the result fits in 64 bits; the second component counts them. -/
def absorb (n : Nat) : List Char → Nat × Nat
  | [] => (n, 0)
  | d :: ds =>
    let next := n * 10 + (d.toNat - '0'.toNat)
    if next ≤ largest then
      let (m, taken) := absorb next ds
      (m, taken + 1)
    else (n, 0)

/-- `x * 10 ^ exponent`, or nothing beyond the binary64 range. -/
def scaleByTen (x : Float) (exponent : Int) : Option Float :=
  if exponent < -308 then
    if x == 0.0 then some x
    else scaleByTen (x / Float.ofScientific 1 false 308) (exponent + 308)
  else if exponent < 0 then some (x / Float.ofScientific 1 false exponent.natAbs)
  else if 308 < exponent then
    if x == 0.0 then some x else none
  else
    let y := x * Float.ofScientific 1 false exponent.natAbs
    if y.isFinite then some y else none
termination_by exponent.natAbs
decreasing_by omega

/-- The value of a literal, unless it is beyond the range. A literal without point and exponent whose
digits fit in 64 bits is a whole number; minus zero is not. -/
def Number.ofLiteral? (l : Literal) (isWhole : Bool) : Option Number :=
  let (n, taken) := absorb 0 l.whole
  let skipped := l.whole.length - taken
  if isWhole && skipped == 0 && (!l.negative || (0 < n && n ≤ twoTo 63)) then
    some (if l.negative then .negative n else .natural n)
  else
    let (n, places) := absorb n l.fraction
    let exponent := l.exponent + skipped - places
    (scaleByTen n.toUInt64.toFloat exponent).map fun x => .real (if l.negative then -x else x)

/-- Whether digits may stand before the point: a zero stands alone. -/
def isWholePart : List Char → Bool
  | [] => false
  | ['0'] => true
  | d :: ds => d.isDigit && d != '0' && ds.all Char.isDigit

/-- Reads a number. The outer option tells whether the text is a number at all, the inner one whether
it is within the range. -/
def Number.ofChars? (cs : List Char) : Option (Option Number) :=
  let (minus, cs) := match cs with
    | '-' :: cs => (true, cs)
    | cs => (false, cs)
  let whole := cs.takeWhile Char.isDigit
  if !isWholePart whole then none
  else match cs.dropWhile Char.isDigit with
    | [] => some (ofLiteral? ⟨minus, whole, [], 0⟩ true)
    | '.' :: rest =>
      let fraction := rest.takeWhile Char.isDigit
      if fraction.isEmpty then none
      else (exponentOf? (rest.dropWhile Char.isDigit)).map fun exponent =>
        ofLiteral? ⟨minus, whole, fraction, exponent⟩ false
    | rest => (exponentOf? rest).map fun exponent =>
        ofLiteral? ⟨minus, whole, [], exponent⟩ false

/-- The binary64 value of a number. -/
def Number.toFloat : Number → Float
  | .natural n => n.toUInt64.toFloat
  | .negative n => -n.toUInt64.toFloat
  | .real x => x

/-- A decimal as JSON writes it: without an exponent, and then always with a point, when the first digit
counts at least `10 ^ -5` and less than `10 ^ 16`, else with one digit before the point. -/
def decimalText (d : Scientific) : List Char :=
  let ds := Nat.toDigits 10 d.digits
  let lead : Int := ds.length - 1 + d.exponent
  if -5 ≤ lead ∧ lead ≤ 15 then
    match d.exponent with
    | .ofNat e => ds ++ List.replicate e '0' ++ ['.', '0']
    | .negSucc e =>
      let ds := List.replicate (e + 2 - ds.length) '0' ++ ds
      ds.take (ds.length - (e + 1)) ++ '.' :: ds.drop (ds.length - (e + 1))
  else
    let mantissa := match ds with
      | d :: d' :: ds => d :: '.' :: d' :: ds
      | ds => ds
    let sign := if lead < 0 then '-' else '+'
    mantissa ++ 'e' :: sign :: Nat.toDigits 10 lead.natAbs

/-- The text of a finite binary64 number; of two equally near decimals the even one is taken. -/
def realText (x : Float) : List Char :=
  match Binary.ofFloat? x with
  | some b =>
    let magnitude :=
      if b.mantissa = 0 then ['0', '.', '0'] else decimalText (b.shortest .toEven)
    if b.negative then '-' :: magnitude else magnitude
  | none => ['n', 'u', 'l', 'l']

/-- The text of a number. -/
def Number.text : Number → List Char
  | .natural n => Nat.toDigits 10 n
  | .negative n => '-' :: Nat.toDigits 10 n
  | .real x => realText x

end Geocoding.Json
