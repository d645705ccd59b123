import Geocoding.Decimal.Binary
import Geocoding.Decimal.Power

/-!
# Shortest decimals

The decimal with the fewest digits among those that a reader rounds to a given binary64 number, and of
those the nearest one. The decimals that round to a number form an interval, whose ends belong to it
when the mantissa is even; on each decimal grid, from coarse to fine, only the two neighbours of the
number need to be tried.
-/

namespace Geocoding.Decimal

/-- Which of two equally near decimals is taken. -/
inductive Tie where
  | toEven
  | up
  deriving DecidableEq, Repr

/-- The decimal `digits * 10 ^ exponent`. -/
structure Scientific where
  digits : Nat
  exponent : Int
  deriving DecidableEq, Repr

/-- `b ^ n` for a positive power, else one. -/
def powPos (b : Nat) (n : Int) : Nat := Nat.pow b n.toNat

/-- The grid of the multiples of `10 ^ exponent` seen from a binary number: `value`, `low` and `high`
are the number and the ends of its interval, in the unit in which one step of the grid is `step`. -/
structure Grid where
  value : Nat
  low : Nat
  high : Nat
  step : Nat
  closed : Bool
  deriving Repr

/-- The grid of the multiples of `10 ^ exponent` around `b`. The unit is a quarter of the distance to
the next number, and the lower half of the interval is shorter at a power of two. -/
def Binary.grid (b : Binary) (exponent : Int) : Grid :=
  let q := b.exponent - 2
  let unit := powPos 2 q * powPos 10 (-exponent)
  let below := if b.mantissa = twoTo 52 ∧ -1074 < b.exponent then 1 else 2
  { value := 4 * b.mantissa * unit
    low := (4 * b.mantissa - below) * unit
    high := (4 * b.mantissa + 2) * unit
    step := powPos 10 exponent * powPos 2 (-q)
    closed := b.mantissa % 2 == 0 }

/-- Whether the `d`-th point of the grid rounds to the number. -/
def Grid.holds (g : Grid) (d : Nat) : Bool :=
  let p := d * g.step
  if g.closed then g.low ≤ p && p ≤ g.high else g.low < p && p < g.high

/-- The nearer of the two grid points around the number that round to it. -/
def Grid.nearest? (tie : Tie) (g : Grid) : Option Nat :=
  let d := g.value / g.step
  match g.holds d, g.holds (d + 1) with
  | false, false => none
  | true, false => some d
  | false, true => some (d + 1)
  | true, true =>
    let middle := (2 * d + 1) * g.step
    if 2 * g.value < middle then some d
    else if middle < 2 * g.value then some (d + 1)
    else match tie with
      | .up => some (d + 1)
      | .toEven => some (d + d % 2)

/-- The first hit on the grids from `10 ^ exponent` downwards, at most `fuel` of them. -/
def Binary.shortestFrom (tie : Tie) (b : Binary) : Nat → Int → Scientific
  | 0, exponent => ⟨0, exponent⟩
  | fuel + 1, exponent =>
    match (b.grid exponent).nearest? tie with
    | some d => ⟨d, exponent⟩
    | none => b.shortestFrom tie fuel (exponent - 1)

/-- The shortest decimal of a number that is not zero. The first grid is coarser than the number by at
least one digit, and seventeen digits always suffice. -/
def Binary.shortest (tie : Tie) (b : Binary) : Scientific :=
  b.shortestFrom tie 24 (((b.mantissa.log2 : Int) + b.exponent) * 1233 / 4096 + 2)

end Geocoding.Decimal
