import Geocoding.Decimal.Fixed
import Geocoding.Decimal.Power

/-!
# Time

Lengths of time and instants of a clock that only moves on, both in nanoseconds. The clock counts its
seconds in a signed 64-bit number, so an instant too far ahead does not exist.
-/

namespace Geocoding

/-- A length of time. -/
structure Duration where
  nanoseconds : Nat
  deriving DecidableEq, Repr

namespace Duration

/-- A whole number of seconds. -/
def ofSeconds (n : Nat) : Duration := ⟨n * tenTo 9⟩

/-- A whole number of milliseconds. -/
def ofMilliseconds (n : Nat) : Duration := ⟨n * tenTo 6⟩

/-- The whole seconds in a length of time. -/
def seconds (d : Duration) : Nat := d.nanoseconds / tenTo 9

/-- The whole milliseconds in a length of time. -/
def milliseconds (d : Duration) : Nat := d.nanoseconds / tenTo 6

/-- Why a number of seconds is no length of time. -/
inductive Error where
  | negative
  | tooLong
  deriving DecidableEq, Repr

/-- The error in words. -/
def Error.message : Error → String
  | negative => "cannot convert float seconds to Duration: value is negative"
  | tooLong => "cannot convert float seconds to Duration: value is either too big or NaN"

/-- The longest length of time has less than this many nanoseconds. -/
def bound : Nat := twoTo 64 * tenTo 9

/-- A number of seconds, rounded to the nearest nanosecond, a half to the even neighbour. -/
def ofFloat (seconds : Float) : Except Error Duration :=
  match Decimal.Binary.ofFloat? seconds with
  | none => .error (if !seconds.isNaN && Decimal.isNegative seconds then .negative else .tooLong)
  | some b =>
    if b.negative ∧ b.mantissa ≠ 0 then .error .negative
    else
      let n := b.scaled 9
      if n < bound then .ok ⟨n⟩ else .error .tooLong

end Duration

/-- An instant, as the time since the clock started. -/
structure Instant where
  nanoseconds : Nat
  deriving DecidableEq, Repr

namespace Instant

/-- All instants have less than this many nanoseconds. -/
def bound : Nat := twoTo 63 * tenTo 9

/-- The instant a length of time later, if the clock gets there. -/
def later? (t : Instant) (d : Duration) : Option Instant :=
  if t.nanoseconds + d.nanoseconds < bound then some ⟨t.nanoseconds + d.nanoseconds⟩ else none

/-- The instant a length of time later on a clock that never stops. -/
def later (t : Instant) (d : Duration) : Instant := ⟨t.nanoseconds + d.nanoseconds⟩

/-- The time from `s` to `t`; nothing if `t` is the earlier one. -/
def since (t s : Instant) : Duration := ⟨t.nanoseconds - s.nanoseconds⟩

/-- The later of two instants. -/
def max (s t : Instant) : Instant := if s.nanoseconds ≤ t.nanoseconds then t else s

end Instant

end Geocoding
