import Geocoding.Decimal.Power
import Geocoding.Decimal.Reading
import Geocoding.Json.Token
import Geocoding.Toml.Value

/-!
# TOML scalars

Values written without quotes: truth values, whole numbers in four bases, real numbers, dates and times.
Digits may be grouped by underscores, each between two digits. Every value must be representable: whole
numbers in 128 bits, real numbers in the binary64 range.
-/

namespace Geocoding.Toml

open Decimal (digitsValue)

/-- Digits without the underscores between them. -/
def ungrouped? (isDigit : Char → Bool) : List Char → Option (List Char)
  | [] => none
  | [d] => if isDigit d then some [d] else none
  | d :: '_' :: ds => if isDigit d then (ungrouped? isDigit ds).map (d :: ·) else none
  | d :: ds => if isDigit d then (ungrouped? isDigit ds).map (d :: ·) else none

/-- Decimal digits, grouped or not. -/
def digits? (cs : List Char) : Option (List Char) := ungrouped? Char.isDigit cs

/-- Decimal digits without a zero in front of others. -/
def wholeDigits? (cs : List Char) : Option (List Char) := do
  let ds ← digits? cs
  match ds with
  | '0' :: _ :: _ => none
  | ds => some ds

/-- The value of digits in a base. -/
def baseValue? (base : Nat) (cs : List Char) : Option Nat := do
  let isDigit (c : Char) : Bool :=
    match Json.hexValue? c with
    | some d => d < base
    | none => false
  let ds ← ungrouped? isDigit cs
  return ds.foldl (fun n c => n * base + (Json.hexValue? c).getD 0) 0

/-- Whole numbers in another base than ten. -/
def based? : List Char → Option Nat
  | '0' :: 'x' :: cs => baseValue? 16 cs
  | '0' :: 'o' :: cs => baseValue? 8 cs
  | '0' :: 'b' :: cs => baseValue? 2 cs
  | _ => none

/-- The power of ten that may end a real number. -/
def power? : List Char → Option Int
  | [] => some 0
  | e :: cs =>
    if e == 'e' || e == 'E' then
      let (negative, cs) := Decimal.splitSign cs
      (digits? cs).map fun ds => if negative then -(digitsValue ds : Int) else digitsValue ds
    else none

/-- Whether `c` is a digit or groups digits. -/
def isGroupedDigit (c : Char) : Bool := c.isDigit || c == '_'

/-- A real number; one beyond the binary64 range is refused. -/
def real? (cs : List Char) : Option Float := do
  let (negative, cs) := Decimal.splitSign cs
  let whole ← wholeDigits? (cs.takeWhile isGroupedDigit)
  let (fraction, rest) ← match cs.dropWhile isGroupedDigit with
    | '.' :: rest => do
      let fraction ← digits? (rest.takeWhile isGroupedDigit)
      some (fraction, rest.dropWhile isGroupedDigit)
    | rest => some ([], rest)
  let exponent ← power? rest
  let x := (Decimal.Literal.mk negative whole fraction exponent).toFloat
  if x.isFinite then some x else none

/-- A whole number with its sign. -/
def integer? (cs : List Char) : Option Int := do
  match based? cs with
  | some n => return n
  | none =>
    let (negative, cs) := Decimal.splitSign cs
    let n := digitsValue (← wholeDigits? cs)
    return if negative then -(n : Int) else n

/-- The values that have names. -/
def named? (cs : List Char) : Option Value :=
  let (negative, name) := Decimal.splitSign cs
  match name with
  | ['i', 'n', 'f'] => some (.real (if negative then -Decimal.infinity else Decimal.infinity))
  | ['n', 'a', 'n'] => some (.real Decimal.notANumber)
  | _ =>
    match cs with
    | ['t', 'r', 'u', 'e'] => some (.bool true)
    | ['f', 'a', 'l', 's', 'e'] => some (.bool false)
    | _ => none

/-- Splits off a number of exactly `width` digits that is at most `most`. -/
def clockNumber? (width most : Nat) (cs : List Char) : Option (Nat × List Char) :=
  let ds := cs.take width
  let n := digitsValue ds
  if ds.length = width ∧ ds.all Char.isDigit ∧ n ≤ most then some (n, cs.drop width) else none

/-- Splits off one character. -/
def expect? (c : Char) : List Char → Option (List Char)
  | d :: cs => if c = d then some cs else none
  | [] => none

/-- The number of days of a month. -/
def daysOf (year month : Nat) : Nat :=
  if month = 2 then
    if (year % 4 = 0 ∧ year % 100 ≠ 0) ∨ year % 400 = 0 then 29 else 28
  else if month = 4 ∨ month = 6 ∨ month = 9 ∨ month = 11 then 30
  else 31

/-- Splits off a date. -/
def date? (cs : List Char) : Option (List Char) := do
  let (year, cs) ← clockNumber? 4 9999 cs
  let (month, cs) ← clockNumber? 2 12 (← expect? '-' cs)
  let (day, cs) ← clockNumber? 2 (daysOf year month) (← expect? '-' cs)
  if month = 0 ∨ day = 0 then none else some cs

/-- Splits off the digits behind the point of a second. -/
def secondFraction? : List Char → Option (List Char)
  | '.' :: cs =>
    if (cs.takeWhile Char.isDigit).isEmpty then none else some (cs.dropWhile Char.isDigit)
  | cs => some cs

/-- Splits off a time of day; the seconds may be left out. -/
def time? (cs : List Char) : Option (List Char) := do
  let (_, cs) ← clockNumber? 2 23 cs
  let (_, cs) ← clockNumber? 2 59 (← expect? ':' cs)
  match cs with
  | ':' :: cs => do
    let (_, cs) ← clockNumber? 2 60 cs
    secondFraction? cs
  | cs => some cs

/-- Whether `cs` is the distance from universal time, or nothing. -/
def isOffset : List Char → Bool
  | [] | ['Z'] | ['z'] => true
  | sign :: cs =>
    (sign == '+' || sign == '-') &&
      match clockNumber? 2 24 cs with
      | some (hours, ':' :: cs) =>
        match clockNumber? 2 59 cs with
        | some (minutes, []) => hours * 60 + minutes ≤ 1440
        | _ => false
      | _ => false

/-- Whether `cs` is a date, a time, or both with one separator between them. -/
def isDateTime (cs : List Char) : Bool :=
  match date? cs with
  | some [] => true
  | some (separator :: cs) =>
    (separator == 'T' || separator == 't' || separator == ' ') && (time? cs).any isOffset
  | none => (time? cs).any List.isEmpty

/-- The value that `cs` spells. -/
def scalar? (cs : List Char) : Option Value :=
  match named? cs with
  | some v => some v
  | none =>
    match integer? cs with
    | some n => if -(twoTo 127 : Int) ≤ n ∧ n < twoTo 128 then some (.integer n) else none
    | none =>
      match real? cs with
      | some x => some (.real x)
      | none => if isDateTime cs then some .dateTime else none

end Geocoding.Toml
