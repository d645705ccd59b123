import Geocoding.Decimal.Power
import Geocoding.Json.Token

/-!
# IPv4 addresses

A host whose last label is a number is an address: up to four numbers, decimal, octal or hexadecimal, of
which the last fills all the bytes that the others leave.
-/

namespace Geocoding.Url

/-- The value of digits in a base. -/
def numberIn? (base : Nat) (cs : List Char) : Option Nat :=
  cs.foldlM (fun n c => do
    let d ← Json.hexValue? c
    if d < base then some (n * base + d) else none) 0

/-- The number that a label spells. -/
def ipv4Number? : List Char → Option Nat
  | [] => none
  | '0' :: 'x' :: cs | '0' :: 'X' :: cs => numberIn? 16 cs
  | '0' :: c :: cs => numberIn? 8 (c :: cs)
  | cs => numberIn? 10 cs

/-- The labels of a host; the root at the end is dropped. -/
def labelsOf (host : List Char) : List (List Char) :=
  let labels := host.splitOnP (· == '.')
  if labels.length > 1 ∧ labels.getLast? = some [] then labels.dropLast else labels

/-- Whether a host has to be an address. -/
def endsInNumber (host : List Char) : Bool :=
  match (labelsOf host).getLast? with
  | none => false
  | some label =>
    (!label.isEmpty && label.all Char.isDigit) || (ipv4Number? label).isSome

/-- The address that numbers stand for, where `room` is the number of values left for them. -/
def ipv4Of? : Nat → List Nat → Option Nat
  | _, [] => none
  | room, [n] => if n < room then some n else none
  | room, n :: ns => if n < 256 then (ipv4Of? (room / 256) ns).map (n * (room / 256) + ·) else none

/-- The address that a host spells. -/
def ipv4? (host : List Char) : Option Nat := do
  let labels := labelsOf host
  if labels.length > 4 then none else ipv4Of? (twoTo 32) (← labels.mapM ipv4Number?)

/-- The text of an address. -/
def ipv4Text (n : Nat) : List Char :=
  ['.'].intercalate ([twoTo 24, twoTo 16, twoTo 8, 1].map fun unit => Nat.toDigits 10 (n / unit % 256))

end Geocoding.Url
