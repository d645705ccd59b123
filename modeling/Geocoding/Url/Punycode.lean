/-!
# Punycode

A label of any characters as one of letters, digits and hyphens. Its ASCII characters come first; the
others are inserted one after the other, by code point. Each insertion is a number: how many places have
been passed over since the last one. The numbers are written without gaps, in digits whose weights adapt
to the numbers before.
-/

namespace Geocoding.Url.Punycode

/-- The first code point that is not ASCII. -/
def firstCodePoint : Nat := 0x80

/-- The length beyond which a label is not decoded. -/
def longestEncoded : Nat := 2000

/-- The length beyond which a label is not encoded. -/
def longestDecoded : Nat := 1000

/-! ## Insertions -/

/-- An insertion: a code point and its place among the characters that are there already. -/
structure Insertion where
  codePoint : Nat
  place : Nat
  deriving DecidableEq, Repr

/-- The insertions of the characters of a label that follow `before`. What comes before a character when
it is inserted has a code point no larger than its own. -/
def insertionsFrom (before : List Nat) : List Char → List Insertion
  | [] => []
  | c :: cs =>
    let n := c.toNat
    let rest := insertionsFrom (n :: before) cs
    if n < firstCodePoint then rest else ⟨n, before.countP (· ≤ n)⟩ :: rest

/-- The insertions of a label, by code point; those of one code point from left to right. -/
def insertions (label : List Char) : List Insertion :=
  (insertionsFrom [] label).mergeSort fun a b => decide (a.codePoint ≤ b.codePoint)

/-- The numbers of insertions into `count` characters, after one that ended before `place`. A code point
has one place more than there are characters. -/
def numbersFrom (count codePoint place : Nat) : List Insertion → List Nat
  | [] => []
  | i :: is =>
    ((i.codePoint - codePoint) * (count + 1) + i.place - place) ::
      numbersFrom (count + 1) i.codePoint (i.place + 1) is

/-- Inserts the characters of numbers into a label. -/
def insertFrom (codePoint place : Nat) (label : List Char) : List Nat → Option (List Char)
  | [] => some label
  | v :: vs =>
    let places := label.length + 1
    let codePoint := codePoint + (place + v) / places
    let place := (place + v) % places
    if h : codePoint.isValidChar then
      insertFrom codePoint (place + 1)
        (label.take place ++ Char.ofNatAux codePoint h :: label.drop place) vs
    else none

/-! ## Digits -/

/-- The number of digits. -/
def base : Nat := 36

/-- A digit as a character. -/
def digit (n : Nat) : Char := .ofNat (if n < 26 then 'a'.toNat + n else '0'.toNat + (n - 26))

/-- The value of a digit; letters may be large or small. -/
def digitValue? (c : Char) : Option Nat :=
  if c.isLower then some (c.toNat - 'a'.toNat)
  else if c.isUpper then some (c.toNat - 'A'.toNat)
  else if c.isDigit then some (c.toNat - '0'.toNat + 26)
  else none

/-- The threshold of the `n`-th digit of a number: from 1 to 26. A digit below it is the last. -/
def threshold (n bias : Nat) : Nat := max 1 (min 26 (base * (n + 1) - bias))

/-- How often a number is divided by 35 until it is small, and what is left of it. -/
def scaleDown (v : Nat) : Nat × Nat :=
  if 455 < v then
    let (n, rest) := scaleDown (v / 35)
    (n + 1, rest)
  else (0, v)
termination_by v
decreasing_by omega

/-- How the digits of the next number are weighed: the number of characters that have been placed, and
the bias of the thresholds. -/
structure Weights where
  count : Nat
  bias : Nat
  isFirst : Bool
  deriving DecidableEq, Repr

/-- The weights of the first number. -/
def Weights.start (count : Nat) : Weights := ⟨count, 72, true⟩

/-- The weights after a number. -/
def Weights.after (w : Weights) (v : Nat) : Weights :=
  let damped := v / (if w.isFirst then 700 else 2)
  let (n, rest) := scaleDown (damped + damped / (w.count + 1))
  ⟨w.count + 1, base * n + base * rest / (rest + 38), false⟩

/-- The digits of a number, from the `n`-th on. -/
def digitsFrom (bias n v : Nat) : List Char :=
  let t := threshold n bias
  if v < t then [digit v]
  else digit (t + (v - t) % (base - t)) :: digitsFrom bias (n + 1) ((v - t) / (base - t))
termination_by v
decreasing_by
  have : 1 ≤ threshold n bias := Nat.le_max_left ..
  have := Nat.div_le_self (v - threshold n bias) (base - threshold n bias)
  omega

/-- The digits of numbers. -/
def digits (w : Weights) : List Nat → List Char
  | [] => []
  | v :: vs => digitsFrom w.bias 0 v ++ digits (w.after v) vs

/-- Reads numbers; of the first one, the digits before the `n`-th have been read and amount to `v`, and
the `n`-th counts `weight`. -/
def readFrom (w : Weights) (n weight v : Nat) : List Char → Option (List Nat)
  | [] => if n = 0 then some [] else none
  | c :: cs => do
    let d ← digitValue? c
    let v := v + d * weight
    let t := threshold n w.bias
    if d < t then return v :: (← readFrom (w.after v) 0 1 0 cs)
    else readFrom w (n + 1) (weight * (base - t)) v cs

/-! ## Labels -/

/-- The Punycode of a label. -/
def encode (label : List Char) : List Char :=
  let ascii := label.filter (·.toNat < firstCodePoint)
  (if ascii.isEmpty then [] else ascii ++ ['-']) ++
    digits (.start ascii.length) (numbersFrom ascii.length firstCodePoint 0 (insertions label))

/-- The ASCII characters and the digits of a text: a hyphen stands between them, unless there are no
ASCII characters. -/
def parts? (cs : List Char) : Option (List Char × List Char) :=
  match cs.reverse.dropWhile (· != '-') with
  | [] => some ([], cs)
  | [_] => none
  | _ :: ascii => some (ascii.reverse, (cs.reverse.takeWhile (· != '-')).reverse)

/-- The label that Punycode stands for. -/
def decode? (cs : List Char) : Option (List Char) := do
  if cs.any (firstCodePoint ≤ ·.toNat) then none
  else
    let (ascii, digits) ← parts? cs
    insertFrom firstCodePoint 0 ascii (← readFrom (.start ascii.length) 0 1 0 digits)

end Geocoding.Url.Punycode
