import Geocoding.Json.Token

/-!
# IPv6 addresses

Eight pieces of 16 bits. Two colons stand for one or more pieces that are zero, and the last two pieces
may be written as an IPv4 address. In the text of an address the longest run of zeros, at least two, is
left out.
-/

namespace Geocoding.Url

/-- A piece in hexadecimal digits. -/
def piece? (cs : List Char) : Option Nat :=
  if cs.isEmpty || cs.length > 4 then none
  else cs.foldlM (fun n c => (Json.hexValue? c).map (n * 16 + ·)) 0

/-- One number of an embedded IPv4 address, without zeros in front. -/
def quarter? (cs : List Char) : Option Nat :=
  let n := Nat.ofDigitChars 10 cs 0
  if cs.isEmpty || !cs.all Char.isDigit || n > 255 || (cs.length > 1 && cs.head? == some '0') then none
  else some n

/-- The two pieces of an embedded IPv4 address. -/
def embedded? (cs : List Char) : Option (List Nat) := do
  match ← (cs.splitOnP (· == '.')).mapM quarter? with
  | [a, b, c, d] => some [a * 256 + b, c * 256 + d]
  | _ => none

/-- The pieces between single colons; `atEnd` tells whether the last may be an IPv4 address. -/
def piecesOf? (atEnd : Bool) : List (List Char) → Option (List Nat)
  | [] => some []
  | [cs] => if atEnd && cs.contains '.' then embedded? cs else (piece? cs).map ([·])
  | cs :: rest => do
    let n ← piece? cs
    let ns ← piecesOf? atEnd rest
    return n :: ns

/-- The pieces of a text; the empty text has none. -/
def pieces? (atEnd : Bool) (cs : List Char) : Option (List Nat) :=
  if cs.isEmpty then some [] else piecesOf? atEnd (cs.splitOnP (· == ':'))

/-- The texts before and after the first two colons, if there are such. -/
def splitGap : List Char → Option (List Char × List Char)
  | ':' :: ':' :: cs => some ([], cs)
  | c :: cs => (splitGap cs).map fun (before, after) => (c :: before, after)
  | [] => none

/-- The address that a text spells. -/
def ipv6? (cs : List Char) : Option (List Nat) :=
  match splitGap cs with
  | none => do
    let ns ← pieces? true cs
    if ns.length = 8 then some ns else none
  | some (before, after) => do
    let front ← pieces? false before
    let back ← pieces? true after
    if front.length + back.length ≤ 7 then
      some (front ++ List.replicate (8 - (front.length + back.length)) 0 ++ back)
    else none

/-- The length of the run of zeros at the beginning. -/
def zeros (ns : List Nat) : Nat := (ns.takeWhile (· == 0)).length

/-- The length of the longest run of zeros. -/
def longestZeros : List Nat → Nat
  | [] => 0
  | n :: ns => max (zeros (n :: ns)) (longestZeros ns)

/-- Pieces with colons between them. -/
def joinPieces (ns : List Nat) : List Char := [':'].intercalate (ns.map (Nat.toDigits 16))

/-- The text after the pieces in `front`; the first run of `gap` zeros is left out. -/
def ipv6TextFrom (gap : Nat) (front : List Nat) : List Nat → List Char
  | [] => joinPieces front
  | n :: ns =>
    if zeros (n :: ns) = gap then joinPieces front ++ ':' :: ':' :: joinPieces ((n :: ns).drop gap)
    else ipv6TextFrom gap (front ++ [n]) ns

/-- The text of an address. -/
def ipv6Text (ns : List Nat) : List Char :=
  let gap := longestZeros ns
  if gap < 2 then joinPieces ns else ipv6TextFrom gap [] ns

end Geocoding.Url
