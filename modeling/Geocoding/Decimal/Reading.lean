/-!
# Reading decimals

A decimal literal is an optional sign, digits with an optional point among them, and an optional power
of ten. Its value is rounded to the nearest binary64 number; the names of infinity and of the value
that is not a number are read too, in any case.
-/

namespace Geocoding.Decimal

/-- The decimal `± whole.fraction * 10 ^ exponent`. -/
structure Literal where
  negative : Bool
  whole : List Char
  fraction : List Char
  exponent : Int
  deriving DecidableEq, Repr

/-- Why a text is not a number. -/
inductive ReadError where
  | empty
  | invalid
  deriving DecidableEq, Repr

/-- The error in words. -/
def ReadError.message : ReadError → String
  | .empty => "cannot parse float from empty string"
  | .invalid => "invalid float literal"

/-- The value of a run of digits. -/
def digitsValue (ds : List Char) : Nat := Nat.ofDigitChars 10 ds 0

/-- Splits off a leading sign; the first component tells whether it is a minus. -/
def splitSign : List Char → Bool × List Char
  | '-' :: cs => (true, cs)
  | '+' :: cs => (false, cs)
  | cs => (false, cs)

/-- The power of ten that ends a literal. -/
def exponentOf? : List Char → Option Int
  | [] => some 0
  | c :: cs =>
    if c == 'e' || c == 'E' then
      let (negative, ds) := splitSign cs
      if ds.isEmpty || !ds.all Char.isDigit then none
      else some (if negative then -(digitsValue ds : Int) else digitsValue ds)
    else none

/-- The literal that `cs` spells. -/
def Literal.ofChars? (cs : List Char) : Option Literal :=
  let (negative, cs) := splitSign cs
  let whole := cs.takeWhile Char.isDigit
  let rest := cs.dropWhile Char.isDigit
  let (fraction, rest) := match rest with
    | '.' :: rest => (rest.takeWhile Char.isDigit, rest.dropWhile Char.isDigit)
    | rest => ([], rest)
  if whole.isEmpty && fraction.isEmpty then none
  else (exponentOf? rest).map fun exponent => { negative, whole, fraction, exponent }

/-- The binary64 number with positive sign nearest to `digits * 10 ^ exponent`. Decimals far outside the
range are decided by their magnitude alone. -/
def nearest (digits : Nat) (exponent : Int) : Float :=
  let magnitude := (Nat.toDigits 10 digits).length + exponent
  if digits = 0 ∨ magnitude < -400 then 0.0
  else if 400 < magnitude then Float.ofBits 0x7FF0000000000000
  else match exponent with
    | .ofNat e => Float.ofScientific digits false e
    | .negSucc e => Float.ofScientific digits true (e + 1)

/-- The binary64 number nearest to the literal. -/
def Literal.toFloat (l : Literal) : Float :=
  let x := nearest (digitsValue (l.whole ++ l.fraction)) (l.exponent - l.fraction.length)
  if l.negative then -x else x

/-- The value that is not a number. -/
def notANumber : Float := Float.ofBits 0x7FF8000000000000

/-- Positive infinity. -/
def infinity : Float := Float.ofBits 0x7FF0000000000000

/-- The number a name stands for, in lower case. -/
def named? : List Char → Option Float
  | ['i', 'n', 'f'] => some infinity
  | ['i', 'n', 'f', 'i', 'n', 'i', 't', 'y'] => some infinity
  | ['n', 'a', 'n'] => some notANumber
  | _ => none

/-- Reads a number. -/
def read (s : String) : Except ReadError Float :=
  match s.toList with
  | [] => .error .empty
  | cs =>
    match Literal.ofChars? cs with
    | some l => .ok l.toFloat
    | none =>
      let (negative, name) := splitSign cs
      match named? (name.map Char.toLower) with
      | some x => .ok (if negative then -x else x)
      | none => .error .invalid

end Geocoding.Decimal
