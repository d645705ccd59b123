import Geocoding.Json.Token

/-!
# Percent encoding

Characters that may not stand for themselves in a part of a URL are written as the bytes of their UTF-8
form, each as a percent sign with two hexadecimal digits. Which characters these are depends on the
part; control characters and characters beyond ASCII always are.
-/

namespace Geocoding.Url

/-- Whether `c` is encoded in every part. -/
def isControl (c : Char) : Bool := c.toNat < 0x20 || 0x7E < c.toNat

/-- Whether `c` is encoded in a fragment. -/
def inFragment (c : Char) : Bool := isControl c || c == ' ' || c == '"' || c == '<' || c == '>' || c == '`'

/-- Whether `c` is encoded in a path. -/
def inPath (c : Char) : Bool :=
  inFragment c || c == '#' || c == '?' || c == '\x7b' || c == '\x7d'

/-- Whether `c` is encoded in a user name or password. -/
def inUserinfo (c : Char) : Bool :=
  inPath c || ['/', ':', ';', '=', '@', '[', '\\', ']', '^', '|'].contains c

/-- Whether `c` is encoded in a query. -/
def inQuery (c : Char) : Bool :=
  isControl c || c == ' ' || c == '"' || c == '#' || c == '<' || c == '>'

/-- Whether `c` is encoded in the query of a scheme with a default port. -/
def inSpecialQuery (c : Char) : Bool := inQuery c || c == '\''

/-- A hexadecimal digit in upper case. -/
def hexDigit (n : Nat) : Char := (Nat.digitChar n).toUpper

/-- A byte with its percent sign. -/
def encodedByte (b : UInt8) : List Char := ['%', hexDigit (b.toNat / 16), hexDigit (b.toNat % 16)]

/-- One character, encoded if it has to be. -/
def encodedChar (isEncoded : Char → Bool) (c : Char) : List Char :=
  if isEncoded c then (String.utf8EncodeChar c).flatMap encodedByte else [c]

/-- A text in which the characters that have to be are encoded. -/
def encoded (isEncoded : Char → Bool) (cs : List Char) : List Char :=
  cs.flatMap (encodedChar isEncoded)

/-- The bytes that a text spells. A percent sign without two digits stands for itself. -/
def decodedBytes : List Char → List UInt8
  | [] => []
  | '%' :: a :: b :: cs =>
    match Json.hexValue? a, Json.hexValue? b with
    | some x, some y => UInt8.ofNat (x * 16 + y) :: decodedBytes cs
    | _, _ => '%'.toUInt8 :: decodedBytes (a :: b :: cs)
  | c :: cs => String.utf8EncodeChar c ++ decodedBytes cs

/-- The text that a text spells, if its bytes are one. -/
def decoded? (cs : List Char) : Option (List Char) :=
  (String.fromUTF8? ⟨(decodedBytes cs).toArray⟩).map String.toList

end Geocoding.Url
