import Geocoding.Json.Value

/-!
# Writing JSON

The compact text of a value has no blanks; the laid-out text puts every item and member on a line of
its own, two spaces further in than its brackets. Only the quote, the backslash and the control
characters below the space are escaped.
-/

namespace Geocoding.Json

/-- A hexadecimal digit. -/
def hexDigit (n : Nat) : Char := (Nat.digitChar n)

/-- One character inside a text. -/
def escapedChar (c : Char) : List Char :=
  match c with
  | '"' => ['\\', '"']
  | '\\' => ['\\', '\\']
  | '\x08' => ['\\', 'b']
  | '\x0c' => ['\\', 'f']
  | '\n' => ['\\', 'n']
  | '\r' => ['\\', 'r']
  | '\t' => ['\\', 't']
  | c =>
    if c.toNat < 0x20 then ['\\', 'u', '0', '0', hexDigit (c.toNat / 16), hexDigit (c.toNat % 16)]
    else [c]

/-- A text between quotes. -/
def textOf (s : String) : List Char := '"' :: s.toList.flatMap escapedChar ++ ['"']

/-- A value without parts. -/
def scalarText : Value → List Char
  | .bool true => ['t', 'r', 'u', 'e']
  | .bool false => ['f', 'a', 'l', 's', 'e']
  | .number n => n.text
  | .text s => textOf s
  | _ => ['n', 'u', 'l', 'l']

namespace Value

/-- The text of a value without blanks. -/
def compact : Value → List Char
  | .list items => '[' :: compactItems items ++ [']']
  | .object members => '{' :: compactMembers members ++ ['}']
  | v => scalarText v
where
  compactItems : List Value → List Char
    | [] => []
    | [v] => v.compact
    | v :: vs => v.compact ++ ',' :: compactItems vs
  compactMembers : List (String × Value) → List Char
    | [] => []
    | [(n, v)] => textOf n ++ ':' :: v.compact
    | (n, v) :: ms => textOf n ++ ':' :: v.compact ++ ',' :: compactMembers ms

/-- A new line at a depth. -/
def lineAt (depth : Nat) : List Char := '\n' :: List.replicate (2 * depth) ' '

/-- The text of a value with a line for each part, inside `depth` brackets. -/
def laidOutAt (depth : Nat) : Value → List Char
  | .list [] => ['[', ']']
  | .object [] => ['{', '}']
  | .list items => '[' :: layItems (depth + 1) items ++ lineAt depth ++ [']']
  | .object members => '{' :: layMembers (depth + 1) members ++ lineAt depth ++ ['}']
  | v => scalarText v
where
  layItems (depth : Nat) : List Value → List Char
    | [] => []
    | [v] => lineAt depth ++ v.laidOutAt depth
    | v :: vs => lineAt depth ++ v.laidOutAt depth ++ ',' :: layItems depth vs
  layMembers (depth : Nat) : List (String × Value) → List Char
    | [] => []
    | [(n, v)] => lineAt depth ++ textOf n ++ ':' :: ' ' :: v.laidOutAt depth
    | (n, v) :: ms =>
      lineAt depth ++ textOf n ++ ':' :: ' ' :: v.laidOutAt depth ++ ',' :: layMembers depth ms

/-- The text of a value with a line for each part. -/
def laidOut (v : Value) : List Char := v.laidOutAt 0

end Value

end Geocoding.Json
