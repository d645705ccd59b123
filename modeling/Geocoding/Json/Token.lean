import Geocoding.Json.Value

/-!
# JSON tokens

The tokens of a JSON text: brackets, commas, colons and scalars. Blanks separate tokens and are
dropped. A text token that holds half of a surrogate pair and a number token beyond the binary64 range
carry no value.
-/

namespace Geocoding.Json

/-- A token. -/
inductive Token where
  | openList
  | closeList
  | openObject
  | closeObject
  | comma
  | colon
  | null
  | bool (b : Bool)
  | number (n : Option Number)
  | text (s : Option String)

/-- A character of a text, or a 16-bit unit spelled by its number. -/
inductive TextUnit where
  | char (c : Char)
  | code (n : Nat)
  deriving DecidableEq

/-- Joins the pairs of units that stand for one character; half a pair has no character. -/
def assemble : List TextUnit → Option (List Char)
  | [] => some []
  | .char c :: us => (assemble us).map (c :: ·)
  | .code n :: us =>
    if 0xD800 ≤ n && n < 0xDC00 then
      match us with
      | .code m :: us =>
        if 0xDC00 ≤ m && m < 0xE000 then
          (assemble us).map (Char.ofNat (0x10000 + (n - 0xD800) * 0x400 + (m - 0xDC00)) :: ·)
        else none
      | _ => none
    else if 0xDC00 ≤ n && n < 0xE000 then none
    else (assemble us).map (Char.ofNat n :: ·)

/-- The character a short escape stands for. -/
def shortEscape? : Char → Option Char
  | '"' => some '"'
  | '\\' => some '\\'
  | '/' => some '/'
  | 'b' => some '\x08'
  | 'f' => some '\x0c'
  | 'n' => some '\n'
  | 'r' => some '\r'
  | 't' => some '\t'
  | _ => none

/-- The value of a hexadecimal digit. -/
def hexValue? (c : Char) : Option Nat :=
  if c.isDigit then some (c.toNat - '0'.toNat)
  else if 'a' ≤ c && c ≤ 'f' then some (c.toNat - 'a'.toNat + 10)
  else if 'A' ≤ c && c ≤ 'F' then some (c.toNat - 'A'.toNat + 10)
  else none

/-- What a scanner is in the middle of; what it has read of it stands last character first. -/
inductive Mode where
  | between
  | word (read : List Char)
  | number (read : List Char)
  | text (read : List TextUnit)
  | escape (read : List TextUnit)
  | hex (read : List TextUnit) (value : Nat) (missing : Nat)

/-- The token a word stands for. -/
def wordToken? (read : List Char) : Option Token :=
  match read.reverse with
  | ['n', 'u', 'l', 'l'] => some .null
  | ['t', 'r', 'u', 'e'] => some (.bool true)
  | ['f', 'a', 'l', 's', 'e'] => some (.bool false)
  | _ => none

/-- The token that a mode ends with when the text ends, or when a character follows that is no part of
it. -/
def Mode.finish? : Mode → Option (List Token)
  | .between => some []
  | .word read => (wordToken? read).map ([·])
  | .number read => (Number.ofChars? read.reverse).map fun n => [.number n]
  | _ => none

/-- The token or mode that a character begins between two tokens. -/
def start? (c : Char) : Option (List Token × Mode) :=
  match c with
  | ' ' | '\t' | '\n' | '\r' => some ([], .between)
  | '[' => some ([.openList], .between)
  | ']' => some ([.closeList], .between)
  | '{' => some ([.openObject], .between)
  | '}' => some ([.closeObject], .between)
  | ',' => some ([.comma], .between)
  | ':' => some ([.colon], .between)
  | '"' => some ([], .text [])
  | c =>
    if c.isAlpha then some ([], .word [c])
    else if c.isDigit || c == '-' then some ([], .number [c])
    else none

/-- One step of the scanner: the tokens that `c` completes, and the mode it leaves. -/
def Mode.step? (m : Mode) (c : Char) : Option (List Token × Mode) :=
  match m with
  | .between => start? c
  | .word read =>
    if c.isAlpha then some ([], .word (c :: read))
    else do
      let done ← m.finish?
      let (ts, next) ← start? c
      return (done ++ ts, next)
  | .number read =>
    if c.isAlphanum || c == '+' || c == '-' || c == '.' then some ([], .number (c :: read))
    else do
      let done ← m.finish?
      let (ts, next) ← start? c
      return (done ++ ts, next)
  | .text read =>
    if c == '"' then some ([.text ((assemble read.reverse).map String.ofList)], .between)
    else if c == '\\' then some ([], .escape read)
    else if c.toNat < 0x20 then none
    else some ([], .text (.char c :: read))
  | .escape read =>
    if c == 'u' then some ([], .hex read 0 4)
    else (shortEscape? c).map fun e => ([], .text (.char e :: read))
  | .hex read value missing => do
    let d ← hexValue? c
    if missing ≤ 1 then return ([], .text (.code (value * 16 + d) :: read))
    else return ([], .hex read (value * 16 + d) (missing - 1))

/-- The tokens of `cs` after a mode. -/
def scanFrom (m : Mode) : List Char → Option (List Token)
  | [] => m.finish?
  | c :: cs => do
    let (ts, next) ← m.step? c
    let rest ← scanFrom next cs
    return ts ++ rest

/-- The tokens of a text. -/
def scan (cs : List Char) : Option (List Token) := scanFrom .between cs

end Geocoding.Json
