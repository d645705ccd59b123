import Geocoding.Json.Token

/-!
# Reading JSON

A value is read from its tokens by a machine that remembers the brackets still open. Every token moves
the machine on or is refused, so reading takes one pass and always ends.
-/

namespace Geocoding.Json

/-- An open bracket: a list with its items so far, or an object with its members so far and the name of
the one that is being read; all last first. -/
inductive Frame where
  | item (items : List Value)
  | member (members : List (Option String × Value)) (name : Option String)

/-- What may come next, inside the brackets still open. -/
inductive State where
  | value (around : List Frame)
  | firstItem (around : List Frame)
  | firstName (around : List Frame)
  | name (members : List (Option String × Value)) (around : List Frame)
  | colon (members : List (Option String × Value)) (name : Option String) (around : List Frame)
  | after (v : Value) (around : List Frame)

/-- An object from its members, last first. With a name that has no text it is unreadable. -/
def objectOf (members : List (Option String × Value)) : Value :=
  match members.reverse.mapM fun (n, v) => n.map (·, v) with
  | some ms => .object ms
  | none => .unreadable

/-- Reads the beginning of a value. -/
def State.begin? (around : List Frame) : Token → Option State
  | .openList => some (.firstItem around)
  | .openObject => some (.firstName around)
  | .null => some (.after .null around)
  | .bool b => some (.after (.bool b) around)
  | .number n => some (.after (n.elim .unreadable .number) around)
  | .text s => some (.after (s.elim .unreadable .text) around)
  | _ => none

/-- Reads one token. -/
def State.step? : State → Token → Option State
  | .value around, t => begin? around t
  | .firstItem around, .closeList => some (.after (.list []) around)
  | .firstItem around, t => begin? (.item [] :: around) t
  | .firstName around, .closeObject => some (.after (.object []) around)
  | .firstName around, .text n => some (.colon [] n around)
  | .name members around, .text n => some (.colon members n around)
  | .colon members n around, .colon => some (.value (.member members n :: around))
  | .after v (.item items :: around), .comma => some (.value (.item (v :: items) :: around))
  | .after v (.item items :: around), .closeList =>
    some (.after (.list (v :: items).reverse) around)
  | .after v (.member members n :: around), .comma => some (.name ((n, v) :: members) around)
  | .after v (.member members n :: around), .closeObject =>
    some (.after (objectOf ((n, v) :: members)) around)
  | _, _ => none

/-- Reads tokens one after the other. -/
def State.run? (s : State) (ts : List Token) : Option State := ts.foldlM step? s

/-- The value that a text spells, if it spells exactly one. -/
def read? (cs : List Char) : Option Value := do
  let ts ← scan cs
  match ← (State.value []).run? ts with
  | .after v [] => some v
  | _ => none

end Geocoding.Json
