import Geocoding.Decimal.Power

/-!
# TOML values

Values as settings use them. Dates and times are recognised but carry nothing, because no setting is
one.
-/

namespace Geocoding.Toml

/-- A TOML value; no name occurs twice in a table. -/
inductive Value where
  | text (s : String)
  | integer (n : Int)
  | real (x : Float)
  | bool (b : Bool)
  | dateTime
  | list (items : List Value)
  | table (members : List (String × Value))

namespace Value

/-- The member of a name. -/
def member? (name : String) : List (String × Value) → Option Value
  | [] => none
  | (n, v) :: ms => if n = name then some v else member? name ms

/-- The parts of a record in the order of `names`: the members of a table, or the first items of a list.
A date is a record that has none of its parts. -/
def parts? (names : List String) : Value → Option (List (Option Value))
  | .table ms => some (names.map (member? · ms))
  | .list vs => some ((List.range names.length).map (vs[·]?))
  | .dateTime => some (names.map fun _ => none)
  | _ => none

/-- A text. -/
def text? : Value → Option String
  | .text s => some s
  | _ => none

/-- A whole number below a bound. -/
def natural? (bound : Nat) : Value → Option Nat
  | .integer (.ofNat n) => if n < bound then some n else none
  | _ => none

/-- A number; a whole number must fit in 64 bits. -/
def real? : Value → Option Float
  | .real x => some x
  | .integer (.ofNat n) => if n < twoTo 64 then some n.toUInt64.toFloat else none
  | .integer (.negSucc n) => if n < twoTo 63 then some (-(n + 1).toUInt64.toFloat) else none
  | _ => none

/-- A list of numbers. -/
def reals? : Value → Option (List Float)
  | .list vs => vs.mapM real?
  | _ => none

/-- A table of texts. A date counts as one without members. -/
def texts? : Value → Option (List (String × String))
  | .table ms => ms.mapM fun (n, v) => v.text?.map (n, ·)
  | .dateTime => some []
  | _ => none

end Value

/-- A part that must be there. -/
def required? {α : Type} (read : Value → Option α) (part : Option Value) : Option α :=
  part.bind read

/-- A part that may be missing. -/
def optional? {α : Type} (read : Value → Option α) : Option Value → Option (Option α)
  | none => some none
  | some v => (read v).map some

/-- A part with a value that stands in for it. -/
def withDefault? {α : Type} (default : α) (read : Value → Option α) : Option Value → Option α
  | none => some default
  | some v => read v

end Geocoding.Toml
