import Geocoding.Json.Value

/-!
# Records

A record is an object with members of fixed names, or a list of its parts in the order of the names.
Members of other names are skipped, whatever they hold; no name may occur twice.
-/

namespace Geocoding.Json

/-- The types whose values are written as JSON. -/
class Record (α : Type) where
  toJson : α → Value
  ofJson? : Value → Option α

export Record (toJson ofJson?)

/-- Which lists stand for a record. -/
inductive Lists where
  /-- Those with exactly one item for each part. -/
  | complete
  /-- Those that may stop early. -/
  | shortened
  deriving DecidableEq

/-- The members of one name. -/
def named (name : String) (ms : List (String × Value)) : List Value :=
  ms.filterMap fun (n, v) => if n = name then some v else none

/-- The member of a name that may occur once; the inner option tells whether it does. -/
def memberOnce? (ms : List (String × Value)) (name : String) : Option (Option Value) :=
  match named name ms with
  | [] => some none
  | [v] => some (some v)
  | _ => none

/-- The parts of a record in the order of `names`; an absent part is `none`. -/
def parts? (names : List String) (lists : Lists) : Value → Option (List (Option Value))
  | .object ms => names.mapM (memberOnce? ms)
  | .list vs =>
    if vs.length = names.length ∨ (vs.length < names.length ∧ lists = .shortened) then
      some (vs.map some ++ List.replicate (names.length - vs.length) none)
    else none
  | _ => none

/-- A part that must be there. -/
def required? {α : Type} [Record α] : Option Value → Option α
  | some v => ofJson? v
  | none => none

/-- A part that may be absent or null. -/
def optional? {α : Type} [Record α] : Option Value → Option (Option α)
  | none | some .null => some none
  | some v => (ofJson? v).map some

/-- The value of a part that may be absent. -/
def ofOption {α : Type} [Record α] : Option α → Value
  | some a => toJson a
  | none => .null

instance : Record String where
  toJson := .text
  ofJson?
    | .text s => some s
    | _ => none

instance : Record Float where
  toJson := Value.ofFloat
  ofJson?
    | .number n => some n.toFloat
    | _ => none

end Geocoding.Json
