/-!
# Database values

The values that statements are given and that columns hold. Some kinds keep an absent value apart from
the null of no kind.
-/

namespace Geocoding.Sql

/-- A value. -/
inductive Value where
  | null
  | text (s : String)
  | optionalText (s : Option String)
  | bool (b : Bool)
  | int32 (n : Int32)
  | int64 (n : Int64)
  | optionalInt64 (n : Option Int64)
  | uint64 (n : UInt64)
  | real64 (x : Float)
  | optionalReal64 (x : Option Float)
  | real32 (x : Float32)

/-- The text of a column; only a plain text has one. -/
def Value.text? : Value → Option String
  | .text s => some s
  | _ => none

/-- The number in a column; only the two kinds of real number are read. -/
def Value.real? : Value → Option Float
  | .real64 x => some x
  | .real32 x => some x.toFloat
  | _ => none

end Geocoding.Sql
