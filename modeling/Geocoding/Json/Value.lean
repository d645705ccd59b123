import Geocoding.Json.Number

/-!
# JSON values

A value keeps the members of an object in the order of the text, repeated names included. What the
grammar allows but nothing can hold (a number beyond the binary64 range, a text with half of a
surrogate pair) is an `unreadable` value: it may be skipped, but not read.
-/

namespace Geocoding.Json

/-- A JSON value. -/
inductive Value where
  | null
  | bool (b : Bool)
  | number (n : Number)
  | text (s : String)
  | list (items : List Value)
  | object (members : List (String × Value))
  | unreadable

namespace Value

/-- The number of brackets around the innermost value. -/
def depth : Value → Nat
  | .list items => depthOfItems items + 1
  | .object members => depthOfMembers members + 1
  | _ => 0
where
  depthOfItems : List Value → Nat
    | [] => 0
    | v :: vs => max v.depth (depthOfItems vs)
  depthOfMembers : List (String × Value) → Nat
    | [] => 0
    | (_, v) :: ms => max v.depth (depthOfMembers ms)

/-- Whether no part of a value is unreadable. -/
def isReadable : Value → Bool
  | .list items => allItems items
  | .object members => allMembers members
  | .unreadable => false
  | _ => true
where
  allItems : List Value → Bool
    | [] => true
    | v :: vs => v.isReadable && allItems vs
  allMembers : List (String × Value) → Bool
    | [] => true
    | (_, v) :: ms => v.isReadable && allMembers ms

/-- The member that counts for a name: the last one. -/
def member? (name : String) : List (String × Value) → Option Value
  | [] => none
  | (n, v) :: ms => (member? name ms).or (if n = name then some v else none)

/-- A binary64 number as a value; what is not finite has none. -/
def ofFloat (x : Float) : Value := if x.isFinite then .number (.real x) else .null

/-- An absent text is null. -/
def ofText? : Option String → Value
  | some s => .text s
  | none => .null

end Value

end Geocoding.Json
