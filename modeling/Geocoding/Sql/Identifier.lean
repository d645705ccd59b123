import Geocoding.Text.Quoted

/-!
# SQL identifiers

Names that need no quotes in a statement: one or two segments with a point between them, each a letter
or underscore followed by at most 62 letters, digits and underscores, all of them ASCII.
-/

namespace Geocoding.Sql

/-- Whether `c` may begin a segment. -/
def isSegmentStart (c : Char) : Bool := c.isAlpha || c == '_'

/-- Whether `c` may follow in a segment. -/
def isSegmentChar (c : Char) : Bool := c.isAlphanum || c == '_'

/-- Whether `cs` is one segment. -/
def isSegment : List Char → Bool
  | [] => false
  | c :: cs => isSegmentStart c && cs.all isSegmentChar && cs.length ≤ 62

/-- Whether `cs` is a name, with or without a schema before it. -/
def isIdentifier (cs : List Char) : Bool :=
  isSegment (cs.takeWhile (· ≠ '.')) &&
    match cs.dropWhile (· ≠ '.') with
    | [] => true
    | _ :: rest => isSegment rest

/-- A name that may stand in a statement. -/
structure Identifier where
  text : String
  valid : isIdentifier text.toList = true
  deriving DecidableEq, Repr

/-- A name that is refused. -/
structure InvalidIdentifier where
  name : String
  deriving DecidableEq, Repr

/-- The refusal in words. -/
def InvalidIdentifier.message (e : InvalidIdentifier) : String :=
  "Invalid SQL identifier: " ++ Text.quoted e.name

/-- Checks a name. -/
def Identifier.ofString (name : String) : Except InvalidIdentifier Identifier :=
  if h : isIdentifier name.toList = true then .ok ⟨name, h⟩ else .error ⟨name⟩

theorem Identifier.ofString_text (i : Identifier) : Identifier.ofString i.text = .ok i := by
  simp [Identifier.ofString, i.valid]

end Geocoding.Sql
