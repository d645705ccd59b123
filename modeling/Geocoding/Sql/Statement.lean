import Geocoding.Sql.Identifier
import Geocoding.Sql.Value
import Geocoding.Text.Numeral

/-!
# SQL statements

A statement is assembled from fixed words, checked names and slots for values. Values are only ever
appended to the list of parameters; in the text stands `$1` for the first one, `$2` for the second, and
so on, however often each is named.
-/

namespace Geocoding.Sql

/-- A piece of a statement's text. -/
inductive Piece where
  | words (s : String)
  | name (i : Identifier)
  | slot (n : Nat)
  deriving DecidableEq, Repr

/-- The text of the `n`-th slot. -/
def slotText (n : Nat) : String := "$" ++ Text.numeral n

/-- The text of a piece. -/
def Piece.text : Piece → String
  | words s => s
  | name i => i.text
  | slot n => slotText n

/-- The text of pieces, one after the other. -/
def textOf (ps : List Piece) : String := String.join (ps.map Piece.text)

/-- A finished statement. -/
structure Statement where
  text : String
  params : List Value

/-- A statement being assembled. -/
structure Draft where
  pieces : List Piece
  params : List Value

namespace Draft

/-- The draft that nothing has been written to. -/
def empty : Draft := ⟨[], []⟩

/-- Appends pieces to the text. -/
def push (d : Draft) (ps : List Piece) : Draft := { d with pieces := d.pieces ++ ps }

/-- Appends a parameter and gives its slot; the text stays as it is. -/
def bind (d : Draft) (v : Value) : Piece × Draft :=
  (.slot (d.params.length + 1), { d with params := d.params ++ [v] })

/-- Appends a parameter and its slot. -/
def pushBind (d : Draft) (v : Value) : Draft :=
  let (slot, d) := d.bind v
  d.push [slot]

/-- The expression of a point whose coordinates are in two slots. -/
def pointExpression (x y : Piece) (system : Int) : List Piece :=
  [.words "ST_SetSRID(ST_MakePoint(", x, .words ", ", y, .words ("), " ++ Text.signedNumeral system ++ ")")]

/-- Appends the coordinates of a point to the parameters and gives the point's expression. -/
def bindPoint (d : Draft) (x y : Float) (system : Int) : List Piece × Draft :=
  let (x, d) := d.bind (.real64 x)
  let (y, d) := d.bind (.real64 y)
  (pointExpression x y system, d)

/-- The statement that has been assembled. -/
def finish (d : Draft) : Statement := ⟨textOf d.pieces, d.params⟩

end Draft

/-- One step of assembling a statement. -/
inductive Step where
  | push (words : String)
  | pushName (i : Identifier)
  | bind (v : Value)
  | pushBind (v : Value)
  | bindPoint (x y : Float) (system : Int)

/-- Performs a step; the first component is the text to be used later, if the step gives one. -/
def Draft.perform (d : Draft) : Step → Option String × Draft
  | .push words => (none, d.push [.words words])
  | .pushName i => (none, d.push [.name i])
  | .bind v => let (slot, d) := d.bind v; (some slot.text, d)
  | .pushBind v => (none, d.pushBind v)
  | .bindPoint x y system => let (ps, d) := d.bindPoint x y system; (some (textOf ps), d)

end Geocoding.Sql
