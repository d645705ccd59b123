import Geocoding.Address
import Geocoding.Text.Blank

/-!
# Address templates

A template has a line for each line of an address on an envelope, with the names of the parts between
braces. A line is filled in, its blanks are squeezed, and the lines that are left are joined with
commas.
-/

namespace Geocoding

/-- Replaces every occurrence of `key` by `value`, from the left; `skip` characters belong to an
occurrence already replaced. -/
def replaceFrom (key value : List Char) : Nat → List Char → List Char
  | _, [] => []
  | skip + 1, _ :: cs => replaceFrom key value skip cs
  | 0, c :: cs =>
    if key.isPrefixOf (c :: cs) then value ++ replaceFrom key value (key.length - 1) cs
    else c :: replaceFrom key value 0 cs

/-- Replaces every occurrence of `key`, which is not empty. -/
def replaceAll (key value cs : List Char) : List Char := replaceFrom key value 0 cs

/-- A line without the carriage return that may end it. -/
def dropReturn (line : List Char) : List Char :=
  if line.getLast? = some '\r' then line.dropLast else line

/-- The lines of a text. A line break at the very end begins no further line, and only a carriage return
before a line break belongs to the break. -/
def linesOf (cs : List Char) : List (List Char) :=
  let lines := cs.splitOnP (· == '\n')
  let last := lines.getLast?.getD []
  lines.dropLast.map dropReturn ++ if last.isEmpty then [] else [last]

/-- A template. -/
structure Template where
  text : String
  deriving DecidableEq, Repr

namespace Template

/-- The template when none is chosen. -/
def standard : Template :=
  ⟨"\x7bhouse\x7d\n\x7broad\x7d \x7bhouse_number\x7d\n\x7bpostcode\x7d \x7bcity\x7d"⟩

/-- The names of the parts with their values, in the order in which they are filled in. -/
def parts (a : BuildingAddress) : List (List Char × List Char) :=
  [("house", a.house), ("road", a.road), ("house_number", a.houseNumber),
    ("postcode", a.postcode), ("city", a.city)].map
    fun (name, value) => ('\x7b' :: name.toList ++ ['\x7d'], (value.getD "").toList)

/-- Fills in one part after the other. -/
def fill (a : BuildingAddress) (line : List Char) : List Char :=
  (parts a).foldl (fun line (key, value) => replaceAll key value line) line

/-- The filled lines that are not blank. -/
def pieces (t : Template) (a : BuildingAddress) : List (List Char) :=
  ((linesOf t.text.toList).map fun line => Text.squeeze (fill a line)).filter (!·.isEmpty)

/-- The address on one line. -/
def format (t : Template) (a : BuildingAddress) : String :=
  .ofList ([',', ' '].intercalate (t.pieces a))

end Template

end Geocoding
