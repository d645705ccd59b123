/-!
# Tables of code points

Tables as text: entries with semicolons between them, numbers in hexadecimal digits.
-/

namespace Geocoding.Text

/-- The value of hexadecimal digits. -/
def hexadecimal (cs : List Char) : Nat :=
  cs.foldl (fun n c => 16 * n + (if c.isDigit then c.toNat - '0'.toNat else c.toNat - 'A'.toNat + 10)) 0

/-- The characters whose code points are written with blanks between them. -/
def codePoints (cs : List Char) : List Char :=
  ((cs.splitOnP (· == ' ')).filter (!·.isEmpty)).map fun ds => .ofNat (hexadecimal ds)

/-- The entries in the lines of a table. -/
def entries (lines : List String) : List (List Char) :=
  lines.flatMap fun line => line.toList.splitOnP (· == ';')

/-- The two sides of an entry. -/
def sides (entry : List Char) : List Char × List Char :=
  (entry.takeWhile (· != '='), (entry.dropWhile (· != '=')).drop 1)

end Geocoding.Text
