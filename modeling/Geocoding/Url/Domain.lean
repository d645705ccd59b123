import Geocoding.Text.NormalForm
import Geocoding.Url.Domain.Direction
import Geocoding.Url.Domain.Joining
import Geocoding.Url.Domain.Mapping
import Geocoding.Url.Punycode

/-!
# Domains

A domain in the form that the domain name system knows: in small letters, and labels with other than ASCII
characters in Punycode behind a mark. Such labels may also be written in that way already; then they must
stand for a label that is in normal form.
-/

namespace Geocoding.Url.Domain

/-- Whether `c` may not stand in a domain. -/
def isForbidden (c : Char) : Bool :=
  c.toNat ≤ 0x20 || c.toNat == 0x7F ||
    ['#', '%', '/', ':', '<', '>', '?', '@', '[', '\\', ']', '^', '|'].contains c

/-- Whether `c` is an ASCII character. -/
def isAscii (c : Char) : Bool := c.toNat < 0x80

/-- What a text in a domain becomes. -/
def mapped? (cs : List Char) : Option (List Char) :=
  (cs.mapM Url.mapped?).map fun parts => Text.normalForm parts.flatten

/-- The mark of labels in Punycode. -/
def mark : List Char := ['x', 'n', '-', '-']

/-- Whether a label may stand in a domain, apart from its direction. -/
def isLabel (cs : List Char) : Bool :=
  !cs.head?.any Text.isMark && joinersMatter [] cs && !mark.isPrefixOf cs

/-- A label in its two forms. -/
structure Label where
  /-- What it stands for. -/
  text : List Char
  /-- How the domain name system knows it. -/
  ascii : List Char
  deriving DecidableEq, Repr

namespace Label

/-- Reads a label that is written in Punycode. -/
def ofPunycode? (cs : List Char) : Option Label := do
  let encoded := cs.drop mark.length
  if Punycode.longestEncoded < encoded.length then none
  else
    let text ← Punycode.decode? encoded
    if text.all isAscii || mapped? text != some text || !isLabel text then none
    else some ⟨text, cs⟩

/-- Reads a label that has been mapped. -/
def ofMapped? (cs : List Char) : Option Label :=
  if mark.isPrefixOf cs then ofPunycode? cs
  else if cs.all isAscii then some ⟨cs, cs⟩
  else if !isLabel cs || Punycode.longestDecoded < cs.length then none
  else some ⟨cs, mark ++ Punycode.encode cs⟩

end Label

/-- Whether the labels of a domain run in order. -/
def areOrdered (labels : List Label) : Bool :=
  !labels.any (·.text.any runsBothWays) || labels.all (isOrdered ·.text)

/-- The ASCII form of a domain. -/
def toAscii? (cs : List Char) : Option (List Char) := do
  let labels ← ((← mapped? cs).splitOnP (· == '.')).mapM Label.ofMapped?
  let ascii := ['.'].intercalate (labels.map (·.ascii))
  if areOrdered labels && !ascii.any isForbidden then some ascii else none

end Geocoding.Url.Domain
