import Geocoding.Text.Decomposition
import Geocoding.Text.Marks

/-!
# The normal form of texts

Texts that are canonically equivalent have one normal form: everything is decomposed, the marks of a
letter are sorted by their classes, and what can be composed is composed again (Unicode's form C).
-/

namespace Geocoding.Text

/-- Puts a character before sorted ones: a mark goes behind those of smaller classes. -/
def insertMark (c : Char) : List Char → List Char
  | [] => [c]
  | d :: ds =>
    if combiningClass d ≠ 0 ∧ combiningClass d < combiningClass c then d :: insertMark c ds
    else c :: d :: ds

/-- Sorts the marks of every letter by their classes; marks of one class stay in order. -/
def sortMarks (cs : List Char) : List Char := cs.foldr insertMark []

/-- Whether what stands between a letter and `c` (last character first) keeps them apart. -/
def isBlocked (between : List Char) (c : Char) : Bool :=
  match between with
  | [] => false
  | b :: _ => combiningClass c ≤ combiningClass b

/-- Composes the letter `a` with the characters after it; `between` are those that have been passed
since, last first. -/
def composeFrom (a : Char) (between : List Char) : List Char → List Char
  | [] => a :: between.reverse
  | c :: cs =>
    match if isBlocked between c then none else composition? a c with
    | some k => composeFrom k between cs
    | none =>
      if combiningClass c = 0 then a :: between.reverse ++ composeFrom c [] cs
      else composeFrom a (c :: between) cs

/-- Composes every letter with the marks after it. -/
def compose (cs : List Char) : List Char :=
  cs.takeWhile (combiningClass · ≠ 0) ++
    match cs.dropWhile (combiningClass · ≠ 0) with
    | [] => []
    | c :: cs => composeFrom c [] cs

/-- The normal form of a text. -/
def normalForm (cs : List Char) : List Char := compose (sortMarks (cs.flatMap decomposition))

end Geocoding.Text
