import Geocoding.Proofs.Search.Vocabulary

/-!
# The pieces of a ring

The point of a ring stands in two places of the statement, with the same two slots.
-/

namespace Geocoding.Ring

open Sql Search

def point : List Piece := Draft.pointExpression (.slot 1) (.slot 2) webMercator

def source (t : Tables) : List Piece :=
  [.words ") AS distance", .words " FROM ", .name t.buildings, .words " b"] ++ joinPostcode t ++ joinAdmin t

def bounds : List Piece :=
  [.words ", ", .slot 3, .words ")"] ++ [.words " ORDER BY distance ASC LIMIT ", .slot 4]

def pieces (t : Tables) : List Piece :=
  .words addressColumns :: .words "ST_Distance(b.geometry, " :: (point ++ (source t ++
    .words " WHERE ST_DWithin(b.geometry, " :: (point ++ bounds)))

def params (centre : ProjectedPoint) (radius : Float) (limit : UInt32) : List Value :=
  [.real64 centre.x, .real64 centre.y, .real64 radius, .int64 (Int64.ofNat limit.toNat)]

theorem build_statement (t : Tables) (centre : ProjectedPoint) (radius : Float) (limit : UInt32) :
    (build t centre radius limit).statement = ⟨textOf (pieces t), params centre radius limit⟩ := rfl

variable (t : Tables)

theorem known_pieces : ∀ p ∈ pieces t, Known p := by
  simp [pieces, point, bounds, source, joinPostcode, joinAdmin, Draft.pointExpression, Known, vocabulary]

theorem slots_pieces : slots (pieces t) = [1, 2, 1, 2, 3, 4] := rfl

theorem delimited_pieces : Delimited (pieces t) := by
  have hcomma := endsWord_words (w := ", ") rfl
  have hsystem := endsWord_words (w := "), " ++ Text.signedNumeral webMercator ++ ")") rfl
  have hbracket := endsWord_words (w := ")") rfl
  have hnil : EndsWord (textOf []).toList := by simp [EndsWord, textOf]
  simp [pieces, point, bounds, source, joinPostcode, joinAdmin, Draft.pointExpression, Delimited, hcomma,
    hsystem, hbracket, hnil]

end Geocoding.Ring
