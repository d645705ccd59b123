import Geocoding.Proofs.Sql.Reading
import Mathlib.Data.List.Nodup

/-!
# Assembling a statement

A statement is assembled in steps, some of which bind values. Whatever the steps are, the values are numbered in the
order in which they are bound, and each value keeps its number.
-/

namespace Geocoding.Sql

/-- The values that a step binds. -/
def Step.values : Step → List Value
  | .push _ | .pushName _ => []
  | .bind v | .pushBind v => [v]
  | .bindPoint x y _ => [.real64 x, .real64 y]

/-- What a step appends to the text when `n` values have been bound before. -/
def Step.written (n : Nat) : Step → String
  | .push words => words
  | .pushName i => i.text
  | .pushBind _ => "$" ++ toString (n + 1)
  | .bind _ | .bindPoint .. => ""

/-- What steps append to the text, one after the other. -/
def writtenFrom (n : Nat) : List Step → List String
  | [] => []
  | s :: steps => s.written n :: writtenFrom (n + s.values.length) steps

namespace Draft

def performAll (d : Draft) (steps : List Step) : Draft := steps.foldl (fun d s => (d.perform s).2) d

/-- The slots that a step gives out for its values: it returns them or appends them to the text. -/
inductive GivesOut (d : Draft) : Step → List String → Prop where
  | push (words : String) : GivesOut d (.push words) []
  | pushName (i : Identifier) : GivesOut d (.pushName i) []
  | bind {v : Value} {slot : String} (h : (d.perform (.bind v)).1 = some slot) : GivesOut d (.bind v) [slot]
  | pushBind {v : Value} {slot : String}
      (h : textOf (d.perform (.pushBind v)).2.pieces = textOf d.pieces ++ slot) : GivesOut d (.pushBind v) [slot]
  | bindPoint {x y : Float} {system : Int} {slotX slotY : String}
      (h : (d.perform (.bindPoint x y system)).1 =
        some ("ST_SetSRID(ST_MakePoint(" ++ slotX ++ ", " ++ slotY ++ "), " ++ toString system ++ ")")) :
      GivesOut d (.bindPoint x y system) [slotX, slotY]

/-- The slots that steps give out, one after the other. -/
inductive GivesOutAll : Draft → List Step → List String → Prop where
  | nil {d : Draft} : GivesOutAll d [] []
  | cons {d : Draft} {s : Step} {steps : List Step} {slots rest : List String} (h : d.GivesOut s slots)
      (hrest : GivesOutAll (d.perform s).2 steps rest) : GivesOutAll d (s :: steps) (slots ++ rest)

end Draft

/-! ### Slots -/

/-- The slots of `m` values that are bound after `n` others. -/
def slotTexts (n m : Nat) : List String := (List.range' (n + 1) m).map fun k => "$" ++ toString k

theorem slotText_injective : Function.Injective slotText := by
  intro m n h
  have hm := slotNumber?_slotText m
  rw [h, slotNumber?_slotText] at hm
  exact (Option.some.inj hm).symm

theorem nodup_slotTexts (n m : Nat) : (slotTexts n m).Nodup :=
  List.Nodup.map slotText_injective List.nodup_range'

theorem slotTexts_add (n m k : Nat) : slotTexts n (m + k) = slotTexts n m ++ slotTexts (n + m) k := by
  rw [slotTexts, ← List.range'_append_1, List.map_append, Nat.add_right_comm]
  rfl

theorem textOf_append (ps qs : List Piece) : textOf (ps ++ qs) = textOf ps ++ textOf qs :=
  String.toList_injective (by simp [toList_textOf])

theorem textOf_singleton (p : Piece) : textOf [p] = p.text :=
  String.toList_injective (by simp [toList_textOf])

theorem signedNumeral_eq (n : Int) : Text.signedNumeral n = toString n := by
  cases n with
  | ofNat n => rfl
  | negSucc n => rfl

theorem textOf_pointExpression (m n : Nat) (system : Int) :
    textOf (Draft.pointExpression (.slot m) (.slot n) system) =
      "ST_SetSRID(ST_MakePoint(" ++ slotText m ++ ", " ++ slotText n ++ "), " ++ toString system ++ ")" := by
  rw [← signedNumeral_eq]
  refine String.toList_injective ?_
  simp [Draft.pointExpression, toList_textOf]

namespace Draft

/-! ### One step -/

theorem perform_bindPoint (d : Draft) (x y : Float) (system : Int) : d.perform (.bindPoint x y system) =
    (some (textOf (pointExpression (.slot (d.params.length + 1)) (.slot (d.params.length + 2)) system)),
      { d with params := d.params ++ [.real64 x, .real64 y] }) := by
  simp [perform, bindPoint, bind]

theorem params_perform (d : Draft) (s : Step) : (d.perform s).2.params = d.params ++ s.values := by
  cases s with
  | push words => exact (List.append_nil _).symm
  | pushName i => exact (List.append_nil _).symm
  | bind v => rfl
  | pushBind v => rfl
  | bindPoint x y system => rw [perform_bindPoint, Step.values]

theorem textOf_perform (d : Draft) (s : Step) :
    textOf (d.perform s).2.pieces = textOf d.pieces ++ s.written d.params.length := by
  cases s with
  | push words =>
    show textOf (d.pieces ++ [.words words]) = _
    rw [textOf_append, textOf_singleton]
    rfl
  | pushName i =>
    show textOf (d.pieces ++ [.name i]) = _
    rw [textOf_append, textOf_singleton]
    rfl
  | bind v => exact String.append_empty.symm
  | pushBind v =>
    show textOf (d.pieces ++ [.slot (d.params.length + 1)]) = _
    rw [textOf_append, textOf_singleton]
    rfl
  | bindPoint x y system => exact String.append_empty.symm

theorem givesOut (d : Draft) (s : Step) : d.GivesOut s (slotTexts d.params.length s.values.length) := by
  cases s with
  | push words => exact .push words
  | pushName i => exact .pushName i
  | bind v => exact .bind rfl
  | pushBind v => exact .pushBind (d.textOf_perform (.pushBind v))
  | bindPoint x y system =>
    refine .bindPoint ?_
    rw [perform_bindPoint, textOf_pointExpression]
    rfl

/-! ### Steps one after the other -/

theorem params_performAll (d : Draft) (steps : List Step) :
    (d.performAll steps).params = d.params ++ steps.flatMap Step.values := by
  induction steps generalizing d with
  | nil => exact (List.append_nil _).symm
  | cons s steps ih =>
    show ((d.perform s).2.performAll steps).params = _
    rw [ih, params_perform, List.append_assoc]
    rfl

theorem textOf_performAll (d : Draft) (steps : List Step) :
    textOf (d.performAll steps).pieces = textOf d.pieces ++ String.join (writtenFrom d.params.length steps) := by
  induction steps generalizing d with
  | nil => exact String.append_empty.symm
  | cons s steps ih =>
    show textOf ((d.perform s).2.performAll steps).pieces = _
    rw [ih, textOf_perform, params_perform, List.length_append, writtenFrom, String.join_cons,
      String.append_assoc]

theorem givesOutAll (d : Draft) (steps : List Step) :
    GivesOutAll d steps (slotTexts d.params.length (steps.flatMap Step.values).length) := by
  induction steps generalizing d with
  | nil => exact .nil
  | cons s steps ih =>
    have hrest := ih (d.perform s).2
    rw [params_perform, List.length_append] at hrest
    rw [List.flatMap_cons, List.length_append, slotTexts_add]
    exact .cons (d.givesOut s) hrest

theorem performAll_append (d : Draft) (steps more : List Step) :
    d.performAll (steps ++ more) = (d.performAll steps).performAll more :=
  List.foldl_append

/-- After any steps there are as many parameters as values have been bound. The slots that have been given out for
them are `$1`, `$2` and so on, all different; the `k`-th parameter is the value whose slot is `$k`, and stays it
whatever steps come after. The text is what the steps have appended to it. -/
theorem performAll_numbers_values (steps : List Step) :
    let d := empty.performAll steps
    let values := steps.flatMap Step.values
    let slots := (List.range' 1 values.length).map fun k => "$" ++ toString k
    d.params.length = values.length ∧ GivesOutAll empty steps slots ∧ slots.Nodup ∧ d.finish.params = values ∧
      (∀ more, d.params <+: (empty.performAll (steps ++ more)).finish.params) ∧
      d.finish.text = String.join (writtenFrom 0 steps) := by
  intro d values slots
  have hparams : d.params = values := empty.params_performAll steps
  have htext : textOf d.pieces = textOf [] ++ String.join (writtenFrom 0 steps) := empty.textOf_performAll steps
  refine ⟨congrArg List.length hparams, empty.givesOutAll steps, nodup_slotTexts 0 _, hparams, fun more => ?_, ?_⟩
  · refine ⟨more.flatMap Step.values, ?_⟩
    show d.params ++ _ = (empty.performAll (steps ++ more)).params
    rw [performAll_append, params_performAll d more]
  · exact htext.trans (by simp [textOf])

example (x y : Float) : ((empty.performAll [.push "a = ", .pushBind .null]).perform (.bindPoint x y (-1))).1 =
    some "ST_SetSRID(ST_MakePoint($2, $3), -1)" := by
  cbv

end Draft

end Geocoding.Sql
