import Geocoding.Sql.Statement
import Mathlib.Data.List.Basic

/-!
# Statements with their values in place

A form is the text of a statement with every value where its slot is to stand. Writing a form at the end of a
draft numbers its values on from those that the draft has; the text that comes of it depends on where the values
stand, and not on what they are.
-/

namespace Geocoding.Sql

/-- After the first of the joined lists, each has the separator before it. -/
theorem intercalate_cons_flatMap {α : Type} (separator : α) (xs : List α) (xss : List (List α)) :
    [separator].intercalate (xs :: xss) = xs ++ xss.flatMap (separator :: ·) := by
  induction xss generalizing xs with
  | nil => simp
  | cons ys xss ih =>
    rw [List.intercalate_cons_cons, ih]
    simp

/-- A piece of a statement, or a value in the place of its slot. -/
inductive Part where
  | fixed (p : Piece)
  | value (v : Value)

abbrev Form := List Part

namespace Form

/-- A form without values. -/
def ofPieces (ps : List Piece) : Form := ps.map .fixed

def values : Form → List Value
  | [] => []
  | .fixed _ :: F => values F
  | .value v :: F => v :: values F

/-- The pieces of a form whose values come after `n` others. -/
def numbered (n : Nat) : Form → List Piece
  | [] => []
  | .fixed p :: F => p :: numbered n F
  | .value _ :: F => .slot (n + 1) :: numbered (n + 1) F

/-- A form without its values; their places are kept. -/
def shape (F : Form) : List (Option Piece) := F.map fun
  | .fixed p => some p
  | .value _ => none

variable {F G : Form} {Fs : List Form} {n : Nat}

@[simp] theorem values_append (F G : Form) : values (F ++ G) = F.values ++ G.values := by
  induction F with
  | nil => rfl
  | cons x F ih => cases x <;> simp [values, ih]

@[simp] theorem values_ofPieces (ps : List Piece) : (ofPieces ps).values = [] := by
  induction ps with
  | nil => rfl
  | cons p ps ih => simpa [ofPieces, values] using ih

@[simp] theorem numbered_append (n : Nat) (F G : Form) :
    numbered n (F ++ G) = F.numbered n ++ G.numbered (n + F.values.length) := by
  induction F generalizing n with
  | nil => rfl
  | cons x F ih =>
    cases x with
    | fixed p => simp [numbered, values, ih]
    | value v => simp [numbered, values, ih, Nat.add_assoc, Nat.add_comm 1]

@[simp] theorem numbered_ofPieces (n : Nat) (ps : List Piece) : (ofPieces ps).numbered n = ps := by
  induction ps with
  | nil => rfl
  | cons p ps ih => simpa [ofPieces, numbered] using ih

/-- Forms of one shape have the same pieces, whatever their values are. -/
theorem numbered_eq_of_shape (h : F.shape = G.shape) (n : Nat) : F.numbered n = G.numbered n := by
  induction F generalizing G n with
  | nil =>
    cases G with
    | nil => rfl
    | cons y G => cases h
  | cons x F ih =>
    cases G with
    | nil => cases h
    | cons y G =>
      obtain ⟨hx, hF⟩ := List.cons.inj h
      cases x with
      | fixed p =>
        cases y with
        | fixed q =>
          obtain rfl := Option.some.inj hx
          exact congrArg (List.cons p) (ih hF n)
        | value w => cases hx
      | value v =>
        cases y with
        | fixed q => cases hx
        | value w => exact congrArg (List.cons (.slot (n + 1))) (ih hF (n + 1))

theorem length_values_of_shape (h : F.shape = G.shape) : F.values.length = G.values.length := by
  have hc : ∀ F : Form, F.values.length = F.shape.count none := by
    intro F
    induction F with
    | nil => rfl
    | cons x F ih => cases x <;> simpa [values, shape] using ih
  rw [hc, hc, h]

theorem shape_append (F G : Form) : shape (F ++ G) = F.shape ++ G.shape := List.map_append

/-! ### Forms one after the other -/

def numberedEach (n : Nat) : List Form → List (List Piece)
  | [] => []
  | F :: Fs => F.numbered n :: numberedEach (n + F.values.length) Fs

theorem numberedEach_append (n : Nat) (Fs Gs : List Form) : numberedEach n (Fs ++ Gs) =
    numberedEach n Fs ++ numberedEach (n + (Fs.flatMap values).length) Gs := by
  induction Fs generalizing n with
  | nil => rfl
  | cons F Fs ih => simp [numberedEach, ih, Nat.add_assoc]

theorem numbered_flatten (n : Nat) (Fs : List Form) :
    numbered n Fs.flatten = (numberedEach n Fs).flatten := by
  induction Fs generalizing n with
  | nil => rfl
  | cons F Fs ih => simp [numberedEach, ih]

theorem values_flatten (Fs : List Form) : values Fs.flatten = Fs.flatMap values := by
  induction Fs with
  | nil => rfl
  | cons F Fs ih => simp [ih]

theorem numberedEach_map_cons (n : Nat) (p : Piece) (Fs : List Form) :
    numberedEach n (Fs.map (.fixed p :: ·)) = (numberedEach n Fs).map (p :: ·) := by
  induction Fs generalizing n with
  | nil => rfl
  | cons F Fs ih => simp [numberedEach, numbered, values, ih]

end Form

/-! ### Writing forms -/

namespace Draft

/-- Appends a form to the text and its values to the parameters. -/
def write (d : Draft) (F : Form) : Draft :=
  ⟨d.pieces ++ F.numbered d.params.length, d.params ++ F.values⟩

/-- Appends the values of a form to the parameters; its pieces are to be written later. -/
def reserve (d : Draft) (F : Form) : List Piece × Draft :=
  (F.numbered d.params.length, { d with params := d.params ++ F.values })

def reserveEach (d : Draft) (Fs : List Form) : List (List Piece) × Draft :=
  (Form.numberedEach d.params.length Fs, { d with params := d.params ++ Fs.flatMap Form.values })

variable (d : Draft) (F G : Form)

theorem finish_write_empty : (empty.write F).finish = ⟨textOf (F.numbered 0), F.values⟩ := rfl

theorem write_write : (d.write F).write G = d.write (F ++ G) := by simp [write]

theorem push_eq_write (ps : List Piece) : d.push ps = d.write (.ofPieces ps) := by simp [push, write]

theorem bindPoint_eq_reserve (x y : Float) (system : Int) : d.bindPoint x y system =
    d.reserve ([.fixed (.words "ST_SetSRID(ST_MakePoint("), .value (.real64 x), .fixed (.words ", "),
      .value (.real64 y), .fixed (.words ("), " ++ Text.signedNumeral system ++ ")"))]) := by
  simp [bindPoint, bind, reserve, pointExpression, Form.numbered, Form.values]

theorem reserveEach_append (Fs Gs : List Form) : d.reserveEach (Fs ++ Gs) =
    ((d.reserveEach Fs).1 ++ ((d.reserveEach Fs).2.reserveEach Gs).1,
      ((d.reserveEach Fs).2.reserveEach Gs).2) := by
  simp [reserveEach, Form.numberedEach_append]

theorem push_reserve (ps qs : List Piece) : (d.reserve F).2.push (ps ++ (d.reserve F).1 ++ qs) =
    d.write (.ofPieces ps ++ F ++ .ofPieces qs) := by
  simp [reserve, push, write]

end Draft

end Geocoding.Sql
