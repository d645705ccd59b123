import Geocoding.Proofs.Sql.Identifier
import Geocoding.Proofs.Sql.Phrase
import Geocoding.Sql.Statement

/-!
# Reading a statement

The slots in the text of a statement, and the values that its clauses refer to, read off the text and the
parameters alone.
-/

namespace Geocoding.Sql

/-- The runs of digits that follow the dollar signs of a text. -/
def slotRuns (cs : List Char) : List (List Char) :=
  (following ['$'] cs).map (·.takeWhile Char.isDigit)

/-- The number of the slot that a word is. -/
def slotNumber? : List Char → Option Nat
  | '$' :: ds => if ds ≠ [] ∧ ds.all Char.isDigit then some (Nat.ofDigitChars 10 ds 0) else none
  | _ => none

def endsWord (c : Char) : Bool := c == ' ' || c == ',' || c == ')'

/-- The arguments of a call, from the text after its opening bracket up to the bracket that closes it. Commas
inside inner brackets do not separate; `read` is what has been read of an argument, last character first. -/
def argumentsFrom (depth : Nat) (read : List Char) : List Char → List (List Char)
  | [] => [read.reverse]
  | c :: cs =>
    if c = '(' then argumentsFrom (depth + 1) (c :: read) cs
    else if c = ')' then
      match depth with
      | 0 => [read.reverse]
      | depth + 1 => argumentsFrom depth (c :: read) cs
    else if c = ',' ∧ depth = 0 then read.reverse :: argumentsFrom 0 [] cs
    else argumentsFrom depth (c :: read) cs

def withoutSpaces (cs : List Char) : List Char := cs.dropWhile (· == ' ')

namespace Statement

/-- The value of a slot. -/
def param? (s : Statement) : Nat → Option Value
  | 0 => none
  | k + 1 => s.params[k]?

/-- The value that a word of the text stands for. -/
def valueOf? (s : Statement) (word : List Char) : Option Value := (slotNumber? word).bind s.param?

/-- The values of the words that follow a phrase, place by place. -/
def operands (s : Statement) (phrase : String) : List (Option Value) :=
  (following phrase.toList s.text.toList).map fun cs =>
    s.valueOf? ((withoutSpaces cs).takeWhile (!endsWord ·))

/-- The values of the arguments of a function, call by call. -/
def arguments (s : Statement) (function : String) : List (List (Option Value)) :=
  (following (function ++ "(").toList s.text.toList).map fun cs =>
    (argumentsFrom 0 [] cs).map fun a => s.valueOf? (withoutSpaces a)

end Statement

/-! ### Slots -/

theorem toList_slotText (n : Nat) : (slotText n).toList = '$' :: Nat.toDigits 10 n := by
  simp [slotText, Text.numeral]

theorem isDigit_toDigits {n : Nat} {c : Char} (h : c ∈ Nat.toDigits 10 n) : c.isDigit = true :=
  Nat.isDigit_of_mem_toDigits (by decide) (by decide) h

theorem slotNumber?_slotText (n : Nat) : slotNumber? (slotText n).toList = some n := by
  have hd : (Nat.toDigits 10 n).all Char.isDigit = true :=
    List.all_eq_true.mpr fun c hc => isDigit_toDigits hc
  rw [toList_slotText]
  simp only [slotNumber?, hd, Nat.ofDigitChars_ten_toDigits]
  simp [Nat.toDigits_ne_nil]

theorem Statement.valueOf?_slotText (s : Statement) (k : Nat) :
    s.valueOf? (slotText (k + 1)).toList = s.params[k]? := by
  rw [valueOf?, slotNumber?_slotText]
  rfl

theorem not_endsWord_of_isDigit {c : Char} (h : c.isDigit = true) : endsWord c = false := by
  by_contra hc
  simp only [Bool.not_eq_false, endsWord, Bool.or_eq_true, beq_iff_eq] at hc
  rcases hc with (rfl | rfl) | rfl <;> revert h <;> decide

theorem not_endsWord_slotText {n : Nat} {c : Char} (h : c ∈ (slotText n).toList) : endsWord c = false := by
  rw [toList_slotText] at h
  obtain rfl | h := List.mem_cons.mp h
  · decide
  · exact not_endsWord_of_isDigit (isDigit_toDigits h)

/-- A word ends where the text does. -/
def EndsWord (cs : List Char) : Prop := ∀ c ∈ cs.head?, endsWord c = true

theorem EndsWord.append {xs ys : List Char} (hx : EndsWord xs) (hy : EndsWord ys) : EndsWord (xs ++ ys) := by
  cases xs with
  | nil => exact hy
  | cons c xs => exact hx

theorem takeWhile_of_head {p : Char → Bool} {xs cs : List Char} (hx : ∀ c ∈ xs, p c = true)
    (hc : ∀ c ∈ cs.head?, p c = false) : (xs ++ cs).takeWhile p = xs := by
  rw [List.takeWhile_append_of_pos hx]
  cases cs with
  | nil => simp
  | cons c cs => simp [hc c rfl]

/-! ### Texts of pieces -/

variable {ps qs : List Piece}

theorem toList_textOf (ps : List Piece) :
    (textOf ps).toList = (ps.map fun p => p.text.toList).flatten := by
  simp only [textOf, String.toList_join, List.flatMap_def, List.map_map]
  rfl

theorem toList_textOf_cons (p : Piece) (ps : List Piece) :
    (textOf (p :: ps)).toList = p.text.toList ++ (textOf ps).toList := by
  simp [toList_textOf]

theorem toList_textOf_append (ps qs : List Piece) :
    (textOf (ps ++ qs)).toList = (textOf ps).toList ++ (textOf qs).toList := by
  simp [toList_textOf]

theorem textOf_append_words_slot (ps : List Piece) (w : String) (n : Nat) :
    textOf (ps ++ [.words w, .slot n]) = textOf ps ++ w ++ slotText n :=
  String.toList_injective (by simp [toList_textOf, Piece.text])

/-- Every slot is followed by a character that ends it. -/
def Delimited : List Piece → Prop
  | [] => True
  | .slot _ :: ps => EndsWord (textOf ps).toList ∧ Delimited ps
  | _ :: ps => Delimited ps

theorem Delimited.append (hp : Delimited ps) (hq : Delimited qs) (he : EndsWord (textOf qs).toList) :
    Delimited (ps ++ qs) := by
  induction ps with
  | nil => exact hq
  | cons p ps ih =>
    cases p with
    | words w => exact ih hp
    | name i => exact ih hp
    | slot n =>
      refine ⟨?_, ih hp.2⟩
      have ht := toList_textOf_append ps qs
      exact Eq.mpr (congrArg EndsWord ht) (hp.1.append he)

theorem Delimited.flatten {pss : List (List Piece)} (hp : ∀ ps ∈ pss, Delimited ps)
    (he : ∀ ps ∈ pss, EndsWord (textOf ps).toList) :
    Delimited pss.flatten ∧ EndsWord (textOf pss.flatten).toList := by
  induction pss with
  | nil => exact ⟨trivial, by simp [EndsWord, textOf]⟩
  | cons ps pss ih =>
    obtain ⟨hp, hps⟩ := List.forall_mem_cons.mp hp
    obtain ⟨he, hes⟩ := List.forall_mem_cons.mp he
    obtain ⟨hd, hrest⟩ := ih hps hes
    refine ⟨hp.append hd hrest, ?_⟩
    rw [List.flatten_cons, toList_textOf_append]
    exact he.append hrest

theorem endsWord_words {w : String} (h : w.toList.head?.any endsWord = true) (ps : List Piece) :
    EndsWord (textOf (.words w :: ps)).toList := by
  obtain ⟨c, hc, he⟩ := (Option.any_eq_true _ _).mp h
  have ht : (textOf (.words w :: ps)).toList.head? = some c := by
    have hw : (Piece.words w).text.toList.head? = some c := hc
    rw [toList_textOf_cons, List.head?_append, hw, Option.some_or]
  intro d hd
  rw [ht] at hd
  obtain rfl := Option.some.inj hd
  exact he

theorem Delimited.of_append (h : Delimited (ps ++ qs)) : Delimited qs := by
  induction ps with
  | nil => exact h
  | cons p ps ih =>
    cases p with
    | words w => exact ih h
    | name i => exact ih h
    | slot n => exact ih h.2

def slots : List Piece → List Nat
  | [] => []
  | .slot n :: ps => n :: slots ps
  | _ :: ps => slots ps

@[simp] theorem Piece.text_words (w : String) : (Piece.words w).text = w := rfl

@[simp] theorem Piece.text_name (i : Identifier) : (Piece.name i).text = i.text := rfl

@[simp] theorem Piece.text_slot (n : Nat) : (Piece.slot n).text = slotText n := rfl

theorem following_textOf {phrase : List Char} (h : ∀ p ∈ ps, Apart phrase p.text.toList) :
    following phrase (textOf ps).toList = followingIn phrase (ps.map fun p => p.text.toList) := by
  rw [toList_textOf]
  refine following_flatten fun w hw => ?_
  obtain ⟨p, hp, rfl⟩ := List.mem_map.mp hw
  exact h p hp

theorem Identifier.dollar_not_mem (i : Identifier) : '$' ∉ i.text.toList := by
  intro hc
  obtain h | h := i.isSegmentChar_or hc <;> revert h <;> decide

theorem following_dollar_slotText (n : Nat) :
    following ['$'] (slotText n).toList = [Nat.toDigits 10 n] := by
  have hd : '$' ∉ Nat.toDigits 10 n := fun hc => absurd (isDigit_toDigits hc) (by decide)
  have ha : ∀ w ∈ [['$'], Nat.toDigits 10 n], Apart ['$'] w := by simp [Apart]
  have ht : (slotText n).toList = [['$'], Nat.toDigits 10 n].flatten := by simp [toList_slotText]
  have hn : following ['$'] (Nat.toDigits 10 n) = [] := following_of_not_mem rfl hd
  have hs : following ['$'] ['$'] = [[]] := by decide
  rw [ht, following_flatten ha]
  simp [followingIn, hn, hs]

/-- The dollar signs of a text are those of its slots, if the words have none. -/
theorem slotRuns_textOf (hd : Delimited ps) (hw : ∀ w, .words w ∈ ps → '$' ∉ w.toList) :
    slotRuns (textOf ps).toList = (slots ps).map (Nat.toDigits 10) := by
  have ha : ∀ p ∈ ps, Apart ['$'] p.text.toList := by simp [Apart]
  rw [slotRuns, following_textOf ha]
  -- The induction needs nothing of `ha`, which speaks of all pieces.
  clear ha
  induction ps with
  | nil => rfl
  | cons p ps ih =>
    have hps := fun w h => hw w (List.mem_cons_of_mem _ h)
    cases p with
    | words w =>
      have hn : following ['$'] w.toList = [] := following_of_not_mem rfl (hw w List.mem_cons_self)
      simpa [followingIn, slots, hn] using ih hd hps
    | name i =>
      have hn : following ['$'] i.text.toList = [] := following_of_not_mem rfl i.dollar_not_mem
      simpa [followingIn, slots, hn] using ih hd hps
    | slot n =>
      obtain ⟨he, hd⟩ := hd
      have ht : (Nat.toDigits 10 n ++ (textOf ps).toList).takeWhile Char.isDigit = Nat.toDigits 10 n := by
        refine takeWhile_of_head (fun c hc => isDigit_toDigits hc) fun c hc => ?_
        -- A digit after the slot would not end it.
        by_contra hdig
        have hends := not_endsWord_of_isDigit (Bool.not_eq_false _ ▸ hdig)
        rw [he c hc] at hends
        cases hends
      rw [toList_textOf] at ht
      have ih := ih hd hps
      simp [followingIn, following_dollar_slotText, slots, ht, ih]

end Geocoding.Sql
