import Geocoding.Proofs.Sql.Form
import Geocoding.Proofs.Sql.Reading

/-!
# Values and the words before them

If a phrase stands only in certain words of a form, what follows the phrase in the text is what follows the words
in the form: the value of an operand, or the arguments of a call.
-/

namespace Geocoding.Sql

variable {ps : List Piece}

/-- The phrase stands in a piece if and only if the piece is the words `w`, once, with `rest` after it. -/
structure Announces (phrase w rest : String) (p : Piece) : Prop where
  apart : Apart phrase.toList p.text.toList
  following_eq : following phrase.toList p.text.toList = if p = .words w then [rest.toList] else []

/-- The pieces after each place of some words. -/
def after (w : String) : List Piece → List (List Piece)
  | [] => []
  | p :: ps => if p = .words w then ps :: after w ps else after w ps

theorem following_eq_after {phrase w rest : String} (h : ∀ p ∈ ps, Announces phrase w rest p) :
    following phrase.toList (textOf ps).toList =
      (after w ps).map fun qs => rest.toList ++ (textOf qs).toList := by
  rw [following_textOf fun p hp => (h p hp).apart]
  induction ps with
  | nil => rfl
  | cons p ps ih =>
    obtain ⟨hp, hps⟩ := List.forall_mem_cons.mp h
    simp only [List.map_cons, followingIn, hp.following_eq, ih hps, after, ← toList_textOf]
    split <;> simp

theorem announces_of_not_mem {phrase w rest : String} {p : Piece} {c : Char}
    (hl : phrase.toList.getLast? = some c) (hc : c ∉ p.text.toList) (hp : p ≠ .words w) :
    Announces phrase w rest p :=
  ⟨apart_of_not_mem hl hc, by rw [following_of_not_mem hl hc, if_neg hp]⟩

namespace Form

/-- What is left of a form after each place of some words. -/
def after (w : String) : Form → List Form
  | [] => []
  | .fixed p :: F => if p = .words w then F :: after w F else after w F
  | .value _ :: F => after w F

variable {F G : Form} {w : String}

theorem after_numbered (w : String) (F : Form) (n : Nat) : Sql.after w (F.numbered n) =
    (F.after w).map fun G => G.numbered (n + F.values.length - G.values.length) := by
  induction F generalizing n with
  | nil => rfl
  | cons x F ih =>
    cases x with
    | fixed p =>
      simp only [numbered, Sql.after, after, values, ih]
      split
      · simp
      · rfl
    | value v =>
      have hn : n + 1 + (values F).length = n + ((values F).length + 1) := by omega
      simp [numbered, Sql.after, after, values, ih, hn]

theorem exists_of_mem_after (h : G ∈ F.after w) : ∃ H, F = H ++ G := by
  induction F with
  | nil => cases h
  | cons x F ih =>
    cases x with
    | fixed p =>
      simp only [after] at h
      split at h
      · obtain rfl | h := List.mem_cons.mp h
        · exact ⟨[.fixed p], rfl⟩
        · obtain ⟨H, rfl⟩ := ih h
          exact ⟨.fixed p :: H, rfl⟩
      · obtain ⟨H, rfl⟩ := ih h
        exact ⟨.fixed p :: H, rfl⟩
    | value v =>
      obtain ⟨H, rfl⟩ := ih h
      exact ⟨.value v :: H, rfl⟩

theorem slots_numbered (h : ∀ k, .fixed (.slot k) ∉ F) (n : Nat) :
    slots (F.numbered n) = List.range' (n + 1) F.values.length := by
  induction F generalizing n with
  | nil => rfl
  | cons x F ih =>
    have hF := fun k hk => h k (List.mem_cons_of_mem _ hk)
    cases x with
    | fixed p =>
      cases p with
      | words w => exact ih hF n
      | name i => exact ih hF n
      | slot k => exact absurd List.mem_cons_self (h k)
    | value v => simp [numbered, slots, values, ih hF, List.range'_succ]

theorem mem_numbered {p : Piece} {n : Nat} (h : p ∈ F.numbered n) :
    .fixed p ∈ F ∨ ∃ k, p = .slot k := by
  induction F generalizing n with
  | nil => cases h
  | cons x F ih =>
    cases x with
    | fixed q =>
      obtain rfl | h := List.mem_cons.mp h
      · exact .inl List.mem_cons_self
      · exact (ih h).imp_left (List.mem_cons_of_mem _)
    | value v =>
      obtain rfl | h := List.mem_cons.mp h
      · exact .inr ⟨n + 1, rfl⟩
      · exact (ih h).imp_left (List.mem_cons_of_mem _)

theorem after_append (F G : Form) :
    after w (F ++ G) = (F.after w).map (· ++ G) ++ G.after w := by
  induction F with
  | nil => rfl
  | cons x F ih =>
    cases x with
    | fixed p =>
      simp only [List.cons_append, after, ih]
      split <;> rfl
    | value v => exact ih

theorem after_of_not_mem (h : .fixed (.words w) ∉ F) : F.after w = [] := by
  induction F with
  | nil => rfl
  | cons x F ih =>
    have hF := ih (List.not_mem_of_not_mem_cons h)
    cases x with
    | fixed p =>
      have hp : p ≠ .words w := by
        rintro rfl
        exact h List.mem_cons_self
      simp [after, hp, hF]
    | value v => exact hF

def headValue? : Form → Option Value
  | .value v :: _ => some v
  | _ => none

/-- The values that stand after each place of some words. -/
def announced (w : String) (F : Form) : List (Option Value) := (F.after w).map headValue?

/-- Wherever the words stand, a value comes next. -/
def Settled (w : String) (F : Form) : Prop := ∀ G ∈ F.after w, G.headValue?.isSome

theorem headValue?_append (h : F.headValue?.isSome) : headValue? (F ++ G) = F.headValue? := by
  cases F with
  | nil => cases h
  | cons x F =>
    cases x with
    | fixed p => cases h
    | value v => rfl

theorem announced_append (h : F.Settled w) : announced w (F ++ G) = F.announced w ++ G.announced w := by
  have hF : (F.after w).map (fun H => headValue? (H ++ G)) = F.announced w :=
    List.map_congr_left fun H hH => headValue?_append (h H hH)
  rw [announced, after_append, List.map_append, List.map_map]
  exact congrArg (· ++ G.announced w) hF

theorem Settled.append (hF : F.Settled w) (hG : G.Settled w) : Settled w (F ++ G) := by
  intro H hH
  rw [after_append, List.mem_append, List.mem_map] at hH
  obtain ⟨H, hH, rfl⟩ | hH := hH
  · rw [headValue?_append (hF H hH)]
    exact hF H hH
  · exact hG H hH

variable {Fs : List Form}

theorem Settled.flatten (h : ∀ F ∈ Fs, F.Settled w) : Settled w Fs.flatten := by
  induction Fs with
  | nil => exact fun G hG => absurd hG List.not_mem_nil
  | cons F Fs ih =>
    obtain ⟨hF, hFs⟩ := List.forall_mem_cons.mp h
    exact hF.append (ih hFs)

theorem announced_flatten (h : ∀ F ∈ Fs, F.Settled w) : announced w Fs.flatten = Fs.flatMap (announced w) := by
  induction Fs with
  | nil => rfl
  | cons F Fs ih =>
    obtain ⟨hF, hFs⟩ := List.forall_mem_cons.mp h
    rw [List.flatten_cons, announced_append hF, ih hFs, List.flatMap_cons]

end Form

/-! ### Operands and arguments -/

variable {F G H : Form} {phrase w c : String}

theorem Statement.valueOf?_operand {s : Statement} {k : Nat} {v : Value} (hv : s.params[k]? = some v)
    (hd : EndsWord (textOf ps).toList) :
    s.valueOf? ((withoutSpaces (' ' :: (textOf (.slot (k + 1) :: ps)).toList)).takeWhile (!endsWord ·)) =
      some v := by
  have hs : withoutSpaces (' ' :: (textOf (.slot (k + 1) :: ps)).toList) =
      (slotText (k + 1)).toList ++ (textOf ps).toList := by
    rw [toList_textOf_cons, Piece.text_slot, toList_slotText]
    simp [withoutSpaces]
  have ht : ((slotText (k + 1)).toList ++ (textOf ps).toList).takeWhile (!endsWord ·) =
      (slotText (k + 1)).toList :=
    takeWhile_of_head (fun c hc => by simp [not_endsWord_slotText hc]) fun c hc => by simp [hd c hc]
  rw [hs, ht, valueOf?_slotText, hv]

/-- The values that follow a phrase are those that follow the words which announce it. -/
theorem operands_write (h : ∀ p ∈ F.numbered 0, Announces phrase w " " p) (hd : Delimited (F.numbered 0))
    (hv : F.Settled w) : (Draft.empty.write F).finish.operands phrase = F.announced w := by
  have ht : (Draft.empty.write F).finish.text = textOf (F.numbered 0) := rfl
  rw [Statement.operands, ht, following_eq_after h, Form.after_numbered, List.map_map, List.map_map,
    Form.announced]
  refine List.map_congr_left fun G hG => ?_
  obtain ⟨H, rfl⟩ := Form.exists_of_mem_after hG
  obtain ⟨v, G, rfl⟩ : ∃ v G', G = .value v :: G' := by
    have hs := hv G hG
    unfold Form.headValue? at hs
    split at hs
    · next v G => exact ⟨v, G, rfl⟩
    · cases hs
  -- The slot is numbered by the values before it, which stand before it in the parameters too.
  have hn : 0 + (Form.values (H ++ .value v :: G)).length - (Form.values (.value v :: G)).length =
      H.values.length := by
    rw [Form.values_append, List.length_append]
    omega
  have hk : (Draft.empty.write (H ++ .value v :: G)).finish.params[H.values.length]? = some v := by
    simp [Draft.write, Draft.empty, Draft.finish, Form.values]
  rw [Form.numbered_append] at hd
  have hd : Delimited (Form.numbered H.values.length (.value v :: G)) := by simpa using hd.of_append
  simp only [Function.comp, hn]
  exact Statement.valueOf?_operand hk hd.1

theorem argumentsFrom_plain {xs : List Char} (h : ∀ c ∈ xs, c ≠ '(' ∧ c ≠ ')' ∧ c ≠ ',') (depth : Nat)
    (read cs : List Char) :
    argumentsFrom depth read (xs ++ cs) = argumentsFrom depth (xs.reverse ++ read) cs := by
  induction xs generalizing read with
  | nil => rfl
  | cons c xs ih =>
    obtain ⟨⟨ho, hc, hs⟩, hxs⟩ := List.forall_mem_cons.mp h
    simp [argumentsFrom, ho, hc, hs, ih hxs]

theorem slotText_plain {n : Nat} {c : Char} (h : c ∈ (slotText n).toList) :
    c ≠ '(' ∧ c ≠ ')' ∧ c ≠ ',' := by
  have he := not_endsWord_slotText h
  refine ⟨?_, ?_, ?_⟩
  · rintro rfl
    rw [toList_slotText] at h
    obtain h | h := List.mem_cons.mp h
    · cases h
    · exact absurd (isDigit_toDigits h) (by decide)
  · rintro rfl
    cases he
  · rintro rfl
    cases he

/-- A call with two slots has the two values as its arguments. -/
theorem Statement.arguments_pair (s : Statement) (k l : Nat) (hw : w.toList.head? = some ')')
    (ps : List Piece) :
    (argumentsFrom 0 [] (textOf (.slot (k + 1) :: .words ", " :: .slot (l + 1) :: .words w :: ps)).toList).map
      (fun a => s.valueOf? (withoutSpaces a)) = [s.params[k]?, s.params[l]?] := by
  obtain ⟨cs, hcs⟩ : ∃ cs, w.toList = ')' :: cs := by
    cases hl : w.toList with
    | nil => simp [hl] at hw
    | cons c cs => exact ⟨cs, by simpa [hl] using hw⟩
  have hsep : ", ".toList = [',', ' '] := rfl
  have hk : withoutSpaces (slotText (k + 1)).toList = (slotText (k + 1)).toList := by
    simp [toList_slotText, withoutSpaces]
  have hl : withoutSpaces (' ' :: (slotText (l + 1)).toList) = (slotText (l + 1)).toList := by
    simp [toList_slotText, withoutSpaces]
  simp only [toList_textOf_cons, Piece.text_slot, Piece.text_words, hcs, hsep,
    argumentsFrom_plain fun c hc => slotText_plain hc]
  simp [argumentsFrom, argumentsFrom_plain fun c hc => slotText_plain hc, hk, hl, valueOf?_slotText]

theorem arguments_write_nil {function w : String}
    (h : ∀ p ∈ F.numbered 0, Announces (function ++ "(") w "" p) (ha : F.after w = []) :
    (Draft.empty.write F).finish.arguments function = [] := by
  rw [Draft.finish_write_empty, Statement.arguments, following_eq_after h, Form.after_numbered, ha]
  rfl

/-- A call whose arguments are two values of a form. -/
theorem arguments_write {function w : String} {u v : Value}
    (h : ∀ p ∈ F.numbered 0, Announces (function ++ "(") w "" p)
    (ha : F.after w = [.value u :: .fixed (.words ", ") :: .value v :: .fixed (.words c) :: G])
    (hc : c.toList.head? = some ')') :
    (Draft.empty.write F).finish.arguments function = [[some u, some v]] := by
  obtain ⟨H, hF⟩ := Form.exists_of_mem_after (ha ▸ List.mem_singleton_self _)
  have ht : (Draft.empty.write F).finish.text = textOf (F.numbered 0) := rfl
  have hn : 0 + F.values.length - (Form.values (.value u :: .fixed (.words ", ") :: .value v ::
      .fixed (.words c) :: G)).length = H.values.length := by
    rw [hF, Form.values_append, List.length_append]
    omega
  have hu : (Draft.empty.write F).finish.params[H.values.length]? = some u := by
    simp [hF, Draft.write, Draft.empty, Draft.finish, Form.values]
  have hv : (Draft.empty.write F).finish.params[H.values.length + 1]? = some v := by
    simp [hF, Draft.write, Draft.empty, Draft.finish, Form.values]
  have hp := (Draft.empty.write F).finish.arguments_pair H.values.length (H.values.length + 1) hc
    (G.numbered (H.values.length + 2))
  rw [hu, hv] at hp
  rw [Statement.arguments, ht, following_eq_after h, Form.after_numbered, ha]
  simp only [List.map_cons, List.map_nil, hn, Form.numbered, String.toList_empty, List.nil_append]
  exact congrArg (fun x => [x]) hp

end Geocoding.Sql
