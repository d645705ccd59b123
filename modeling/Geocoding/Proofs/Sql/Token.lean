import Geocoding.Proofs.Sql.Form
import Geocoding.Proofs.Sql.Reading
import Geocoding.Text.Blank
import Mathlib.Data.List.Chain

/-!
# The tokens of a statement

Words, brackets and commas, with the values of slots in the place of the slots. If the parts of a form are set apart
from each other, the tokens of the statement that it makes are those of its parts.
-/

namespace Geocoding.Sql

variable {c : Char} {word cs xs ys : List Char}

/-- Whether `c` is a token of its own. -/
def isMark (c : Char) : Bool := c == '(' || c == ')' || c == ','

/-- Whether no word goes on across `c`. -/
def breaks (c : Char) : Bool := Text.isBlank c || isMark c

@[simp] theorem breaks_space : breaks ' ' = true := rfl

@[simp] theorem breaks_open : breaks '(' = true := rfl

@[simp] theorem breaks_close : breaks ')' = true := rfl

@[simp] theorem breaks_comma : breaks ',' = true := rfl

/-- The word that has been read, last character first. -/
def finished (word : List Char) : List (List Char) := if word.isEmpty then [] else [word.reverse]

/-- The words and marks of a text, of whose first word `word` has been read, last character first. -/
def lexFrom (word : List Char) : List Char → List (List Char)
  | [] => finished word
  | c :: cs =>
    if Text.isBlank c then finished word ++ lexFrom [] cs
    else if isMark c then finished word ++ [c] :: lexFrom [] cs
    else lexFrom (c :: word) cs

def lex (cs : List Char) : List (List Char) := lexFrom [] cs

inductive Token where
  | word (s : String)
  | value (v : Value)

namespace Statement

/-- The token that a word of the text is. -/
def token (s : Statement) (word : List Char) : Token :=
  match s.valueOf? word with
  | some v => .value v
  | none => .word (.ofList word)

def tokens (s : Statement) : List Token := (lex s.text.toList).map s.token

end Statement

/-- The tokens of a text without slots. -/
def wordsOf (s : String) : List Token := (lex s.toList).map fun word => .word (.ofList word)

/-! ### Texts one after the other -/

theorem lexFrom_cons_of_breaks (hc : breaks c = true) (word cs : List Char) :
    lexFrom word (c :: cs) = finished word ++ lexFrom [] (c :: cs) := by
  have hempty : finished [] = [] := rfl
  rw [lexFrom, lexFrom]
  split
  · rw [hempty, List.nil_append]
  · next hb =>
    have hm : isMark c = true := by simpa [breaks, hb] using hc
    rw [if_pos hm, if_pos hm, hempty, List.nil_append]

/-- No word goes on from the first text to the second. -/
def SetApart (xs ys : List Char) : Prop := (∃ c ∈ xs.getLast?, breaks c = true) ∨ ∀ c ∈ ys.head?, breaks c = true

theorem lexFrom_append_of_head (h : ∀ c ∈ ys.head?, breaks c = true) (word xs : List Char) :
    lexFrom word (xs ++ ys) = lexFrom word xs ++ lexFrom [] ys := by
  induction xs generalizing word with
  | nil =>
    cases ys with
    | nil => simp [lexFrom, finished]
    | cons c ys => exact lexFrom_cons_of_breaks (h c rfl) word ys
  | cons c xs ih =>
    simp only [List.cons_append, lexFrom, ih]
    split
    · simp
    · split
      · simp
      · rfl

theorem lexFrom_append_of_last (h : ∃ c ∈ xs.getLast?, breaks c = true) (word ys : List Char) :
    lexFrom word (xs ++ ys) = lexFrom word xs ++ lexFrom [] ys := by
  obtain ⟨c, hlast, hc⟩ := h
  obtain ⟨front, rfl⟩ := List.getLast?_eq_some_iff.mp hlast
  have hbreak (ys : List Char) : ∀ d ∈ (c :: ys).head?, breaks d = true := fun d hd => Option.some.inj hd ▸ hc
  have hsingle : lexFrom [] (c :: ys) = lexFrom [] [c] ++ lexFrom [] ys := by
    have hempty : finished [] = [] := rfl
    have hnil : lexFrom [] [] = [] := rfl
    simp only [lexFrom, hempty, List.nil_append]
    split
    · rw [List.nil_append]
    · next hb =>
      have hm : isMark c = true := by simpa [breaks, hb] using hc
      simp [hm]
  rw [List.append_assoc, List.singleton_append, lexFrom_append_of_head (hbreak ys), lexFrom_append_of_head (hbreak []),
    hsingle, List.append_assoc]

theorem lex_append (h : SetApart xs ys) : lex (xs ++ ys) = lex xs ++ lex ys := by
  obtain h | h := h
  · exact lexFrom_append_of_last h [] ys
  · exact lexFrom_append_of_head h [] xs

theorem lexFrom_of_not_breaks (h : ∀ c ∈ cs, breaks c = false) (word : List Char) :
    lexFrom word cs = finished (cs.reverse ++ word) := by
  induction cs generalizing word with
  | nil => rfl
  | cons c cs ih =>
    obtain ⟨hc, hcs⟩ := List.forall_mem_cons.mp h
    obtain ⟨hblank, hmark⟩ := Bool.or_eq_false_iff.mp hc
    simp [lexFrom, hblank, hmark, ih hcs]

/-- A text that nothing breaks is one word. -/
theorem lex_of_not_breaks (h : ∀ c ∈ cs, breaks c = false) (hne : cs ≠ []) : lex cs = [cs] := by
  rw [lex, lexFrom_of_not_breaks h]
  simp [finished, hne]

theorem mem_lexFrom {w : List Char} (hw : w ∈ lexFrom word cs) (hc : c ∈ w) : c ∈ word ∨ c ∈ cs := by
  have hfinished {word : List Char} (hw : w ∈ finished word) : c ∈ word := by
    unfold finished at hw
    split at hw
    · cases hw
    · obtain rfl := List.mem_singleton.mp hw
      exact List.mem_reverse.mp hc
  induction cs generalizing word with
  | nil => exact .inl (hfinished hw)
  | cons d cs ih =>
    have hrest (hw : w ∈ lexFrom [] cs) : c ∈ word ∨ c ∈ d :: cs := by
      obtain h | h := ih hw
      · cases h
      · exact .inr (List.mem_cons_of_mem _ h)
    rw [lexFrom] at hw
    split at hw
    · obtain hw | hw := List.mem_append.mp hw
      · exact .inl (hfinished hw)
      · exact hrest hw
    · split at hw
      · obtain hw | hw := List.mem_append.mp hw
        · exact .inl (hfinished hw)
        · obtain rfl | hw := List.mem_cons.mp hw
          · exact .inr (List.mem_singleton.mp hc ▸ List.mem_cons_self)
          · exact hrest hw
      · obtain h | h := ih hw
        · obtain rfl | h := List.mem_cons.mp h
          · exact .inr List.mem_cons_self
          · exact .inl h
        · exact .inr (List.mem_cons_of_mem _ h)

theorem mem_lex {w : List Char} (hw : w ∈ lex cs) (hc : c ∈ w) : c ∈ cs := by
  obtain h | h := mem_lexFrom hw hc
  · cases h
  · exact h

/-! ### Parts one after the other -/

theorem not_breaks_of_isSegmentChar (h : isSegmentChar c = true) : breaks c = false := by
  have hne (d : Char) (hd : isSegmentChar d = false) : c ≠ d := by
    rintro rfl
    rw [h] at hd
    cases hd
  have hspace : c.toNat ≠ 0x20 := fun hc => hne ' ' rfl (Char.toNat_inj.mp hc)
  obtain ⟨hlow, hhigh⟩ := visible_of_isSegmentChar h
  have hlow : 0x20 ≤ c.toNat := hlow
  have hhigh : c.toNat ≤ 0x7E := hhigh
  have hblank : Text.isBlank c = false := by
    simp only [Text.isBlank, Bool.or_eq_false_iff, Bool.and_eq_false_iff, decide_eq_false_iff_not, beq_eq_false_iff_ne]
    omega
  have hopen := hne '(' rfl
  have hclose := hne ')' rfl
  have hcomma := hne ',' rfl
  simp [breaks, isMark, hblank, hopen, hclose, hcomma]

theorem Identifier.lex_text (i : Identifier) : lex i.text.toList = [i.text.toList] := by
  have hne : i.text.toList ≠ [] := by
    intro h
    have hv := i.valid
    rw [h] at hv
    cases hv
  refine lex_of_not_breaks (fun c hc => ?_) hne
  obtain h | rfl := i.isSegmentChar_or hc
  · exact not_breaks_of_isSegmentChar h
  · rfl

theorem lex_slotText (n : Nat) : lex (slotText n).toList = [(slotText n).toList] := by
  rw [toList_slotText]
  refine lex_of_not_breaks (fun c hc => ?_) (List.cons_ne_nil _ _)
  obtain rfl | hc := List.mem_cons.mp hc
  · rfl
  · exact not_breaks_of_isSegmentChar (by simp [isSegmentChar, Char.isAlphanum, isDigit_toDigits hc])

theorem Identifier.wordsOf_text (i : Identifier) : wordsOf i.text = [.word i.text] := by
  rw [wordsOf, i.lex_text, List.map_singleton, String.ofList_toList]

theorem Statement.token_of_no_dollar (s : Statement) {word : List Char} (h : '$' ∉ word) :
    s.token word = .word (.ofList word) := by
  have hnone : slotNumber? word = none := by
    unfold slotNumber?
    split
    · exact absurd List.mem_cons_self h
    · rfl
  simp [token, valueOf?, hnone]

namespace Part

def tokens : Part → List Token
  | .fixed p => wordsOf p.text
  | .value v => [.value v]

/-- Whether a part begins with a character that breaks words. -/
def opens : Part → Bool
  | .fixed (.words w) => w.toList.head?.any breaks
  | _ => false

/-- Whether a part ends with such a character. -/
def closes : Part → Bool
  | .fixed (.words w) => w.toList.getLast?.any breaks
  | _ => false

end Part

namespace Form

variable {F G : Form} {x : Part} {n : Nat}

def tokens (F : Form) : List Token := F.flatMap Part.tokens

/-- No word goes on from one part to the next. -/
def IsSetApart (F : Form) : Prop := F.IsChain fun x y => x.closes = true ∨ y.opens = true

/-- The only dollar signs of the text are those of the slots of values. -/
def IsPlain (F : Form) : Prop := ∀ p, .fixed p ∈ F → '$' ∉ p.text.toList

theorem tokens_append (F G : Form) : tokens (F ++ G) = F.tokens ++ G.tokens := List.flatMap_append

theorem tokens_flatten (Fs : List Form) : tokens Fs.flatten = Fs.flatMap tokens := by
  induction Fs with
  | nil => rfl
  | cons F Fs ih => rw [List.flatten_cons, tokens_append, ih, List.flatMap_cons]

theorem IsSetApart.append (hF : F.IsSetApart) (hG : G.IsSetApart) (h : ∀ y ∈ G.head?, y.opens = true) :
    IsSetApart (F ++ G) :=
  List.isChain_append.mpr ⟨hF, hG, fun _ _ y hy => .inr (h y hy)⟩

theorem IsSetApart.flatten {Fs : List Form} (h : ∀ F ∈ Fs, F.IsSetApart ∧ ∀ y ∈ F.head?, y.opens = true) :
    IsSetApart Fs.flatten ∧ ∀ y ∈ Fs.flatten.head?, y.opens = true := by
  induction Fs with
  | nil => exact ⟨.nil, by simp⟩
  | cons F Fs ih =>
    obtain ⟨⟨hF, hhead⟩, hFs⟩ := List.forall_mem_cons.mp h
    obtain ⟨hrest, hopens⟩ := ih hFs
    refine ⟨hF.append hrest hopens, ?_⟩
    cases F with
    | nil => exact hopens
    | cons x F => exact hhead

theorem head_textOf_of_opens (h : ∀ y ∈ F.head?, y.opens = true) :
    ∀ c ∈ (textOf (F.numbered n)).toList.head?, breaks c = true := by
  cases F with
  | nil => simp [numbered, textOf]
  | cons y F =>
    have hy : y.opens = true := h y rfl
    unfold Part.opens at hy
    split at hy
    · next w =>
      obtain ⟨c, hc, hbreaks⟩ := (Option.any_eq_true _ _).mp hy
      intro d hd
      rw [numbered, toList_textOf_cons, List.head?_append, Piece.text_words, hc] at hd
      exact Option.some.inj hd ▸ hbreaks
    · cases hy

theorem last_of_closes {p : Piece} (h : Part.closes (.fixed p) = true) :
    ∃ c ∈ p.text.toList.getLast?, breaks c = true := by
  cases p with
  | words w => exact (Option.any_eq_true _ _).mp h
  | name i => cases h
  | slot n => cases h

theorem lex_numbered (h : F.IsSetApart) (n : Nat) :
    lex (textOf (F.numbered n)).toList = (F.numbered n).flatMap fun p => lex p.text.toList := by
  induction F generalizing n with
  | nil => rfl
  | cons x F ih =>
    obtain ⟨hx, hF⟩ := List.isChain_cons.mp h
    have hhead (n : Nat) (hcloses : ¬ x.closes = true) :
        ∀ c ∈ (textOf (numbered n F)).toList.head?, breaks c = true :=
      head_textOf_of_opens fun y hy => (hx y hy).resolve_left hcloses
    cases x with
    | fixed p =>
      have hapart : SetApart p.text.toList (textOf (numbered n F)).toList := by
        by_cases hcloses : Part.closes (.fixed p) = true
        · exact .inl (last_of_closes hcloses)
        · exact .inr (hhead n hcloses)
      rw [numbered, toList_textOf_cons, lex_append hapart, ih hF, List.flatMap_cons]
    | value v =>
      have hapart : SetApart (slotText (n + 1)).toList (textOf (numbered (n + 1) F)).toList :=
        .inr (hhead (n + 1) Bool.false_ne_true)
      rw [numbered, toList_textOf_cons, Piece.text_slot, lex_append hapart, ih hF, List.flatMap_cons,
        Piece.text_slot]

theorem IsPlain.map_token {p : Piece} (h : '$' ∉ p.text.toList) (s : Statement) :
    (lex p.text.toList).map s.token = wordsOf p.text :=
  List.map_congr_left fun _ hw => s.token_of_no_dollar fun hc => h (mem_lex hw hc)

theorem map_token_numbered {s : Statement} {front : List Value} (hs : s.params = front ++ F.values)
    (hp : F.IsPlain) :
    ((F.numbered front.length).flatMap fun p => lex p.text.toList).map s.token = F.tokens := by
  induction F generalizing front with
  | nil => rfl
  | cons x F ih =>
    have hF : IsPlain F := fun p hp' => hp p (List.mem_cons_of_mem _ hp')
    cases x with
    | fixed p =>
      have htoken := IsPlain.map_token (hp p List.mem_cons_self) s
      rw [numbered, List.flatMap_cons, List.map_append, htoken, ih hs hF]
      rfl
    | value v =>
      have hv : s.params[front.length]? = some v := by simp [hs, values]
      have htoken : s.token (slotText (front.length + 1)).toList = .value v := by
        rw [Statement.token, Statement.valueOf?_slotText, hv]
      have hparams : s.params = (front ++ [v]) ++ values F := by simp [hs, values]
      have ih := ih hparams hF
      rw [List.length_append, List.length_singleton] at ih
      rw [numbered, List.flatMap_cons, List.map_append, Piece.text_slot, lex_slotText, ih]
      simp [htoken, tokens, Part.tokens]

/-- The statement that a form makes has the tokens of the form. -/
theorem tokens_write (ha : F.IsSetApart) (hp : F.IsPlain) : (Draft.empty.write F).finish.tokens = F.tokens := by
  have hparams : (Draft.empty.write F).finish.params = [] ++ F.values := rfl
  rw [Statement.tokens, Draft.finish_write_empty, lex_numbered ha]
  exact map_token_numbered hparams hp

end Form

end Geocoding.Sql
