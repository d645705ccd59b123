/-!
# Blank characters

Unicode's white space, cutting it off both ends of a text, and the words it separates. Words hold no
blank and are never empty; a trimmed text begins and ends with a character that is not blank.
-/

namespace Geocoding.Text

/-- Unicode's `White_Space` property. -/
def isBlank (c : Char) : Bool :=
  let n := c.toNat
  (0x09 ≤ n && n ≤ 0x0D) || n == 0x20 || n == 0x85 || n == 0xA0 || n == 0x1680 ||
    (0x2000 ≤ n && n ≤ 0x200A) || n == 0x2028 || n == 0x2029 || n == 0x202F || n == 0x205F ||
    n == 0x3000

theorem isBlank_space : isBlank ' ' = true := by decide

/-- Drops the blanks at both ends. -/
def trimmed (cs : List Char) : List Char :=
  ((cs.dropWhile isBlank).reverse.dropWhile isBlank).reverse

/-- The text without the blanks at its ends. -/
def trim (s : String) : String := .ofList (trimmed s.toList)

/-- The words of `cs`, where `word` (last character first) has been read of the first one. -/
def wordsFrom (word : List Char) : List Char → List (List Char)
  | [] => if word.isEmpty then [] else [word.reverse]
  | c :: cs =>
    if isBlank c then
      if word.isEmpty then wordsFrom [] cs else word.reverse :: wordsFrom [] cs
    else wordsFrom (c :: word) cs

/-- The longest runs of characters that are not blank, in order. -/
def words (cs : List Char) : List (List Char) := wordsFrom [] cs

/-- The words of a text with one space between them. -/
def squeeze (cs : List Char) : List Char := [' '].intercalate (words cs)

theorem wordsFrom_ne_nil {word cs : List Char} : ∀ w ∈ wordsFrom word cs, w ≠ [] := by
  induction cs generalizing word with
  | nil => cases word <;> simp [wordsFrom]
  | cons c cs ih =>
    intro w hw
    rw [wordsFrom] at hw
    split at hw
    · split at hw
      · exact ih w hw
      · rcases List.mem_cons.1 hw with rfl | hw
        · cases word <;> simp_all
        · exact ih w hw
    · exact ih w hw

/-- No word is empty. -/
theorem words_ne_nil {cs : List Char} : ∀ w ∈ words cs, w ≠ [] := wordsFrom_ne_nil

theorem wordsFrom_not_isBlank {word cs : List Char} (h : ∀ c ∈ word, isBlank c = false) :
    ∀ w ∈ wordsFrom word cs, ∀ c ∈ w, isBlank c = false := by
  induction cs generalizing word with
  | nil =>
    intro w hw c hc
    cases word with
    | nil => simp [wordsFrom] at hw
    | cons a word =>
      simp only [wordsFrom, List.isEmpty_cons, Bool.false_eq_true, if_false,
        List.mem_singleton] at hw
      subst hw
      exact h c (List.mem_reverse.1 hc)
  | cons a cs ih =>
    intro w hw c hc
    rw [wordsFrom] at hw
    split at hw
    · split at hw
      · exact ih (by simp) w hw c hc
      · rcases List.mem_cons.1 hw with rfl | hw
        · exact h c (List.mem_reverse.1 hc)
        · exact ih (by simp) w hw c hc
    · rename_i ha
      refine ih ?_ w hw c hc
      intro b hb
      rcases List.mem_cons.1 hb with rfl | hb
      · simpa using ha
      · exact h b hb

/-- No word holds a blank. -/
theorem words_not_isBlank {cs : List Char} : ∀ w ∈ words cs, ∀ c ∈ w, isBlank c = false :=
  wordsFrom_not_isBlank (by simp)

end Geocoding.Text
