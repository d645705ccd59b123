import Geocoding.Json.Token
import Geocoding.Json.Writer
import Geocoding.Proofs.Json.Number

/-!
# Scanning a text part by part

A part of a text that is scanned alone gives the same tokens inside a longer text, if a character follows it that
ends words and numbers. An escaped text gives one token, whatever follows.
-/

namespace Geocoding.Json

variable {m next : Mode} {c : Char} {cs rest : List Char} {ts : List Token}

theorem scanFrom_cons (h : m.step? c = some (ts, next)) :
    scanFrom m (c :: cs) = (scanFrom next cs).map (ts ++ ·) := by
  simp only [scanFrom, h]
  show ((scanFrom next cs).bind fun later => some (ts ++ later)) = _
  cases scanFrom next cs with
  | none => rfl
  | some later => rfl

theorem scanFrom_silent (h : m.step? c = some ([], next)) : scanFrom m (c :: cs) = scanFrom next cs := by
  rw [scanFrom_cons h]
  simp

theorem scanFrom_cons_eq_some (h : scanFrom m (c :: cs) = some ts) :
    ∃ first next later, m.step? c = some (first, next) ∧ scanFrom next cs = some later ∧
      ts = first ++ later := by
  cases hs : m.step? c with
  | none => simp [scanFrom, hs] at h
  | some x =>
    obtain ⟨first, next⟩ := x
    rw [scanFrom_cons hs, Option.map_eq_some_iff] at h
    obtain ⟨later, hl, rfl⟩ := h
    exact ⟨first, next, later, rfl, hl, rfl⟩

theorem scan_cons (h : start? c = some (ts, .between)) : scan (c :: cs) = (scan cs).map (ts ++ ·) :=
  scanFrom_cons h

/-- Whether a character is no part of a word or a number. -/
def separates (c : Char) : Bool := !(c.isAlphanum || c == '+' || c == '-' || c == '.')

theorem step?_of_separates {done : List Token} (hs : separates c = true) (hm : m.finish? = some done)
    (hc : start? c = some (ts, next)) : m.step? c = some (done ++ ts, next) := by
  simp only [separates, Bool.not_eq_true', Bool.or_eq_false_iff] at hs
  obtain ⟨⟨⟨hword, hplus⟩, hminus⟩, hpoint⟩ := hs
  cases m with
  | between =>
    obtain rfl := Option.some.inj hm
    exact hc
  | word read =>
    have halpha : c.isAlpha = false := (Bool.or_eq_false_iff.mp hword).1
    simp [Mode.step?, halpha, hm, hc]
  | number read => simp [Mode.step?, hword, hplus, hminus, hpoint, hm, hc]
  | text read => cases hm
  | escape read => cases hm
  | hex read value missing => cases hm

/-- The text begins with a token of one character, which is no part of a word or a number. -/
def EndsToken (cs : List Char) : Prop :=
  ∃ c rest us, cs = c :: rest ∧ separates c = true ∧ start? c = some (us, .between)

theorem scanFrom_append (hr : EndsToken rest) (h : scanFrom m cs = some ts) :
    scanFrom m (cs ++ rest) = (scan rest).map (ts ++ ·) := by
  induction cs generalizing m ts with
  | nil =>
    -- The next character finishes the word or number at the end of the part, as the end of the text did.
    obtain ⟨c, rest, us, rfl, hs, hc⟩ := hr
    rw [List.nil_append, scanFrom_cons (step?_of_separates hs h hc), scan_cons hc, Option.map_map]
    simp [Function.comp_def, scan]
  | cons d cs ih =>
    obtain ⟨first, next, later, hd, hl, rfl⟩ := scanFrom_cons_eq_some h
    rw [List.cons_append, scanFrom_cons hd, ih hl, Option.map_map]
    simp [Function.comp_def]

/-! ### Numbers -/

theorem scanFrom_number (h : ∀ c ∈ cs, isNumeric c = true) (read : List Char) :
    scanFrom (.number read) cs = (Number.ofChars? (read.reverse ++ cs)).map fun n => [.number n] := by
  induction cs generalizing read with
  | nil => simp [scanFrom, Mode.finish?]
  | cons c cs ih =>
    obtain ⟨hc, hcs⟩ := List.forall_mem_cons.mp h
    have hstep : (Mode.number read).step? c = some ([], .number (c :: read)) := by
      simp only [isNumeric, Bool.or_eq_true, beq_iff_eq] at hc
      rcases hc with (((hc | rfl) | rfl) | rfl) | rfl
      · simp [Mode.step?, Char.isAlphanum, hc]
      · rfl
      · rfl
      · rfl
      · rfl
    rw [scanFrom_silent hstep, ih hcs]
    simp

theorem start?_of_isDigit (hc : c.isDigit = true) : start? c = some ([], .number [c]) := by
  unfold start?
  split
  case h_12 => simp [not_isAlpha_of_isDigit hc, hc]
  all_goals exact absurd hc (by decide)

theorem scan_number (hc : c.isDigit = true ∨ c = '-') (hcs : ∀ c ∈ cs, isNumeric c = true) :
    scan (c :: cs) = (Number.ofChars? (c :: cs)).map fun n => [.number n] := by
  have hstart : start? c = some ([], .number [c]) := by
    rcases hc with hc | rfl
    · exact start?_of_isDigit hc
    · rfl
  rw [scan, scanFrom_silent (m := .between) hstart, scanFrom_number hcs]
  rfl

/-! ### Texts -/

theorem hexValue?_hexDigit {n : Nat} (h : n < 16) : hexValue? (hexDigit n) = some n := by
  have hall : ∀ n : Fin 16, hexValue? (hexDigit n) = some n.val := by decide
  exact hall ⟨n, h⟩

theorem escapedChar_cases (c : Char) :
    (∃ e, e ≠ 'u' ∧ shortEscape? e = some c ∧ escapedChar c = ['\\', e]) ∨
    (c.toNat < 0x20 ∧
      escapedChar c = ['\\', 'u', '0', '0', hexDigit (c.toNat / 16), hexDigit (c.toNat % 16)]) ∨
    (c ≠ '"' ∧ c ≠ '\\' ∧ 0x20 ≤ c.toNat ∧ escapedChar c = [c]) := by
  unfold escapedChar
  split
  · exact .inl ⟨'"', by decide, rfl, rfl⟩
  · exact .inl ⟨'\\', by decide, rfl, rfl⟩
  · exact .inl ⟨'b', by decide, rfl, rfl⟩
  · exact .inl ⟨'f', by decide, rfl, rfl⟩
  · exact .inl ⟨'n', by decide, rfl, rfl⟩
  · exact .inl ⟨'r', by decide, rfl, rfl⟩
  · exact .inl ⟨'t', by decide, rfl, rfl⟩
  · next hquote hbackslash _ _ _ _ _ =>
    split
    · next hc => exact .inr (.inl ⟨hc, rfl⟩)
    · next hc => exact .inr (.inr ⟨hquote, hbackslash, by omega, rfl⟩)

/-- What is read for a character of a text. -/
structure Spells (u : TextUnit) (c : Char) : Prop where
  assemble_cons : ∀ us, assemble (u :: us) = (assemble us).map (c :: ·)
  scanFrom_escapedChar : ∀ read rest,
    scanFrom (.text read) (escapedChar c ++ rest) = scanFrom (.text (u :: read)) rest

theorem assemble_code (hc : c.toNat < 0x20) (us : List TextUnit) :
    assemble (.code c.toNat :: us) = (assemble us).map (c :: ·) := by
  have hhigh : ¬ (0xD800 ≤ c.toNat ∧ c.toNat < 0xDC00) := by omega
  have hlow : ¬ (0xDC00 ≤ c.toNat ∧ c.toNat < 0xE000) := by omega
  have hchar : Char.ofNat c.toNat = c := Char.ofNat_toNat c
  rw [assemble.eq_def]
  simp only [Bool.and_eq_true, decide_eq_true_eq, hhigh, hlow, hchar, if_false]

theorem exists_spells (c : Char) : ∃ u, Spells u c := by
  obtain ⟨e, hne, he, hc⟩ | ⟨hlt, hc⟩ | ⟨hquote, hbackslash, hge, hc⟩ := escapedChar_cases c
  · refine ⟨.char c, fun _ => rfl, fun read rest => ?_⟩
    have hescape : (Mode.escape read).step? e = some ([], .text (.char c :: read)) := by
      simp [Mode.step?, hne, he]
    rw [hc]
    exact (scanFrom_silent rfl).trans (scanFrom_silent hescape)
  · -- Of the four digits the first two are zeros, so the code is no half of a pair.
    refine ⟨.code c.toNat, assemble_code hlt, fun read rest => ?_⟩
    have hfirst := hexValue?_hexDigit (n := c.toNat / 16) (by omega)
    have hsecond := hexValue?_hexDigit (n := c.toNat % 16) (by omega)
    have hvalue : c.toNat / 16 * 16 + c.toNat % 16 = c.toNat := by omega
    have hhigh : (Mode.hex read 0 2).step? (hexDigit (c.toNat / 16)) =
        some ([], .hex read (c.toNat / 16) 1) := by
      simp [Mode.step?, hfirst]
    have hlow : (Mode.hex read (c.toNat / 16) 1).step? (hexDigit (c.toNat % 16)) =
        some ([], .text (.code c.toNat :: read)) := by
      simp [Mode.step?, hsecond, hvalue]
    rw [hc]
    calc scanFrom (.text read) ('\\' :: 'u' :: '0' :: '0' :: _)
        _ = scanFrom (.hex read 0 2) (hexDigit (c.toNat / 16) :: hexDigit (c.toNat % 16) :: rest) := by
          rw [scanFrom_silent rfl, scanFrom_silent rfl, scanFrom_silent rfl, scanFrom_silent rfl]
          rfl
        _ = scanFrom (.text (.code c.toNat :: read)) rest := by
          rw [scanFrom_silent hhigh, scanFrom_silent hlow]
  · refine ⟨.char c, fun _ => rfl, fun read rest => ?_⟩
    have hchar : (Mode.text read).step? c = some ([], .text (.char c :: read)) := by
      simp [Mode.step?, hquote, hbackslash, hge]
    rw [hc]
    exact scanFrom_silent hchar

theorem exists_spelling (cs : List Char) : ∃ us, assemble us = some cs ∧ ∀ read rest,
    scanFrom (.text read) (cs.flatMap escapedChar ++ rest) = scanFrom (.text (us.reverse ++ read)) rest := by
  induction cs with
  | nil => exact ⟨[], rfl, fun _ _ => rfl⟩
  | cons c cs ih =>
    obtain ⟨us, hus, hscan⟩ := ih
    obtain ⟨u, hu⟩ := exists_spells c
    refine ⟨u :: us, by rw [hu.assemble_cons, hus]; rfl, fun read rest => ?_⟩
    rw [List.flatMap_cons, List.append_assoc, hu.scanFrom_escapedChar, hscan]
    simp

/-- A text is read back as it was written. -/
theorem scan_textOf (s : String) (rest : List Char) :
    scan (textOf s ++ rest) = (scan rest).map (.text (some s) :: ·) := by
  obtain ⟨us, hus, hscan⟩ := exists_spelling s.toList
  have hclose : (Mode.text us.reverse).step? '"' = some ([.text (some s)], .between) := by
    simp [Mode.step?, hus]
  have hopen : Mode.between.step? '"' = some ([], .text []) := rfl
  have h := hscan [] ('"' :: rest)
  rw [List.append_nil] at h
  calc scan (textOf s ++ rest)
      _ = scanFrom .between ('"' :: (s.toList.flatMap escapedChar ++ '"' :: rest)) := by
        simp [scan, textOf]
      _ = scanFrom (.text us.reverse) ('"' :: rest) := by rw [scanFrom_silent hopen, h]
      _ = (scan rest).map (.text (some s) :: ·) := scanFrom_cons hclose

end Geocoding.Json
