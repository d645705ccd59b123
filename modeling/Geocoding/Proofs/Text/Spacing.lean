import Geocoding.Proofs.Text.Words
import Mathlib.Data.List.Chain

/-!
# Texts with single spaces

A text is single-spaced if nothing in it is blank but single spaces between other characters. Squeezed texts are, and
so are such texts with commas between them; squeezing leaves them as they are. Which blanks stand between the words
of a text makes no difference to what it is squeezed to.
-/

namespace Geocoding.Text

variable {cs mark xs ys word : List Char} {ps : List (List Char)}

structure IsSingleSpaced (cs : List Char) : Prop where
  eq_space : ∀ c ∈ cs, isBlank c = true → c = ' '
  alone : cs.IsChain fun a b => isBlank a = false ∨ isBlank b = false
  head : ∀ c ∈ cs.head?, isBlank c = false
  last : ∀ c ∈ cs.getLast?, isBlank c = false

theorem isChain_of_no_blank (h : ∀ c ∈ cs, isBlank c = false) :
    cs.IsChain fun a b => isBlank a = false ∨ isBlank b = false := by
  induction cs with
  | nil => exact .nil
  | cons c cs ih =>
    obtain ⟨hc, hcs⟩ := List.forall_mem_cons.mp h
    exact List.isChain_cons.mpr ⟨fun _ _ => .inl hc, ih hcs⟩

theorem isSingleSpaced_of_no_blank (h : ∀ c ∈ cs, isBlank c = false) : IsSingleSpaced cs where
  eq_space c hc hb := by
    rw [h c hc] at hb
    cases hb
  alone := isChain_of_no_blank h
  head c hc := h c (List.mem_of_mem_head? hc)
  last c hc := h c (List.mem_of_getLast? hc)

theorem IsSingleSpaced.append (hmark : ∀ c ∈ mark, isBlank c = false) (hx : IsSingleSpaced xs) (hxs : xs ≠ [])
    (hy : IsSingleSpaced ys) (hys : ys ≠ []) : IsSingleSpaced (xs ++ (mark ++ [' '] ++ ys)) := by
  have hspace : (' ' :: ys).IsChain fun a b => isBlank a = false ∨ isBlank b = false :=
    List.isChain_cons.mpr ⟨fun c hc => .inr (hy.head c hc), hy.alone⟩
  refine ⟨?_, ?_, ?_, ?_⟩
  · simp only [List.mem_append, List.mem_singleton]
    rintro c (hc | (hc | hc) | hc) hb
    · exact hx.eq_space c hc hb
    · rw [hmark c hc] at hb
      cases hb
    · exact hc
    · exact hy.eq_space c hc hb
  · rw [List.append_assoc]
    refine List.isChain_append.mpr ⟨hx.alone, ?_, fun c hc _ _ => .inl (hx.last c hc)⟩
    exact List.isChain_append.mpr ⟨isChain_of_no_blank hmark, hspace,
      fun c hc _ _ => .inl (hmark c (List.mem_of_getLast? hc))⟩
  · rw [List.head?_append_of_ne_nil _ hxs]
    exact hx.head
  · rw [List.getLast?_append_of_ne_nil _ (by simp), List.getLast?_append_of_ne_nil _ hys]
    exact hy.last

theorem intercalate_ne_nil {sep : List Char} (h : ∀ p ∈ ps, p ≠ []) (hps : ps ≠ []) : sep.intercalate ps ≠ [] := by
  obtain ⟨p, ps, rfl⟩ := List.exists_cons_of_ne_nil hps
  have hp : p ≠ [] := h p List.mem_cons_self
  cases ps with
  | nil => rwa [List.intercalate_singleton]
  | cons q ps =>
    rw [List.intercalate_cons_cons]
    simp [hp]

/-- Single-spaced texts may be joined by any mark with a space after it. -/
theorem IsSingleSpaced.intercalate (hmark : ∀ c ∈ mark, isBlank c = false)
    (h : ∀ p ∈ ps, p ≠ [] ∧ IsSingleSpaced p) : IsSingleSpaced ((mark ++ [' ']).intercalate ps) := by
  induction ps with
  | nil =>
    have hnone : ∀ c ∈ ([] : List Char), isBlank c = false := by simp
    exact isSingleSpaced_of_no_blank hnone
  | cons p ps ih =>
    obtain ⟨⟨hne, hp⟩, hps⟩ := List.forall_mem_cons.mp h
    cases ps with
    | nil => rwa [List.intercalate_singleton]
    | cons q ps =>
      rw [List.intercalate_cons_cons, List.append_assoc]
      exact .append hmark hp hne (ih hps) (intercalate_ne_nil (fun r hr => (hps r hr).1) (List.cons_ne_nil q ps))

theorem isSingleSpaced_squeeze (cs : List Char) : IsSingleSpaced (squeeze cs) := by
  have hmark : ∀ c ∈ ([] : List Char), isBlank c = false := by simp
  exact .intercalate hmark fun w hw => ⟨words_ne_nil w hw, isSingleSpaced_of_no_blank (words_not_isBlank w hw)⟩

/-- The words of a single-spaced text, of which `word` has been read, with the spaces put back. -/
theorem intercalate_wordsFrom (hspace : ∀ c ∈ cs, isBlank c = true → c = ' ')
    (halone : cs.IsChain fun a b => isBlank a = false ∨ isBlank b = false)
    (hhead : word = [] → ∀ c ∈ cs.head?, isBlank c = false) (hlast : ∀ c ∈ cs.getLast?, isBlank c = false) :
    [' '].intercalate (wordsFrom word cs) = word.reverse ++ cs := by
  induction cs generalizing word with
  | nil => cases word <;> simp [wordsFrom]
  | cons c cs ih =>
    obtain ⟨hc, hcs⟩ := List.forall_mem_cons.mp hspace
    obtain ⟨hnext, hchain⟩ := List.isChain_cons.mp halone
    have hlast' : ∀ d ∈ cs.getLast?, isBlank d = false := by
      intro d hd
      refine hlast d ?_
      rw [List.getLast?_cons, hd]
      rfl
    rw [wordsFrom]
    by_cases hb : isBlank c = true
    · obtain rfl := hc hb
      have hword : word ≠ [] := by
        intro hw
        have h := hhead hw ' ' rfl
        rw [hb] at h
        cases h
      have hcs0 : cs ≠ [] := by
        rintro rfl
        have h := hlast ' ' rfl
        rw [hb] at h
        cases h
      have hhead' : ∀ d ∈ cs.head?, isBlank d = false := by
        intro d hd
        refine (hnext d hd).resolve_left ?_
        simp [hb]
      have hrest : [' '].intercalate (wordsFrom [] cs) = cs := ih hcs hchain (fun _ => hhead') hlast'
      obtain ⟨w, ws, hws⟩ : ∃ w ws, wordsFrom [] cs = w :: ws := by
        refine List.exists_cons_of_ne_nil fun h => hcs0 ?_
        rw [h] at hrest
        exact hrest.symm
      rw [if_pos hb, if_neg (by simp [hword]), hws, List.intercalate_cons_cons, ← hws, hrest]
      simp
    · rw [if_neg hb, ih hcs hchain (by simp) hlast']
      simp

theorem squeeze_of_isSingleSpaced (h : IsSingleSpaced cs) : squeeze cs = cs :=
  intercalate_wordsFrom h.eq_space h.alone (fun _ => h.head) h.last

theorem words_eq_nil_iff : words cs = [] ↔ ∀ c ∈ cs, isBlank c = true := by
  have hflat : words cs = [] ↔ (words cs).flatten = [] := by
    constructor
    · intro h
      rw [h, List.flatten_nil]
    · intro h
      rw [List.eq_nil_iff_forall_not_mem]
      exact fun w hw => words_ne_nil w hw (List.flatten_eq_nil_iff.mp h w hw)
  rw [hflat, flatten_words, List.filter_eq_nil_iff]
  simp

theorem squeeze_eq_nil_iff : squeeze cs = [] ↔ ∀ c ∈ cs, isBlank c = true := by
  rw [← words_eq_nil_iff]
  constructor
  · intro h
    by_contra hne
    exact intercalate_ne_nil words_ne_nil hne h
  · intro h
    rw [squeeze, h, List.intercalate_nil]

/-! ### One blank or another -/

/-- A space in the place of any blank. -/
def spaced (c : Char) : Char := if isBlank c then ' ' else c

theorem isBlank_spaced (c : Char) : isBlank (spaced c) = isBlank c := by
  unfold spaced
  split
  · next h => rw [isBlank_space, h]
  · rfl

theorem spaced_of_not_blank {c : Char} (h : isBlank c = false) : spaced c = c := by simp [spaced, h]

theorem spaced_spaced (c : Char) : spaced (spaced c) = spaced c := by
  by_cases h : isBlank c = true
  · simp [spaced, h, isBlank_space]
  · simp [spaced, h]

/-- Blanks are not taken for anything else, nor is anything else for a blank. -/
theorem spaced_eq_iff {c k : Char} (hk : isBlank k = false) : spaced c = k ↔ c = k := by
  constructor
  · rintro rfl
    rw [isBlank_spaced] at hk
    exact (spaced_of_not_blank hk).symm
  · rintro rfl
    exact spaced_of_not_blank hk

theorem wordsFrom_map_spaced (word cs : List Char) : wordsFrom word (cs.map spaced) = wordsFrom word cs := by
  induction cs generalizing word with
  | nil => rfl
  | cons c cs ih =>
    rw [List.map_cons, wordsFrom, wordsFrom, isBlank_spaced, ih, ih]
    by_cases hb : isBlank c = true
    · rw [if_pos hb, if_pos hb]
    · rw [if_neg hb, if_neg hb, spaced_of_not_blank (by simpa using hb)]

theorem squeeze_map_spaced (cs : List Char) : squeeze (cs.map spaced) = squeeze cs :=
  congrArg [' '].intercalate (wordsFrom_map_spaced [] cs)

end Geocoding.Text
