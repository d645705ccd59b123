import Geocoding.Template
import Mathlib.Data.List.Infix
import Mathlib.Data.List.Nodup

/-!
# Parts inserted all at once

A line is read once from the left: where the placeholder of a part stands its value is written, and every other
character stays. What is written is never read, which is not so when the parts are filled in one after the other.
-/

namespace Geocoding

variable {key key' value text line cs : List Char} {c : Char} {parts first rest : List (List Char × List Char)}

/-- Writes the value of a part in place of each occurrence of its placeholder, from the left; `skip` characters belong
to a placeholder already read. -/
def insertFrom (parts : List (List Char × List Char)) : Nat → List Char → List Char
  | _, [] => []
  | skip + 1, _ :: cs => insertFrom parts skip cs
  | 0, c :: cs =>
    match parts.find? fun part => part.1.isPrefixOf (c :: cs) with
    | some (key, value) => value ++ insertFrom parts (key.length - 1) cs
    | none => c :: insertFrom parts 0 cs

/-- Inserts the values of all parts at once. -/
def insertAll (parts : List (List Char × List Char)) (line : List Char) : List Char := insertFrom parts 0 line

theorem insertFrom_eq_drop (parts : List (List Char × List Char)) (skip : Nat) (cs : List Char) :
    insertFrom parts skip cs = insertAll parts (cs.drop skip) := by
  induction cs generalizing skip with
  | nil => rw [List.drop_nil]; cases skip <;> rfl
  | cons c cs ih =>
    cases skip with
    | zero => rfl
    | succ skip => exact ih skip

theorem replaceAll_eq_insertAll (key value cs : List Char) : replaceAll key value cs = insertAll [(key, value)] cs := by
  have hfrom (skip : Nat) : replaceFrom key value skip cs = insertFrom [(key, value)] skip cs := by
    induction cs generalizing skip with
    | nil => cases skip <;> rfl
    | cons c cs ih =>
      cases skip with
      | succ skip => exact ih skip
      | zero =>
        rw [replaceFrom, insertFrom, ih, ih]
        cases hp : key.isPrefixOf (c :: cs) <;> simp [hp]
  exact hfrom 0

/-! ### Placeholders -/

/-- A name between braces. -/
def IsPlaceholder (key : List Char) : Prop :=
  ∃ name : List Char, '\x7b' ∉ name ∧ '\x7d' ∉ name ∧ key = '\x7b' :: name ++ ['\x7d']

/-- Every part has a placeholder of its own. -/
structure ArePlaced (parts : List (List Char × List Char)) : Prop where
  isPlaceholder : ∀ part ∈ parts, IsPlaceholder part.1
  nodup : (parts.map Prod.fst).Nodup

theorem ArePlaced.sublist {parts' : List (List Char × List Char)} (hk : ArePlaced parts) (h : parts'.Sublist parts) :
    ArePlaced parts' :=
  ⟨fun part hp => hk.isPlaceholder part (h.subset hp), hk.nodup.sublist (h.map _)⟩

theorem IsPlaceholder.ne_nil (hk : IsPlaceholder key) : key ≠ [] := by
  obtain ⟨name, -, -, rfl⟩ := hk
  exact List.cons_ne_nil _ _

/-- A text has one name after the brace that it begins with. -/
theorem IsPlaceholder.eq_of_begins (hk : IsPlaceholder key) (hk' : IsPlaceholder key') (h : key <+: cs)
    (h' : key' <+: cs) : key = key' := by
  have hname {name : List Char} (hn : '\x7d' ∉ name) (h : '\x7b' :: name ++ ['\x7d'] <+: cs) :
      name = cs.tail.takeWhile (· ≠ '\x7d') := by
    obtain ⟨more, rfl⟩ := h
    have hall : ∀ c ∈ name, decide (c ≠ '\x7d') = true := fun c hc => by
      rw [decide_eq_true_eq]
      rintro rfl
      exact hn hc
    rw [List.cons_append, List.cons_append, List.tail_cons, List.append_assoc, List.takeWhile_append_of_pos hall]
    simp
  obtain ⟨name, -, hn, rfl⟩ := hk
  obtain ⟨name', -, hn', rfl⟩ := hk'
  rw [hname hn h, hname hn' h']

/-- No occurrence of `key` begins in the text, whatever comes after it. -/
def Inert (key text : List Char) : Prop :=
  ∀ tail ∈ text.tails, tail ≠ [] → ¬ (tail <+: key ∨ key <+: tail)

instance : Decidable (Inert key text) := inferInstanceAs (Decidable (∀ tail ∈ text.tails, _))

theorem Inert.of_cons (h : Inert key (c :: text)) : Inert key text :=
  fun tail ht => h tail ((List.mem_tails _ _).mpr (((List.mem_tails _ _).mp ht).trans (List.suffix_cons c text)))

theorem Inert.not_begins (h : Inert key (c :: text)) : ¬ key <+: c :: (text ++ cs) := by
  intro hk
  have htext : c :: text <+: c :: (text ++ cs) := List.prefix_append ..
  exact h (c :: text) ((List.mem_tails _ _).mpr List.suffix_rfl) (List.cons_ne_nil _ _)
    (List.prefix_or_prefix_of_prefix htext hk)

/-- An occurrence that does not begin in the text is in what follows. -/
theorem Inert.infix_of_append (h : Inert key text) (hk : key <:+: text ++ cs) : key <:+: cs := by
  induction text with
  | nil => exact hk
  | cons c text ih =>
    rw [List.cons_append, List.infix_cons_iff] at hk
    exact ih h.of_cons (hk.resolve_left h.not_begins)

theorem IsPlaceholder.inert_of_not_mem (hk : IsPlaceholder key) (h : '\x7b' ∉ text) : Inert key text := by
  obtain ⟨name, -, -, rfl⟩ := hk
  intro tail ht hne hor
  obtain ⟨c, tail, rfl⟩ := List.exists_cons_of_ne_nil hne
  have hc : c = '\x7b' := by
    rcases hor with hp | hp
    · exact (List.cons_prefix_cons.mp hp).1
    · exact (List.cons_prefix_cons.mp hp).1.symm
  subst hc
  exact h (((List.mem_tails _ _).mp ht).subset List.mem_cons_self)

/-- One placeholder does not begin in another. -/
theorem IsPlaceholder.inert (hk : IsPlaceholder key) (hk' : IsPlaceholder key') (hne : key ≠ key') :
    Inert key key' := by
  intro tail ht htail hor
  obtain ⟨name, ho, -, rfl⟩ := id hk'
  rcases List.suffix_cons_iff.mp ((List.mem_tails _ _).mp ht) with rfl | ht
  · rcases hor with hp | hp
    · exact hne (hk.eq_of_begins hk' List.prefix_rfl hp)
    · exact hne (hk.eq_of_begins hk' hp List.prefix_rfl)
  · have hopen : '\x7b' ∉ name ++ ['\x7d'] := by simp [ho]
    exact hk.inert_of_not_mem hopen tail ((List.mem_tails _ _).mpr ht) htail hor

/-! ### Reading a line -/

/-- A line falls into placeholders and characters at which none begins. -/
inductive Reads (parts : List (List Char × List Char)) : List Char → Prop
  | nil : Reads parts []
  | placeholder {key value cs : List Char} (hp : (key, value) ∈ parts) (h : Reads parts cs) : Reads parts (key ++ cs)
  | other {c : Char} {cs : List Char} (hc : ∀ part ∈ parts, ¬ part.1 <+: c :: cs) (h : Reads parts cs) :
    Reads parts (c :: cs)

theorem ArePlaced.reads (hk : ArePlaced parts) (line : List Char) : Reads parts line := by
  induction hn : line.length using Nat.strong_induction_on generalizing line with
  | h n ih =>
    subst hn
    cases line with
    | nil => exact .nil
    | cons c cs =>
      by_cases hin : ∃ part ∈ parts, part.1 <+: c :: cs
      · -- A placeholder is not empty, so what comes after it is shorter.
        obtain ⟨⟨key, value⟩, hp, more, hmore⟩ := hin
        have hpos : 0 < key.length := List.length_pos_of_ne_nil (hk.isPlaceholder _ hp).ne_nil
        dsimp only at hmore
        rw [← hmore]
        exact .placeholder hp (ih more.length (by rw [← hmore, List.length_append]; omega) more rfl)
      · exact .other (fun part hp h => hin ⟨part, hp, h⟩) (ih cs.length (by simp) cs rfl)

/-! ### What is inserted where -/

theorem insertAll_other (h : ∀ part ∈ parts, ¬ part.1 <+: c :: cs) :
    insertAll parts (c :: cs) = c :: insertAll parts cs := by
  have hfind : parts.find? (fun part => part.1.isPrefixOf (c :: cs)) = none :=
    List.find?_eq_none.mpr fun part hp => by
      rw [List.isPrefixOf_iff_prefix]
      exact h part hp
  rw [insertAll, insertFrom, hfind]
  rfl

@[simp] theorem insertAll_nil_left (line : List Char) : insertAll [] line = line := by
  induction line with
  | nil => rfl
  | cons c line ih => rw [insertAll_other (by simp), ih]

theorem find?_placeholder (hk : ArePlaced parts) (h : (key, value) ∈ parts) (cs : List Char) :
    parts.find? (fun part => part.1.isPrefixOf (key ++ cs)) = some (key, value) := by
  cases hf : parts.find? (fun part => part.1.isPrefixOf (key ++ cs)) with
  | none => exact absurd (List.prefix_append key cs) (by simpa using List.find?_eq_none.mp hf _ h)
  | some part =>
    have hmem : part ∈ parts := List.mem_of_find?_eq_some hf
    have hpre : part.1 <+: key ++ cs := by simpa using List.find?_some hf
    have hsame : part.1 = key :=
      (hk.isPlaceholder _ hmem).eq_of_begins (hk.isPlaceholder _ h) hpre (List.prefix_append ..)
    exact congrArg some (List.inj_on_of_nodup_map hk.nodup hmem h hsame)

theorem insertAll_placeholder (hk : ArePlaced parts) (h : (key, value) ∈ parts) :
    insertAll parts (key ++ cs) = value ++ insertAll parts cs := by
  have hfind := find?_placeholder hk h cs
  obtain ⟨name, -, -, rfl⟩ : IsPlaceholder key := hk.isPlaceholder _ h
  rw [List.cons_append, List.cons_append] at hfind ⊢
  rw [insertAll, insertFrom, hfind]
  simp [insertFrom_eq_drop]

theorem insertAll_inert (h : ∀ part ∈ parts, Inert part.1 text) :
    insertAll parts (text ++ cs) = text ++ insertAll parts cs := by
  induction text with
  | nil => rfl
  | cons c text ih =>
    rw [List.cons_append, insertAll_other fun part hp => (h part hp).not_begins, ih fun part hp => (h part hp).of_cons]
    rfl

/-- No placeholder of the other parts begins with a character of the line and ends in what has been inserted. -/
def KeptApart (first rest : List (List Char × List Char)) (line : List Char) : Prop :=
  ∀ c cs, c :: cs <:+ line → (∀ part ∈ first, ¬ part.1 <+: c :: cs) →
    ∀ part ∈ rest, part.1 <+: c :: insertAll first cs → part.1 <+: c :: cs

/-! ### Two lots of parts -/

section Lots

variable {become : List Char → List Char}

theorem map_fst_values :
    (first.map (Prod.map id become) ++ rest).map Prod.fst = (first ++ rest).map Prod.fst := by
  simp

theorem mem_values (h : (key, value) ∈ first) : (key, become value) ∈ first.map (Prod.map id become) ++ rest :=
  List.mem_append_left rest (List.mem_map.mpr ⟨(key, value), h, rfl⟩)

/-- What holds of every placeholder does not depend on the values. -/
theorem forall_values {P : List Char → Prop} (become : List Char → List Char)
    (h : ∀ part ∈ first ++ rest, P part.1) :
    ∀ part ∈ first.map (Prod.map id become) ++ rest, P part.1 := by
  intro part hp
  obtain ⟨part', hp', hsame⟩ := List.mem_map.mp (map_fst_values ▸ List.mem_map_of_mem hp)
  exact hsame ▸ h part' hp'

variable (hk : ArePlaced (first ++ rest))

include hk

theorem ArePlaced.left : ArePlaced first := hk.sublist (List.sublist_append_left first rest)

theorem ArePlaced.right : ArePlaced rest := hk.sublist (List.sublist_append_right first rest)

theorem ArePlaced.values (become : List Char → List Char) : ArePlaced (first.map (Prod.map id become) ++ rest) :=
  ⟨forall_values become hk.isPlaceholder, by rw [map_fst_values]; exact hk.nodup⟩

/-- A placeholder of the other parts stays while the first parts are inserted. -/
theorem ArePlaced.inert (h : (key, value) ∈ rest) : ∀ part ∈ first, Inert part.1 key := by
  intro part hp
  have hnodup := hk.nodup
  rw [List.map_append, List.nodup_append] at hnodup
  have hne : part.1 ≠ key := hnodup.2.2 _ (List.mem_map_of_mem hp) _ (List.mem_map_of_mem h)
  exact (hk.left.isPlaceholder _ hp).inert (hk.right.isPlaceholder _ h) hne

/-- Where none of them occurs the first parts might as well not be there. -/
theorem insertAll_absent (h : ∀ part ∈ first, ¬ part.1 <:+: line) :
    insertAll (first ++ rest) line = insertAll rest line := by
  induction hk.reads line with
  | nil => rfl
  | @placeholder key value cs hp _ ih =>
    have hcs := ih fun part hp hin => h part hp (hin.trans (List.suffix_append key cs).isInfix)
    rcases List.mem_append.mp hp with hfirst | hrest
    · exact absurd (List.prefix_append key cs).isInfix (h _ hfirst)
    · rw [insertAll_placeholder hk hp, insertAll_placeholder hk.right hrest, hcs]
  | @other c cs hc _ ih =>
    have hcs := ih fun part hp hin => h part hp (hin.trans (List.suffix_cons c cs).isInfix)
    rw [insertAll_other hc, insertAll_other fun part hp => hc part (List.mem_append_right first hp), hcs]

/-- Inserting the other parts afterwards is inserting all at once, with what the values become afterwards. -/
theorem insertAll_insertAll
    (hvalue : ∀ part ∈ first, ∀ cs, insertAll rest (part.2 ++ cs) = become part.2 ++ insertAll rest cs)
    (hline : KeptApart first rest line) :
    insertAll rest (insertAll first line) = insertAll (first.map (Prod.map id become) ++ rest) line := by
  have hk' := hk.values become
  induction hk.reads line with
  | nil => rfl
  | @placeholder key value cs hp _ ih =>
    have hcs := ih fun c tail htail => hline c tail (htail.trans (List.suffix_append key cs))
    rcases List.mem_append.mp hp with hfirst | hrest
    · rw [insertAll_placeholder hk.left hfirst, hvalue _ hfirst, insertAll_placeholder hk' (mem_values hfirst), hcs]
    · rw [insertAll_inert (hk.inert hrest), insertAll_placeholder hk.right hrest,
        insertAll_placeholder hk' (List.mem_append_right _ hrest), hcs]
  | @other c cs hc _ ih =>
    have hcs := ih fun c' tail htail => hline c' tail (htail.trans (List.suffix_cons c cs))
    have hfirst : ∀ part ∈ first, ¬ part.1 <+: c :: cs := fun part hp => hc part (List.mem_append_left rest hp)
    have hrest : ∀ part ∈ rest, ¬ part.1 <+: c :: insertAll first cs := fun part hp hpre =>
      hc part (List.mem_append_right first hp) (hline c cs List.suffix_rfl hfirst part hp hpre)
    have hall := forall_values (P := fun key => ¬ key <+: c :: cs) become hc
    rw [insertAll_other hfirst, insertAll_other hrest, insertAll_other hall, hcs]

/-- Where a value that holds a character more often is inserted, the character occurs more often. -/
theorem count_insertAll_lt
    (h : ∀ part ∈ first, (become part.2).count c < part.2.count c) :
    let fewer := insertAll (first.map (Prod.map id become) ++ rest) line
    let more := insertAll (first ++ rest) line
    fewer.count c ≤ more.count c ∧ ∀ part ∈ first, part.1 <:+: line → fewer.count c < more.count c := by
  dsimp only
  have hk' := hk.values become
  induction hk.reads line with
  | nil => exact ⟨Nat.le_refl _, fun part hp hin =>
      absurd (List.eq_nil_of_infix_nil hin) (hk.left.isPlaceholder _ hp).ne_nil⟩
  | @placeholder key value cs hp _ ih =>
    obtain ⟨hle, hlt⟩ := ih
    rcases List.mem_append.mp hp with hfirst | hrest
    · have hvalue : (become value).count c < value.count c := h _ hfirst
      rw [insertAll_placeholder hk' (mem_values hfirst), insertAll_placeholder hk hp, List.count_append,
        List.count_append]
      exact ⟨by omega, fun _ _ _ => by omega⟩
    · rw [insertAll_placeholder hk' (List.mem_append_right _ hrest), insertAll_placeholder hk hp, List.count_append,
        List.count_append]
      refine ⟨by omega, fun part hpart hin => ?_⟩
      have := hlt part hpart ((hk.inert hrest part hpart).infix_of_append hin)
      omega
  | @other a cs hc _ ih =>
    obtain ⟨hle, hlt⟩ := ih
    have hall := forall_values (P := fun key => ¬ key <+: a :: cs) become hc
    rw [insertAll_other hall, insertAll_other hc, List.count_cons, List.count_cons]
    refine ⟨by omega, fun part hpart hin => ?_⟩
    have hnot : ¬ part.1 <+: a :: cs := hc part (List.mem_append_left rest hpart)
    have := hlt part hpart ((List.infix_cons_iff.mp hin).resolve_left hnot)
    omega

end Lots

end Geocoding
