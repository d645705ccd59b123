import Geocoding.Proofs.Template.Insertion
import Mathlib.Data.List.TakeWhile

/-!
# Parts inserted one after the other

A part that is inserted later is also inserted into what has been inserted before. It makes no difference where no value
begins a later placeholder and no placeholder goes on from the line into a value.
-/

namespace Geocoding

variable {key line cs : List Char} {first rest parts : List (List Char × List Char)}

/-- Every brace of a line that opens is closed before another one opens. -/
def Closed (line : List Char) : Prop :=
  ∀ tail ∈ line.tails, tail.head? = some '\x7b' → '\x7d' ∈ tail.tail.takeWhile (· ≠ '\x7b')

instance : Decidable (Closed line) := inferInstanceAs (Decidable (∀ tail ∈ line.tails, _))

theorem Closed.exists_isPlaceholder (h : Closed line) (hs : '\x7b' :: cs <:+ line) :
    ∃ key, IsPlaceholder key ∧ key <+: '\x7b' :: cs := by
  have hclosed : '\x7d' ∈ cs.takeWhile (· ≠ '\x7b') := h _ ((List.mem_tails _ _).mpr hs) rfl
  obtain ⟨name, more, hname, hclose⟩ := List.eq_append_cons_of_mem hclosed
  have hopen : '\x7b' ∉ name := by
    intro ho
    have hin : '\x7b' ∈ cs.takeWhile (· ≠ '\x7b') := by
      rw [hname]
      exact List.mem_append_left _ ho
    simpa using List.mem_takeWhile_imp hin
  refine ⟨'\x7b' :: name ++ ['\x7d'], ⟨name, hopen, hclose, rfl⟩, ?_⟩
  have hpre : name ++ '\x7d' :: more <+: cs := hname ▸ List.takeWhile_prefix _
  rw [List.cons_append, List.cons_prefix_cons]
  refine ⟨rfl, List.IsPrefix.trans ⟨more, ?_⟩ hpre⟩
  simp

/-- In a line whose braces are closed every brace belongs to a placeholder already. -/
theorem keptApart_of_closed (hk : ArePlaced (first ++ rest)) (h : Closed line) : KeptApart first rest line := by
  intro c cs hs hfirst part hpart hpre
  have hother : insertAll first (c :: cs) = c :: insertAll first cs := insertAll_other hfirst
  have hkey : IsPlaceholder part.1 := hk.right.isPlaceholder _ hpart
  have hc : c = '\x7b' := by
    obtain ⟨name, -, -, hname⟩ := hkey
    rw [hname] at hpre
    exact (List.cons_prefix_cons.mp hpre).1.symm
  subst hc
  obtain ⟨key, hplaceholder, more, hmore⟩ := h.exists_isPlaceholder hs
  have hinert : ∀ p ∈ first, Inert p.1 key := fun p hp => by
    refine (hk.left.isPlaceholder _ hp).inert hplaceholder ?_
    rintro rfl
    exact hfirst p hp ⟨more, hmore⟩
  rw [← hother, ← hmore, insertAll_inert hinert] at hpre
  have hsame : part.1 = key := hkey.eq_of_begins hplaceholder hpre (List.prefix_append ..)
  exact hsame ▸ ⟨more, hmore⟩

/-- What comes before the first brace is of the line. -/
theorem prefix_of_prefix_insertAll (hk : ArePlaced parts) (h : ∀ part ∈ parts, part.2.head? = some '\x7b')
    {text : List Char} (htext : '\x7b' ∉ text) (hpre : text <+: insertAll parts line) : text <+: line := by
  induction hk.reads line generalizing text with
  | nil => exact hpre
  | placeholder hp _ ih =>
    obtain ⟨value, rfl⟩ := List.head?_eq_some_iff.mp (h _ hp)
    rw [insertAll_placeholder hk hp, List.cons_append] at hpre
    cases text with
    | nil => exact List.nil_prefix
    | cons a text =>
      obtain ⟨rfl, -⟩ := List.cons_prefix_cons.mp hpre
      exact absurd List.mem_cons_self htext
  | other hc _ ih =>
    rw [insertAll_other hc] at hpre
    cases text with
    | nil => exact List.nil_prefix
    | cons a text =>
      obtain ⟨rfl, htail⟩ := List.cons_prefix_cons.mp hpre
      exact List.cons_prefix_cons.mpr ⟨rfl, ih (fun ho => htext (List.mem_cons_of_mem _ ho)) htail⟩

/-- No placeholder goes on into a value that begins with a brace. -/
theorem keptApart_of_opening (hk : ArePlaced (first ++ rest)) (h : ∀ part ∈ first, part.2.head? = some '\x7b') :
    KeptApart first rest line := by
  intro c cs _ _ part hpart hpre
  obtain ⟨name, hopen, -, hname⟩ := hk.right.isPlaceholder _ hpart
  rw [hname, List.cons_append, List.cons_prefix_cons] at hpre ⊢
  exact ⟨hpre.1, prefix_of_prefix_insertAll hk.left h (by simp [hopen]) hpre.2⟩

/-- Filling in one part after the other is filling in all at once if no earlier value begins a later placeholder. -/
theorem foldl_replaceAll_eq_insertAll (hk : ArePlaced parts)
    (hvalues : parts.Pairwise fun earlier later => Inert later.1 earlier.2)
    (hline : ∀ first part, first ++ [part] <+: parts → KeptApart first [part] line) :
    parts.foldl (fun line part => replaceAll part.1 part.2 line) line = insertAll parts line := by
  -- The last part is inserted into what the others have made, so it is taken off first.
  induction parts using List.reverseRecOn with
  | nil => rw [List.foldl_nil, insertAll_nil_left]
  | append_singleton parts part ih =>
    have hk' : ArePlaced parts := hk.left
    rw [List.pairwise_append] at hvalues
    have hvalue : ∀ p ∈ parts, ∀ cs, insertAll [part] (p.2 ++ cs) = id p.2 ++ insertAll [part] cs := fun p hp cs =>
      insertAll_inert fun later hlater => hvalues.2.2 p hp later hlater
    rw [List.foldl_append, List.foldl_cons, List.foldl_nil,
      ih hk' hvalues.1 fun first p hfirst => hline first p (hfirst.trans (List.prefix_append ..)),
      replaceAll_eq_insertAll, insertAll_insertAll hk hvalue (hline parts part List.prefix_rfl)]
    simp

theorem foldl_replaceAll_absent (hk : ArePlaced parts) (h : ∀ part ∈ parts, ¬ part.1 <:+: line) :
    parts.foldl (fun line part => replaceAll part.1 part.2 line) line = line := by
  induction parts with
  | nil => rfl
  | cons part parts ih =>
    have hsame : replaceAll part.1 part.2 line = line := by
      have hone : ArePlaced ([part] ++ []) := hk.sublist (List.singleton_sublist.mpr List.mem_cons_self)
      have hin : ∀ p ∈ [part], ¬ p.1 <:+: line := by simpa using h part List.mem_cons_self
      rw [replaceAll_eq_insertAll, ← List.append_nil [(part.1, part.2)], insertAll_absent hone hin, insertAll_nil_left]
    rw [List.foldl_cons, hsame]
    exact ih (hk.sublist (List.sublist_cons_self _ _)) fun p hp => h p (List.mem_cons_of_mem _ hp)

end Geocoding
