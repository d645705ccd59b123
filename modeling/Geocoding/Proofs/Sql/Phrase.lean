import Mathlib.Data.List.Infix

/-!
# Phrases in a text

Where a phrase stands in a text, and what follows it there. A text that is put together from parts has a phrase
where one of its parts has it, if the phrase cannot begin in one part and end in another.
-/

namespace Geocoding.Sql

/-- What follows the phrase at each place of `cs` where it ends; `read` is the text before `cs`, last character
first. -/
def followingFrom (phrase read : List Char) : List Char → List (List Char)
  | [] => []
  | c :: cs =>
    let later := followingFrom phrase (c :: read) cs
    if phrase.reverse <+: c :: read then cs :: later else later

/-- What follows the phrase at each place where it stands in a text. -/
def following (phrase cs : List Char) : List (List Char) := followingFrom phrase [] cs

variable {phrase read w cs rest : List Char} {ws : List (List Char)}

theorem mem_followingFrom_iff : rest ∈ followingFrom phrase read cs ↔
    ∃ p, p ≠ [] ∧ cs = p ++ rest ∧ phrase <:+ read.reverse ++ p := by
  induction cs generalizing read with
  | nil =>
    simp only [followingFrom, List.not_mem_nil, false_iff]
    rintro ⟨p, hp, he, -⟩
    exact hp (List.append_eq_nil_iff.mp he.symm).1
  | cons c cs ih =>
    have hc : phrase.reverse <+: c :: read ↔ phrase <:+ read.reverse ++ [c] := by
      rw [← List.reverse_prefix, List.reverse_append]
      simp
    have hl : rest ∈ followingFrom phrase read (c :: cs) ↔
        rest = cs ∧ phrase <:+ read.reverse ++ [c] ∨ rest ∈ followingFrom phrase (c :: read) cs := by
      simp only [followingFrom]
      split
      · next h => simp [hc.mp h]
      · next h => simp [mt hc.mpr h]
    rw [hl, ih]
    constructor
    · rintro (⟨rfl, h⟩ | ⟨p, -, rfl, h⟩)
      · exact ⟨[c], by simp, rfl, h⟩
      · exact ⟨c :: p, by simp, rfl, by simpa using h⟩
    · rintro ⟨p, hp, he, h⟩
      obtain ⟨d, p, rfl⟩ := List.exists_cons_of_ne_nil hp
      obtain ⟨rfl, rfl⟩ := List.cons.inj he
      obtain rfl | hp := Decidable.eq_or_ne p []
      · exact .inl ⟨rfl, h⟩
      · exact .inr ⟨p, hp, rfl, by simpa using h⟩

theorem mem_following_iff (hp : phrase ≠ []) :
    rest ∈ following phrase cs ↔ ∃ before, cs = before ++ phrase ++ rest := by
  unfold following
  rw [mem_followingFrom_iff]
  constructor
  · rintro ⟨p, -, rfl, before, rfl⟩
    exact ⟨before, by simp⟩
  · rintro ⟨before, rfl⟩
    exact ⟨before ++ phrase, by simp [hp], rfl, List.suffix_append ..⟩

theorem following_eq_nil_iff (hp : phrase ≠ []) : following phrase cs = [] ↔ ¬ phrase <:+: cs := by
  rw [List.eq_nil_iff_forall_not_mem]
  constructor
  · rintro h ⟨before, rest, he⟩
    exact h rest ((mem_following_iff hp).mpr ⟨before, he.symm⟩)
  · intro h rest hr
    obtain ⟨before, he⟩ := (mem_following_iff hp).mp hr
    exact h ⟨before, rest, he.symm⟩

/-! ### Texts put together -/

/-- The phrase does not end inside the text after it has begun before it. -/
def Apart (phrase w : List Char) : Prop := ∀ s ∈ phrase.tail.tails, s <+: w → s = []

instance : Decidable (Apart phrase w) := inferInstanceAs (Decidable (∀ _ ∈ _, _))

theorem Apart.eq_of_suffix {p : List Char} (h : Apart phrase w) (hp : p ≠ []) (hw : p <+: w)
    (hs : p <:+ phrase) : p = phrase := by
  obtain ⟨front, rfl⟩ := hs
  cases front with
  | nil => rfl
  | cons c front =>
    have ht : p ∈ (c :: front ++ p).tail.tails := (List.mem_tails _ _).mpr (List.suffix_append ..)
    exact absurd (h p ht hw) hp

theorem followingFrom_append (h : Apart phrase w) (read cs : List Char) :
    followingFrom phrase read (w ++ cs) =
      (following phrase w).map (· ++ cs) ++ followingFrom phrase (w.reverse ++ read) cs := by
  -- Along the text, with what has been read of it.
  suffices hd : ∀ todo done, Apart phrase (done ++ todo) →
      followingFrom phrase (done.reverse ++ read) (todo ++ cs) =
        (followingFrom phrase done.reverse todo).map (· ++ cs) ++
          followingFrom phrase ((done ++ todo).reverse ++ read) cs by
    simpa [following] using hd w [] h
  intro todo
  induction todo with
  | nil => intro done h; simp [followingFrom]
  | cons c todo ih =>
    intro done h
    have hrest := ih (done ++ [c]) (by simpa using h)
    simp only [List.reverse_append, List.reverse_cons, List.reverse_nil, List.nil_append,
      List.cons_append, List.append_assoc] at hrest
    -- A phrase that ends here began in this text: else its end would stand at the front of the text.
    have hc : phrase.reverse <+: c :: (done.reverse ++ read) ↔ phrase.reverse <+: c :: done.reverse := by
      constructor
      · intro hp
        have hd : c :: done.reverse <+: c :: (done.reverse ++ read) := List.prefix_append _ read
        obtain hp | hp := List.prefix_or_prefix_of_prefix hp hd
        · exact hp
        · have hs : done ++ [c] <:+ phrase := by
            rw [← List.reverse_prefix]
            simpa using hp
          have he := h.eq_of_suffix (by simp) ⟨todo, by simp⟩ hs
          rw [← he]
          simp
      · exact fun hp => hp.trans (List.prefix_append _ read)
    simp only [List.cons_append, followingFrom, hc, List.reverse_append, List.reverse_cons,
      List.append_assoc]
    split
    · simp [hrest]
    · simp [hrest]

/-- What follows the phrase in each text of a list, with the texts after it. -/
def followingIn (phrase : List Char) : List (List Char) → List (List Char)
  | [] => []
  | w :: ws => (following phrase w).map (· ++ ws.flatten) ++ followingIn phrase ws

theorem followingFrom_flatten (h : ∀ w ∈ ws, Apart phrase w) (read : List Char) :
    followingFrom phrase read ws.flatten = followingIn phrase ws := by
  induction ws generalizing read with
  | nil => rfl
  | cons w ws ih =>
    obtain ⟨hw, hws⟩ := List.forall_mem_cons.mp h
    rw [List.flatten_cons, followingFrom_append hw, ih hws]
    rfl

theorem following_flatten (h : ∀ w ∈ ws, Apart phrase w) :
    following phrase ws.flatten = followingIn phrase ws :=
  followingFrom_flatten h []

/-! ### Texts without the last character of a phrase -/

theorem apart_of_not_mem {c : Char} (hl : phrase.getLast? = some c) (hc : c ∉ w) : Apart phrase w := by
  intro s hs hw
  by_contra hn
  have hp : s <:+ phrase := ((List.mem_tails _ _).mp hs).trans (List.tail_suffix phrase)
  obtain ⟨front, rfl⟩ := hp
  rw [List.getLast?_append_of_ne_nil front hn] at hl
  exact hc (hw.subset (List.mem_of_getLast? hl))

theorem following_of_not_mem {c : Char} (hl : phrase.getLast? = some c) (hc : c ∉ w) :
    following phrase w = [] := by
  have hp : phrase ≠ [] := by
    rintro rfl
    simp at hl
  rw [following_eq_nil_iff hp]
  exact fun h => hc (h.subset (List.mem_of_getLast? hl))

end Geocoding.Sql
