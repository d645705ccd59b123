import Geocoding.Proofs.Search.Slots
import Geocoding.Proofs.Tables

/-!
# Texts that only say what they are meant to say

Whatever names are accepted for the tables, the text of a search or a ring has nothing in it that could open a
literal or a comment, end the statement or pass for a slot.
-/

namespace Geocoding.Search

open Sql

structure Harmless (s : Statement) : Prop where
  isPlain : ∀ c ∈ s.text.toList, isPlain c = true
  no_comment : ¬ "--".toList <:+: s.text.toList ∧ ¬ "/*".toList <:+: s.text.toList
  dollar : ∀ run ∈ slotRuns s.text.toList, ∃ k, 1 ≤ k ∧ k ≤ s.params.length ∧ run = Nat.toDigits 10 k

theorem followingIn_eq_nil {phrase : List Char} {ws : List (List Char)}
    (h : ∀ w ∈ ws, following phrase w = []) : followingIn phrase ws = [] := by
  induction ws with
  | nil => rfl
  | cons w ws ih =>
    obtain ⟨hw, hws⟩ := List.forall_mem_cons.mp h
    rw [followingIn, hw, ih hws, List.map_nil, List.nil_append]

variable {ps : List Piece}

theorem isPlain_textOf (hk : ∀ p ∈ ps, Known p) : ∀ c ∈ (textOf ps).toList, isPlain c = true := by
  intro c hc
  rw [toList_textOf] at hc
  obtain ⟨w, hw, hc⟩ := List.mem_flatten.mp hc
  obtain ⟨p, hp, rfl⟩ := List.mem_map.mp hw
  exact isPlain_of_known (hk p hp) hc

theorem no_comment_textOf (hk : ∀ p ∈ ps, Known p) {m : String} (hm : m ∈ commentMarks)
    (hne : m.toList ≠ []) :
    ¬ m.toList <:+: (textOf ps).toList := by
  have hmark (p : Piece) (hp : p ∈ ps) := no_comment_of_known hm (hk p hp)
  rw [← following_eq_nil_iff hne, following_textOf fun p hp => (hmark p hp).1]
  refine followingIn_eq_nil fun w hw => ?_
  obtain ⟨p, hp, rfl⟩ := List.mem_map.mp hw
  exact (hmark p hp).2

theorem harmless_of_pieces {params : List Value} {limit : UInt32} (hk : ∀ p ∈ ps, Known p)
    (hs : SlotsMatch ⟨textOf ps, params⟩ limit) : Harmless ⟨textOf ps, params⟩ where
  isPlain := isPlain_textOf hk
  no_comment := ⟨no_comment_textOf hk (by simp [commentMarks]) (by decide),
    no_comment_textOf hk (by simp [commentMarks]) (by decide)⟩
  dollar run hrun := (hs.mem_slotRuns_iff run).mp hrun

theorem harmless_search (t : Tables) (a : QueryAddress) (centre : Option ProjectedPoint) (limit : UInt32) :
    Harmless (build t a centre limit).statement := by
  have hs := slotsMatch_search t a centre limit
  rw [build_statement, Draft.finish_write_empty] at hs ⊢
  exact harmless_of_pieces (known_form t a centre limit) hs

theorem harmless_ring (t : Tables) (centre : ProjectedPoint) (radius : Float) (limit : UInt32) :
    Harmless (Ring.build t centre radius limit).statement := by
  have hs := slotsMatch_ring t limit centre radius
  rw [Ring.build_statement] at hs ⊢
  exact harmless_of_pieces (Ring.known_pieces t) hs

/-- No accepted names of tables make a statement say more than it is meant to. -/
theorem harmless_of_accepted_names {names : TableNames} {t : Tables} (h : Tables.ofNames names = .ok t) :
    (t.buildings.text = names.buildings ∧ t.postcode.text = names.postcode ∧ t.admin.text = names.admin) ∧
      (∀ a centre limit, Harmless (build t a centre limit).statement) ∧
      ∀ centre radius limit, Harmless (Ring.build t centre radius limit).statement :=
  ⟨Tables.text_of_ofNames h, harmless_search t, harmless_ring t⟩

theorem harmless_of_keyword_names :
    let t : Tables := ⟨⟨"SELECT", by decide +kernel⟩, ⟨"public.LIMIT", by decide +kernel⟩,
      ⟨"_9", by decide +kernel⟩⟩
    Tables.ofNames ⟨"SELECT", "public.LIMIT", "_9"⟩ = .ok t ∧
      ∀ a centre limit, Harmless (build t a centre limit).statement := by
  intro t
  have h : Tables.ofNames ⟨"SELECT", "public.LIMIT", "_9"⟩ = .ok t := by
    rfl
  exact ⟨h, (harmless_of_accepted_names h).2.1⟩

end Geocoding.Search
