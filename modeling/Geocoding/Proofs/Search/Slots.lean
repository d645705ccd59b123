import Geocoding.Proofs.Search.Clauses
import Geocoding.Proofs.Search.Ring

/-!
# The slots of searches and rings

The slots in the text of a search or a ring are those of its parameters, and each clause refers to the value that
it is about. Both are read off the finished text.
-/

namespace Geocoding.Search

open Sql

/-- The slots of a statement are those of its parameters, each at least once, and the last is the limit. -/
structure SlotsMatch (s : Statement) (limit : UInt32) : Prop where
  mem_slotRuns_iff : ∀ run, run ∈ slotRuns s.text.toList ↔
    ∃ k, 1 ≤ k ∧ k ≤ s.params.length ∧ run = Nat.toDigits 10 k
  ends_with_limit : ∃ front n, s.text = front ++ " LIMIT " ++ slotText s.params.length ∧
    s.params.getLast? = some (.int64 n) ∧ n.toInt = limit.toNat

theorem toInt_limit (limit : UInt32) : (Int64.ofNat limit.toNat).toInt = limit.toNat :=
  Int64.toInt_ofNat_of_lt (Nat.lt_trans limit.toNat_lt (by decide))

theorem known_of_written {F : Form} (h : ∀ p, .fixed p ∈ F → Written p) {n : Nat} {p : Piece}
    (hp : p ∈ F.numbered n) : Known p := by
  obtain hp | ⟨k, rfl⟩ := Form.mem_numbered hp
  · have hw := h p hp
    cases p with
    | words w => exact hw
    | name i => trivial
    | slot k => trivial
  · trivial

variable (t : Tables) (a : QueryAddress) (centre : Option ProjectedPoint) (limit : UInt32)

theorem known_form {n : Nat} : ∀ p ∈ (form t a centre limit).numbered n, Known p :=
  fun _ hp => known_of_written (fun _ => written_form) hp

theorem slotsMatch_of_pieces {ps : List Piece} {params : List Value} {limit : UInt32} (hd : Delimited ps)
    (hk : ∀ p ∈ ps, Known p) (hs : ∀ k, k ∈ slots ps ↔ 1 ≤ k ∧ k ≤ params.length)
    (ht : ∃ front, textOf ps = front ++ " LIMIT " ++ slotText params.length)
    (hp : params.getLast? = some (.int64 (Int64.ofNat limit.toNat))) :
    SlotsMatch ⟨textOf ps, params⟩ limit := by
  have hr : slotRuns (textOf ps).toList = (slots ps).map (Nat.toDigits 10) :=
    slotRuns_textOf hd fun w hw => dollar_not_mem_vocabulary (hk (.words w) hw)
  obtain ⟨front, ht⟩ := ht
  refine ⟨fun run => ?_, front, _, ht, hp, toInt_limit limit⟩
  simp only [hr, List.mem_map, hs]
  constructor
  · rintro ⟨k, ⟨hk, hkn⟩, rfl⟩
    exact ⟨k, hk, hkn, rfl⟩
  · rintro ⟨k, hk, hkn, rfl⟩
    exact ⟨k, ⟨hk, hkn⟩, rfl⟩

theorem slotsMatch_search : SlotsMatch (build t a centre limit).statement limit := by
  have hno : ∀ k, .fixed (.slot k) ∉ form t a centre limit := fun k hk => written_form hk
  have hs := Form.slots_numbered hno 0
  -- Whatever stands before it, the limit comes last.
  obtain ⟨F, hF⟩ : ∃ F, form t a centre limit = F ++ limitForm limit :=
    ⟨selectForm a.road centre ++ (Form.ofPieces (source t (Strategy.select a)) ::
      (whereForms (filterForms a) ++ [.ofPieces (orderClause (orderOf centre))])).flatten,
      by simp [form, clauses]⟩
  rw [build_statement, Draft.finish_write_empty]
  refine slotsMatch_of_pieces delimited_form (known_form t a centre limit) (fun k => ?_) ?_ ?_
  · rw [hs, List.mem_range'_1]
    omega
  · refine ⟨textOf (F.numbered 0), ?_⟩
    have hn := textOf_append_words_slot (F.numbered 0) " LIMIT " (F.values.length + 1)
    rw [hF, Form.numbered_append, Form.values_append, List.length_append, Nat.zero_add]
    exact hn
  · simp [hF, limitForm, Form.values]

theorem slotsMatch_ring (centre : ProjectedPoint) (radius : Float) :
    SlotsMatch (Ring.build t centre radius limit).statement limit := by
  have hwords : " ORDER BY distance ASC LIMIT " = " ORDER BY distance ASC" ++ " LIMIT " := by decide
  rw [Ring.build_statement]
  refine slotsMatch_of_pieces (Ring.delimited_pieces t) (Ring.known_pieces t) (fun k => ?_) ?_ rfl
  · have hlength : (Ring.params centre radius limit).length = 4 := rfl
    rw [Ring.slots_pieces, hlength]
    simp only [List.mem_cons, List.not_mem_nil, or_false]
    constructor
    · intro hk
      omega
    · rintro ⟨hfirst, hlast⟩
      omega
  · obtain ⟨ps, hps⟩ : ∃ ps, Ring.pieces t = ps ++ [.words " ORDER BY distance ASC LIMIT ", .slot 4] :=
      ⟨.words addressColumns :: .words "ST_Distance(b.geometry, " :: (Ring.point ++ (Ring.source t ++
        .words " WHERE ST_DWithin(b.geometry, " :: (Ring.point ++ [.words ", ", .slot 3, .words ")"]))),
        by simp [Ring.pieces, Ring.bounds]⟩
    refine ⟨textOf ps ++ " ORDER BY distance ASC", ?_⟩
    rw [hps, textOf_append_words_slot, hwords, ← String.append_assoc]
    rfl

/-! ### Operands -/

/-- The words of a comparison announce the part of the address that is compared. -/
theorem operands_search {phrase w : String} (ha : (phrase, w, " ") ∈ announcements)
    (hw : w ∈ operandWords) :
    (build t a centre limit).statement.operands phrase = (form t a centre limit).announced w := by
  have hann : ∀ p ∈ (form t a centre limit).numbered 0, Announces phrase w " " p :=
    fun p hp => announces_of_known ha (known_form t a centre limit p hp)
  have hset : (form t a centre limit).Settled w :=
    (settled_select _ _ w hw).append (.flatten fun F hF => (clause_of_mem hF).settled w hw)
  rw [build_statement]
  exact operands_write hann delimited_form hset

theorem announced_select_road (road : Option String) (centre : Option ProjectedPoint) :
    (selectForm road centre).announced "b.road <-> " = operand road := by
  cases road <;> cases centre <;> rfl

theorem operands_road_distance :
    (build t a centre limit).statement.operands "b.road <->" = operand a.road := by
  have hw : "b.road <-> " ∈ operandWords := by simp [operandWords]
  rw [operands_search t a centre limit (by simp [announcements]) hw, announced_form hw,
    announced_select_road, announced_filterForms hw]
  simp

theorem operands_comparison {phrase w : String} (ha : (phrase, w, " ") ∈ announcements)
    (hc : w ∈ comparisons) :
    (build t a centre limit).statement.operands phrase =
      (if w = "pc.postcode = " then operand a.postcode else []) ++
        (if w = "a.name % " ∧ a.postcode = none then operand a.city else []) ++
          (if w = "b.road % " then operand a.road else []) ++
            if w = "b.house_number % " then operand a.houseNumber else [] := by
  have hw : w ∈ operandWords := by simp [operandWords, hc]
  have hselect : (selectForm a.road centre).announced w = [] := by
    rw [Form.announced, Form.after_of_not_mem (comparison_not_mem_select _ _ w hc), List.map_nil]
  rw [operands_search t a centre limit ha hw, announced_form hw, hselect, List.nil_append,
    announced_filterForms hw]

/-! ### Points -/

def coordinates (p : ProjectedPoint) : List (Option Value) := [some (.real64 p.x), some (.real64 p.y)]

theorem announces_point {p : Piece} (hp : Known p) : Announces ("ST_MakePoint" ++ "(") pointWords "" p := by
  have ha : ("ST_MakePoint(", pointWords, "") ∈ announcements := by simp [announcements, pointWords]
  have hname : "ST_MakePoint" ++ "(" = "ST_MakePoint(" := by decide
  rw [hname]
  exact announces_of_known ha hp

theorem after_pointWords_clauses : Form.after pointWords (clauses t a centre limit).flatten = [] := by
  refine Form.after_of_not_mem fun hm => ?_
  obtain ⟨F, hF, hm⟩ := List.mem_flatten.mp hm
  have hw : pointWords ∈ operandWords := List.mem_cons_self
  have hconjunction : pointWords ∉ conjunctions := fun h => conjunctions_not_mem _ h hw
  have hcomparison : pointWords ∉ comparisons := by simp [pointWords, comparisons]
  have hlevel : pointWords ≠ "a.admin_level = 6" := by simp [pointWords]
  cases clause_of_mem hF with
  | source s => exact silent_source t s _ hm hw
  | comparison w c s hconj hcomp =>
    simp only [List.mem_cons, List.not_mem_nil, or_false, Part.fixed.injEq, Piece.words.injEq,
      reduceCtorEq] at hm
    obtain rfl | rfl := hm
    · exact hconjunction hconj
    · exact hcomparison hcomp
  | level w hconj =>
    simp only [List.mem_cons, List.not_mem_nil, or_false, Part.fixed.injEq, Piece.words.injEq,
      levelWords_eq] at hm
    obtain rfl | hm := hm
    · exact hconjunction hconj
    · exact hlevel hm
  | order centre => exact silent_order centre _ hm hw
  | limit n => exact silent_limit n _ hm hw

theorem arguments_search :
    (build t a centre limit).statement.arguments "ST_MakePoint" = (centre.map coordinates).toList := by
  have hann : ∀ p ∈ (form t a centre limit).numbered 0, Announces ("ST_MakePoint" ++ "(") pointWords "" p :=
    fun p hp => announces_point (known_form t a centre limit p hp)
  have hafter :=
    Form.after_append (w := pointWords) (selectForm a.road centre) (clauses t a centre limit).flatten
  rw [after_pointWords_clauses, List.append_nil] at hafter
  rw [build_statement]
  cases centre with
  | none =>
    have hselect : (selectForm a.road none).after pointWords = [] := by cases a.road <;> rfl
    rw [hselect] at hafter
    exact arguments_write_nil hann hafter
  | some p =>
    have hselect : (selectForm a.road (some p)).after pointWords =
        [[.value (.real64 p.x), .fixed (.words ", "), .value (.real64 p.y),
          .fixed (.words ("), " ++ Text.signedNumeral webMercator ++ ")")), .fixed (.words ") AS dist")]] := by
      cases a.road <;> rfl
    rw [hselect] at hafter
    exact arguments_write hann hafter (by decide +kernel)

theorem arguments_ring (centre : ProjectedPoint) (radius : Float) :
    (Ring.build t centre radius limit).statement.arguments "ST_MakePoint" =
      [coordinates centre, coordinates centre] := by
  have hann : ∀ p ∈ Ring.pieces t, Announces ("ST_MakePoint" ++ "(") pointWords "" p :=
    fun p hp => announces_point (Ring.known_pieces t p hp)
  have hafter : Sql.after pointWords (Ring.pieces t) =
      [.slot 1 :: .words ", " :: .slot 2 :: .words ("), " ++ Text.signedNumeral webMercator ++ ")") ::
        (Ring.source t ++ .words " WHERE ST_DWithin(b.geometry, " :: Ring.point ++ Ring.bounds),
        .slot 1 :: .words ", " :: .slot 2 :: .words ("), " ++ Text.signedNumeral webMercator ++ ")") ::
          Ring.bounds] := by
    rfl
  have hpair (ps : List Piece) := Statement.arguments_pair
    ⟨textOf (Ring.pieces t), Ring.params centre radius limit⟩ 0 1
    (w := "), " ++ Text.signedNumeral webMercator ++ ")") (by decide +kernel) ps
  rw [Ring.build_statement, Statement.arguments, following_eq_after hann, hafter]
  simp only [List.map_cons, List.map_nil, String.toList_empty, List.nil_append]
  exact congrArg₂ (fun first second => [first, second]) (hpair _) (hpair _)

theorem distance_ring (centre : ProjectedPoint) (radius : Float) :
    (Ring.build t centre radius limit).statement.arguments "ST_DWithin" =
      [[none, none, some (.real64 radius)]] := by
  have hann : ∀ p ∈ Ring.pieces t,
      Announces ("ST_DWithin" ++ "(") " WHERE ST_DWithin(b.geometry, " "b.geometry, " p :=
    fun p hp => announces_of_known (a := ("ST_DWithin(", _, _)) (by simp [announcements])
      (Ring.known_pieces t p hp)
  have hafter : Sql.after " WHERE ST_DWithin(b.geometry, " (Ring.pieces t) = [Ring.point ++ Ring.bounds] := by
    rfl
  -- The point has brackets and commas of its own, but no table name: the text up to the third argument is fixed.
  have hslots : ((argumentsFrom 0 [] ("b.geometry, ".toList ++ (textOf (Ring.point ++ Ring.bounds)).toList)).map
      withoutSpaces).map slotNumber? = [none, none, some 3] := by
    decide +kernel
  rw [Ring.build_statement, Statement.arguments, following_eq_after hann, hafter]
  simp only [List.map_cons, List.map_nil]
  have h := congrArg
    (·.map (·.bind (Statement.param? ⟨textOf (Ring.pieces t), Ring.params centre radius limit⟩))) hslots
  simp only [List.map_map] at h
  exact congrArg (fun x => [x]) h

/-- The slots are numbered by the parameters, and each clause of a search and of a ring refers to its value. -/
theorem slots_refer_to_values (t : Tables) :
    (∀ (a : QueryAddress) (centre : Option ProjectedPoint) (limit : UInt32),
      let s := (build t a centre limit).statement
      SlotsMatch s limit ∧
        s.operands "b.road <->" = operand a.road ∧
        s.operands "b.road %" = operand a.road ∧
        s.operands "b.house_number %" = operand a.houseNumber ∧
        s.operands "pc.postcode =" = operand a.postcode ∧
        s.operands "a.name %" = (if a.postcode = none then operand a.city else []) ∧
        s.arguments "ST_MakePoint" = (centre.map coordinates).toList) ∧
    ∀ (centre : ProjectedPoint) (radius : Float) (limit : UInt32),
      let s := (Ring.build t centre radius limit).statement
      SlotsMatch s limit ∧
        s.arguments "ST_MakePoint" = [coordinates centre, coordinates centre] ∧
        s.arguments "ST_DWithin" = [[none, none, some (.real64 radius)]] := by
  constructor
  · intro a centre limit
    have hoperands (phrase w : String) (ha : (phrase, w, " ") ∈ announcements) (hc : w ∈ comparisons) :=
      operands_comparison t a centre limit ha hc
    refine ⟨slotsMatch_search t a centre limit, operands_road_distance t a centre limit, ?_, ?_, ?_, ?_,
      arguments_search t a centre limit⟩
    · have h := hoperands "b.road %" "b.road % " (by simp [announcements]) (by simp [comparisons])
      simpa using h
    · have h := hoperands "b.house_number %" "b.house_number % " (by simp [announcements])
        (by simp [comparisons])
      simpa using h
    · have h := hoperands "pc.postcode =" "pc.postcode = " (by simp [announcements]) (by simp [comparisons])
      simpa using h
    · have h := hoperands "a.name %" "a.name % " (by simp [announcements]) (by simp [comparisons])
      simpa using h
  · intro centre radius limit
    exact ⟨slotsMatch_ring t limit centre radius, arguments_ring t limit centre radius,
      distance_ring t limit centre radius⟩

end Geocoding.Search
