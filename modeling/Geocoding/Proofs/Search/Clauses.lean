import Geocoding.Proofs.Search.Form
import Geocoding.Proofs.Search.Vocabulary

/-!
# The clauses of a search

After its columns a search has clauses of five kinds. What is to be known of its text is shown for the columns
and for each kind of clause, and holds of the whole: its words are known ones, its slots come from values only,
each slot is ended by what comes next, and the words that announce a value have one after them.
-/

namespace Geocoding.Search

open Sql

variable {t : Tables} {a : QueryAddress} {centre : Option ProjectedPoint} {limit : UInt32} {F : Form}

def conjunctions : List String := [" WHERE ", " AND "]

def comparisons : List String := ["pc.postcode = ", "a.name % ", "b.road % ", "b.house_number % "]

theorem mem_filterForms (h : F ∈ filterForms a) :
    (∃ c ∈ comparisons, ∃ s, F = [.fixed (.words c), .value (.text s)]) ∨
      F = [.fixed (.words ("a.admin_level = " ++ Text.numeral cityLevel))] := by
  have hc (c : String) (hc : c ∈ comparisons) (s : Option String) (h : F ∈ compareForms c s) :
      ∃ c ∈ comparisons, ∃ s, F = [.fixed (.words c), .value (.text s)] := by
    cases s with
    | none => cases h
    | some s => exact ⟨c, hc, s, List.mem_singleton.mp h⟩
  have ha (h : F ∈ areaForms a) :
      (∃ c ∈ comparisons, ∃ s, F = [.fixed (.words c), .value (.text s)]) ∨
        F = [.fixed (.words ("a.admin_level = " ++ Text.numeral cityLevel))] := by
    unfold areaForms at h
    split at h
    · exact .inl (hc _ (by simp [comparisons]) _ h)
    · split at h
      · obtain h | h := List.mem_append.mp h
        · exact .inl (hc _ (by simp [comparisons]) _ h)
        · exact .inr (List.mem_singleton.mp h)
      · cases h
  simp only [filterForms, List.mem_append] at h
  obtain (h | h) | h := h
  · exact ha h
  · exact .inl (hc _ (by simp [comparisons]) _ h)
  · exact .inl (hc _ (by simp [comparisons]) _ h)

theorem mem_whereForms {Fs : List Form} (h : F ∈ whereForms Fs) :
    ∃ w ∈ conjunctions, ∃ G ∈ Fs, F = .fixed (.words w) :: G := by
  cases Fs with
  | nil => cases h
  | cons G Fs =>
    obtain rfl | h := List.mem_cons.mp h
    · exact ⟨_, List.mem_cons_self, G, List.mem_cons_self, rfl⟩
    · obtain ⟨H, hH, rfl⟩ := List.mem_map.mp h
      exact ⟨_, List.mem_cons_of_mem _ List.mem_cons_self, H, List.mem_cons_of_mem _ hH, rfl⟩

/-- A clause after the columns of a search. -/
inductive Clause (t : Tables) : Form → Prop
  | source (s : Strategy) : Clause t (.ofPieces (source t s))
  | comparison (w c s : String) (hw : w ∈ conjunctions) (hc : c ∈ comparisons) :
    Clause t [.fixed (.words w), .fixed (.words c), .value (.text s)]
  | level (w : String) (hw : w ∈ conjunctions) :
    Clause t [.fixed (.words w), .fixed (.words ("a.admin_level = " ++ Text.numeral cityLevel))]
  | order (centre : Option ProjectedPoint) : Clause t (.ofPieces (orderClause (orderOf centre)))
  | limit (n : UInt32) : Clause t (limitForm n)

theorem clause_of_mem (h : F ∈ clauses t a centre limit) : Clause t F := by
  simp only [clauses, List.mem_cons, List.mem_append, List.not_mem_nil, or_false] at h
  obtain rfl | h | rfl | rfl := h
  · exact .source _
  · obtain ⟨w, hw, G, hG, rfl⟩ := mem_whereForms h
    obtain ⟨c, hc, s, rfl⟩ | rfl := mem_filterForms hG
    · exact .comparison w c s hw hc
    · exact .level w hw
  · exact .order centre
  · exact .limit limit

/-! ### Words -/

def Written : Piece → Prop
  | .words w => w ∈ vocabulary
  | .name _ => True
  | .slot _ => False

theorem written_select (road : Option String) (centre : Option ProjectedPoint) :
    ∀ p, .fixed p ∈ selectForm road centre → Written p := by
  cases road <;> cases centre <;>
    simp [selectForm, columnsForm, trigramForm, centreForm, pointForm, Form.ofPieces, Written, vocabulary]

theorem conjunctions_vocabulary : ∀ w ∈ conjunctions, w ∈ vocabulary := by
  simp [conjunctions, vocabulary]

theorem comparisons_vocabulary : ∀ c ∈ comparisons, c ∈ vocabulary := by
  simp [comparisons, vocabulary]

theorem Clause.written (h : Clause t F) : ∀ p, .fixed p ∈ F → Written p := by
  cases h with
  | source s =>
    cases s <;> simp [Search.source, joinPostcode, joinAdmin, Form.ofPieces, Written, vocabulary]
  | comparison w c s hw hc =>
    have hw : w ∈ vocabulary := conjunctions_vocabulary w hw
    have hc : c ∈ vocabulary := comparisons_vocabulary c hc
    simp [Written, hw, hc]
  | level w hw =>
    have hw : w ∈ vocabulary := conjunctions_vocabulary w hw
    have hl : "a.admin_level = " ++ Text.numeral cityLevel ∈ vocabulary := by simp [vocabulary]
    simp [Written, hw, hl]
  | order centre => cases centre <;> simp [orderClause, orderOf, Form.ofPieces, Written, vocabulary]
  | limit n => simp [limitForm, Written, vocabulary]

theorem written_form {p : Piece} (h : .fixed p ∈ form t a centre limit) : Written p := by
  obtain h | h := List.mem_append.mp h
  · exact written_select _ _ p h
  · obtain ⟨F, hF, hp⟩ := List.mem_flatten.mp h
    exact (clause_of_mem hF).written p hp

/-! ### Slots -/

theorem delimited_of_no_slot {ps : List Piece} (h : slots ps = []) : Delimited ps := by
  induction ps with
  | nil => trivial
  | cons p ps ih =>
    cases p with
    | words w => exact ih h
    | name i => exact ih h
    | slot n => cases h

theorem delimited_select (road : Option String) (centre : Option ProjectedPoint) (n : Nat) :
    Delimited ((selectForm road centre).numbered n) := by
  have hbracket := endsWord_words (w := ")::float8 AS trgm_dist, ") rfl
  have hcomma := endsWord_words (w := ", ") rfl
  have hsystem := endsWord_words (w := "), " ++ Text.signedNumeral webMercator ++ ")") rfl
  cases road <;> cases centre <;>
    simp [selectForm, columnsForm, trigramForm, centreForm, pointForm, Form.numbered, Delimited, Form.ofPieces,
      hbracket, hcomma, hsystem]

theorem endsWord_conjunction {w : String} (hw : w ∈ conjunctions) (ps : List Piece) :
    EndsWord (textOf (.words w :: ps)).toList := by
  simp only [conjunctions, List.mem_cons, List.not_mem_nil, or_false] at hw
  obtain rfl | rfl := hw
  · exact endsWord_words rfl ps
  · exact endsWord_words rfl ps

theorem endsWord_nil : EndsWord (textOf []).toList := by simp [EndsWord, textOf]

theorem Clause.delimited (h : Clause t F) (n : Nat) :
    Delimited (F.numbered n) ∧ EndsWord (textOf (F.numbered n)).toList := by
  cases h with
  | source s =>
    rw [Form.numbered_ofPieces]
    cases s with
    | byPostcode => exact ⟨delimited_of_no_slot rfl, endsWord_words rfl _⟩
    | byCity => exact ⟨delimited_of_no_slot rfl, endsWord_words rfl _⟩
    | byRoad => exact ⟨delimited_of_no_slot rfl, endsWord_words rfl _⟩
  | comparison w c s hw hc => exact ⟨⟨endsWord_nil, trivial⟩, endsWord_conjunction hw _⟩
  | level w hw => exact ⟨trivial, endsWord_conjunction hw _⟩
  | order centre =>
    rw [Form.numbered_ofPieces]
    cases centre with
    | none => exact ⟨delimited_of_no_slot rfl, endsWord_words rfl _⟩
    | some p => exact ⟨delimited_of_no_slot rfl, endsWord_words rfl _⟩
  | limit k => exact ⟨⟨endsWord_nil, trivial⟩, endsWord_words rfl _⟩

theorem delimited_form : Delimited ((form t a centre limit).numbered 0) := by
  have hc : ∀ (Fs : List Form) n, (∀ F ∈ Fs, Clause t F) →
      ∀ ps ∈ Form.numberedEach n Fs, Delimited ps ∧ EndsWord (textOf ps).toList := by
    intro Fs
    induction Fs with
    | nil => intro n _ ps hps; cases hps
    | cons F Fs ih =>
      intro n hFs ps hps
      obtain ⟨hF, hFs⟩ := List.forall_mem_cons.mp hFs
      obtain rfl | hps := List.mem_cons.mp hps
      · exact hF.delimited n
      · exact ih _ hFs ps hps
  have hcs := hc (clauses t a centre limit) (selectForm a.road centre).values.length
    fun F hF => clause_of_mem hF
  obtain ⟨hd, he⟩ := Delimited.flatten (fun ps hps => (hcs ps hps).1) fun ps hps => (hcs ps hps).2
  rw [form, Form.numbered_append, Nat.zero_add, Form.numbered_flatten]
  exact (delimited_select _ _ 0).append hd he

/-! ### Values -/

def pointWords : String := "ST_SetSRID(ST_MakePoint("

/-- The words that have a value after them. -/
def operandWords : List String := pointWords :: "b.road <-> " :: comparisons

theorem systemWords_eq : "), " ++ Text.signedNumeral webMercator ++ ")" = "), 3857)" := by decide +kernel

theorem adminWords_eq : " a ON (a.admin_level = " ++ Text.numeral cityLevel ++
    " AND ST_Contains(a.geometry, ST_Centroid(b.geometry)))" =
      " a ON (a.admin_level = 6 AND ST_Contains(a.geometry, ST_Centroid(b.geometry)))" := by
  decide +kernel

theorem levelWords_eq : "a.admin_level = " ++ Text.numeral cityLevel = "a.admin_level = 6" := by
  decide +kernel

theorem conjunctions_not_mem : ∀ w ∈ conjunctions, w ∉ operandWords := by
  simp [conjunctions, operandWords, pointWords, comparisons]

theorem ne_of_conjunction {v w : String} (hv : v ∈ conjunctions) (hw : w ∈ operandWords) : v ≠ w := by
  rintro rfl
  exact conjunctions_not_mem v hv hw

theorem after_eq_nil_of_silent {w : String} (hw : w ∈ operandWords)
    (h : ∀ v, .fixed (.words v) ∈ F → v ∉ operandWords) : F.after w = [] :=
  Form.after_of_not_mem fun hm => h w hm hw

/-- Words that announce no value need none after them. -/
theorem settled_of_silent {w : String} (hw : w ∈ operandWords)
    (h : ∀ v, .fixed (.words v) ∈ F → v ∉ operandWords) : F.Settled w := by
  rw [Form.Settled, after_eq_nil_of_silent hw h]
  exact fun G hG => absurd hG List.not_mem_nil

theorem silent_source (t : Tables) (s : Strategy) :
    ∀ v, .fixed (.words v) ∈ Form.ofPieces (source t s) → v ∉ operandWords := by
  cases s <;> simp [source, joinPostcode, joinAdmin, Form.ofPieces, adminWords_eq, operandWords,
    pointWords, comparisons]

theorem silent_order (centre : Option ProjectedPoint) :
    ∀ v, .fixed (.words v) ∈ Form.ofPieces (orderClause (orderOf centre)) → v ∉ operandWords := by
  cases centre <;> simp [orderClause, orderOf, Form.ofPieces, SortTerm.text, operandWords, pointWords,
    comparisons, SortKey.column, Direction.keyword]

theorem silent_limit (limit : UInt32) :
    ∀ v, .fixed (.words v) ∈ limitForm limit → v ∉ operandWords := by
  simp [limitForm, operandWords, pointWords, comparisons]

theorem settled_select (road : Option String) (centre : Option ProjectedPoint) :
    ∀ w ∈ operandWords, (selectForm road centre).Settled w := by
  cases road <;> cases centre <;>
    simp [operandWords, pointWords, comparisons, Form.Settled, selectForm, columnsForm, trigramForm,
      centreForm, pointForm, Form.after, Form.ofPieces, Form.headValue?, addressColumns, systemWords_eq]

theorem comparison_not_mem_select (road : Option String) (centre : Option ProjectedPoint) :
    ∀ w ∈ comparisons, .fixed (.words w) ∉ selectForm road centre := by
  cases road <;> cases centre <;>
    simp [comparisons, selectForm, columnsForm, trigramForm, centreForm, pointForm, Form.ofPieces,
      addressColumns, systemWords_eq]

theorem Clause.settled (h : Clause t F) : ∀ w ∈ operandWords, F.Settled w := by
  intro w hw
  cases h with
  | source s => exact settled_of_silent hw (silent_source t s)
  | comparison v c s hv hc =>
    have hne := ne_of_conjunction hv hw
    intro G hG
    -- Only the column can be these words, and its value comes next.
    simp only [Form.after, Piece.words.injEq, hne, if_false] at hG
    split at hG
    · obtain rfl := List.mem_singleton.mp hG
      rfl
    · cases hG
  | level v hv =>
    refine settled_of_silent hw ?_
    have hv := conjunctions_not_mem v hv
    have hlevel : "a.admin_level = 6" ∉ operandWords := by simp [operandWords, pointWords, comparisons]
    simp [hv, hlevel, levelWords_eq]
  | order centre => exact settled_of_silent hw (silent_order centre)
  | limit n => exact settled_of_silent hw (silent_limit n)

def operand (s : Option String) : List (Option Value) := s.toList.map fun s => some (.text s)

theorem announced_form {w : String} (hw : w ∈ operandWords) :
    (form t a centre limit).announced w =
      (selectForm a.road centre).announced w ++ (filterForms a).flatMap (Form.announced w) := by
  have hsource := after_eq_nil_of_silent hw (silent_source t (Strategy.select a))
  have horder := after_eq_nil_of_silent hw (silent_order centre)
  have hlimit := after_eq_nil_of_silent hw (silent_limit limit)
  have hcons {v : String} (hv : v ∈ conjunctions) (F : Form) :
      Form.announced w (.fixed (.words v) :: F) = F.announced w := by
    have hne := ne_of_conjunction hv hw
    simp [Form.announced, Form.after, hne]
  have hwhere (Fs : List Form) : (whereForms Fs).flatMap (Form.announced w) = Fs.flatMap (Form.announced w) := by
    cases Fs with
    | nil => rfl
    | cons F Fs =>
      have hfirst := hcons (v := " WHERE ") List.mem_cons_self
      have hnext := hcons (v := " AND ") (List.mem_cons_of_mem _ List.mem_cons_self)
      simp [whereForms, List.flatMap_map, hfirst, hnext]
  rw [form, Form.announced_append (settled_select _ _ w hw),
    Form.announced_flatten fun F hF => (clause_of_mem hF).settled w hw]
  simp [clauses, hwhere, Form.announced, hsource, horder, hlimit]

theorem announced_compareForms (w c : String) (s : Option String) :
    (compareForms c s).flatMap (Form.announced w) = if w = c then operand s else [] := by
  cases s with
  | none => simp [compareForms, operand]
  | some s =>
    by_cases hc : w = c
    · simp [compareForms, operand, Form.announced, Form.after, Form.headValue?, hc]
    · simp [compareForms, Form.announced, Form.after, hc, Ne.symm hc]

theorem announced_areaForms {w : String} (hw : w ∈ operandWords) :
    (areaForms a).flatMap (Form.announced w) =
      (if w = "pc.postcode = " then operand a.postcode else []) ++
        if w = "a.name % " ∧ a.postcode = none then operand a.city else [] := by
  have hlevel : "a.admin_level = 6" ≠ w := by
    rintro rfl
    simp [operandWords, pointWords, comparisons] at hw
  unfold areaForms
  split
  · next postcode hp => simp [announced_compareForms, hp]
  · next hp =>
    split
    · next city hc =>
      simp [announced_compareForms, hp, hc, operand, Form.announced, Form.after, Form.ofPieces,
        levelWords_eq, hlevel]
    · next hc => simp [hp, hc, operand]

theorem announced_filterForms {w : String} (hw : w ∈ operandWords) :
    (filterForms a).flatMap (Form.announced w) =
      (if w = "pc.postcode = " then operand a.postcode else []) ++
        (if w = "a.name % " ∧ a.postcode = none then operand a.city else []) ++
          (if w = "b.road % " then operand a.road else []) ++
            if w = "b.house_number % " then operand a.houseNumber else [] := by
  rw [filterForms, List.flatMap_append, List.flatMap_append, announced_areaForms hw,
    announced_compareForms, announced_compareForms]

end Geocoding.Search
