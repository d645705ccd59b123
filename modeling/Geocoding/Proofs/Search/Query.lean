import Geocoding.Proofs.Database.Rows
import Geocoding.Proofs.Search.Slots
import Geocoding.Proofs.Sql.Query
import Geocoding.Store

/-!
# The query of a search

The statement of a search is read back as a query: its columns, its tables with the names that their columns are known
by, its conditions and its order. They agree with what else the search says of itself, and with the columns that are
looked for in the rows of the answer. The tables may have any names, those of keywords and of each other among them.
-/

namespace Geocoding.Search

open Sql

variable (t : Tables) (a : QueryAddress) (centre : Option ProjectedPoint) (limit : UInt32)

/-! ### The query -/

def trigramTokens : Option String → List Token
  | some road => wordsOf "b.road <->" ++ [.value (.text road)]
  | none => wordsOf "0"

def centreColumns : Option ProjectedPoint → List (List Token)
  | some p => [wordsOf "ST_Distance(ST_Centroid(b.geometry), ST_SetSRID(ST_MakePoint(" ++
      [.value (.real64 p.x), .word ",", .value (.real64 p.y)] ++ wordsOf "), 3857)) AS dist"]
  | none => []

def columns (road : Option String) (centre : Option ProjectedPoint) : List (List Token) :=
  [wordsOf "b.name AS house", wordsOf "b.road", wordsOf "b.house_number", wordsOf "pc.postcode",
    wordsOf "a.name AS city", wordsOf "(" ++ trigramTokens road ++ wordsOf ")::float8 AS trgm_dist",
    wordsOf "ST_X(ST_Centroid(b.geometry)) AS x", wordsOf "ST_Y(ST_Centroid(b.geometry)) AS y"] ++
  centreColumns centre

def inPostcode : List Token := wordsOf "ST_Contains(pc.geometry, ST_Centroid(b.geometry))"

def inAdmin : List Token := wordsOf "ST_Contains(a.geometry, ST_Centroid(b.geometry))"

def inCity : List Token := wordsOf "(a.admin_level = 6 AND ST_Contains(a.geometry, ST_Centroid(b.geometry)))"

def buildings : Source := ⟨t.buildings.text, "b"⟩

def postcodes : Source := ⟨t.postcode.text, "pc"⟩

def admins : Source := ⟨t.admin.text, "a"⟩

def first : Strategy → Source
  | .byPostcode => postcodes t
  | .byCity => admins t
  | .byRoad => buildings t

def joined : Strategy → List Joined
  | .byPostcode => [⟨.inner, buildings t, inPostcode⟩, ⟨.left, admins t, inCity⟩]
  | .byCity => [⟨.inner, buildings t, inAdmin⟩, ⟨.left, postcodes t, inPostcode⟩]
  | .byRoad => [⟨.left, postcodes t, inPostcode⟩, ⟨.left, admins t, inCity⟩]

def comparison (column operator : String) : Option String → List (List Token)
  | some s => [[.word column, .word operator, .value (.text s)]]
  | none => []

/-- The postcode is compared if it is known, else the city; then the road and the house number. -/
def conditions : List (List Token) :=
  (match a.postcode with
    | some postcode => comparison "pc.postcode" "=" (some postcode)
    | none =>
      match a.city with
      | some city => comparison "a.name" "%" (some city) ++ [[.word "a.admin_level", .word "=", .word "6"]]
      | none => []) ++
    comparison "b.road" "%" a.road ++ comparison "b.house_number" "%" a.houseNumber

/-- Without conditions there is no clause for them. -/
def filterOf : List (List Token) → Option (List (List Token))
  | [] => none
  | c :: cs => some (c :: cs)

def term (o : SortTerm) : List Token := [.word o.key.column, .word o.direction.keyword]

def query : Query where
  columns := columns a.road centre
  first := first t (Strategy.select a)
  joined := joined t (Strategy.select a)
  filter := filterOf (conditions a)
  order := (orderOf centre).map term
  limit := [.value (.int64 (Int64.ofNat limit.toNat))]

/-! ### Its tokens -/

theorem tokens_selectForm (road : Option String) (centre : Option ProjectedPoint) :
    (selectForm road centre).tokens = .word "SELECT" :: list "," (columns road centre) := by
  cases road with
  | none =>
    cases centre with
    | none => cbv
    | some p => cbv
  | some road =>
    cases centre with
    | none => cbv
    | some p => cbv

theorem tokens_source (s : Strategy) :
    (Form.ofPieces (source t s)).tokens = QueryClause.tokens ⟨.source, (first t s).tokens⟩ ++
      ((joined t s).flatMap Joined.clauses).flatMap QueryClause.tokens := by
  have hpostcode := t.postcode.wordsOf_text
  have hbuildings := t.buildings.wordsOf_text
  have hadmin := t.admin.wordsOf_text
  -- Only the names of the tables are not to be evaluated.
  cases s <;>
    simp only [source, joinPostcode, joinAdmin, Form.ofPieces, Form.tokens, List.map_append, List.map_cons,
      List.map_nil, List.flatMap_append, List.flatMap_cons, List.flatMap_nil, Part.tokens, Piece.text_name,
      Piece.text_words, hpostcode, hbuildings, hadmin] <;>
    cbv

theorem tokens_order : (Form.ofPieces (orderClause (orderOf centre))).tokens =
    QueryClause.tokens ⟨.order, .word "BY" :: list "," ((orderOf centre).map term)⟩ := by
  cases centre with
  | none => cbv
  | some p => cbv

theorem tokens_limitForm : (limitForm limit).tokens =
    QueryClause.tokens ⟨.limit, [.value (.int64 (Int64.ofNat limit.toNat))]⟩ := by
  cbv

theorem tokens_compareForms {c column operator : String} (h : wordsOf c = [.word column, .word operator])
    (s : Option String) : (compareForms c s).map Form.tokens = comparison column operator s := by
  cases s with
  | none => rfl
  | some s => simp [compareForms, comparison, Form.tokens, Part.tokens, h]

theorem tokens_filterForms : (filterForms a).map Form.tokens = conditions a := by
  have hpostcode : wordsOf "pc.postcode = " = [.word "pc.postcode", .word "="] := by cbv
  have hcity : wordsOf "a.name % " = [.word "a.name", .word "%"] := by cbv
  have hroad : wordsOf "b.road % " = [.word "b.road", .word "%"] := by cbv
  have hnumber : wordsOf "b.house_number % " = [.word "b.house_number", .word "%"] := by cbv
  have hlevel : Form.tokens (.ofPieces [.words ("a.admin_level = " ++ Text.numeral cityLevel)]) =
      [.word "a.admin_level", .word "=", .word "6"] := by cbv
  unfold filterForms conditions areaForms
  rw [List.map_append, List.map_append, tokens_compareForms hroad, tokens_compareForms hnumber]
  cases a.postcode with
  | some postcode => rw [tokens_compareForms hpostcode]
  | none =>
    cases a.city with
    | none => rfl
    | some city => rw [List.map_append, tokens_compareForms hcity, List.map_singleton, hlevel]

theorem tokens_whereForms (Fs : List Form) : (whereForms Fs).flatMap Form.tokens =
    (Query.filterClauses (filterOf (Fs.map Form.tokens))).flatMap QueryClause.tokens := by
  have hwhere : wordsOf " WHERE " = [.word "WHERE"] := by cbv
  have hand : wordsOf " AND " = [.word "AND"] := by cbv
  cases Fs with
  | nil => rfl
  | cons F Fs =>
    simp [whereForms, filterOf, Query.filterClauses, list, intercalate_cons_flatMap, QueryClause.tokens,
      Keyword.text, Form.tokens, Part.tokens, hwhere, hand, List.flatMap_map]

theorem tokens_form : (form t a centre limit).tokens = (query t a centre limit).tokens := by
  rw [form, Form.tokens_append, Form.tokens_flatten, tokens_selectForm]
  simp only [clauses, List.flatMap_cons, List.flatMap_append, List.flatMap_nil, List.append_nil, tokens_source,
    tokens_whereForms, tokens_filterForms, tokens_order, tokens_limitForm]
  simp [query, Query.tokens, Query.clauses, QueryClause.tokens, Keyword.text]

/-! ### Its parts -/

variable {t a centre limit}

theorem isPlain_form : (form t a centre limit).IsPlain := by
  intro p hp
  have hw := written_form hp
  cases p with
  | words w => exact dollar_not_mem_vocabulary hw
  | name i => exact i.dollar_not_mem
  | slot k => exact absurd hw id

theorem isSetApart_selectForm (road : Option String) (centre : Option ProjectedPoint) :
    (selectForm road centre).IsSetApart := by
  cases road <;> cases centre <;>
    simp [Form.IsSetApart, selectForm, columnsForm, trigramForm, centreForm, pointForm, Form.ofPieces, Part.closes,
      Part.opens, addressColumns, systemWords_eq]

theorem conjunction_opens_closes : ∀ w ∈ conjunctions, Part.opens (.fixed (.words w)) = true ∧
    Part.closes (.fixed (.words w)) = true := by
  simp [conjunctions, Part.opens, Part.closes]

theorem comparison_closes : ∀ c ∈ comparisons, Part.closes (.fixed (.words c)) = true := by
  simp [comparisons, Part.closes]

theorem Clause.isSetApart {F : Form} (h : Clause t F) : F.IsSetApart ∧ ∀ x ∈ F.head?, x.opens = true := by
  cases h with
  | source s =>
    cases s <;>
      simp [Form.IsSetApart, Search.source, joinPostcode, joinAdmin, Form.ofPieces, Part.closes, Part.opens]
  | comparison w c s hw hc =>
    obtain ⟨hopens, hcloses⟩ := conjunction_opens_closes w hw
    simp [Form.IsSetApart, hopens, hcloses, comparison_closes c hc]
  | level w hw =>
    obtain ⟨hopens, hcloses⟩ := conjunction_opens_closes w hw
    simp [Form.IsSetApart, hopens, hcloses]
  | order centre =>
    cases centre <;>
      simp [Form.IsSetApart, orderClause, orderOf, Form.ofPieces, Part.closes, Part.opens]
  | limit n => simp [Form.IsSetApart, limitForm, Part.closes, Part.opens]

theorem isSetApart_form : (form t a centre limit).IsSetApart := by
  have hparts : ∀ F ∈ clauses t a centre limit, F.IsSetApart ∧ ∀ x ∈ F.head?, x.opens = true :=
    fun F hF => (clause_of_mem hF).isSetApart
  obtain ⟨hclauses, hopens⟩ := Form.IsSetApart.flatten hparts
  exact (isSetApart_selectForm a.road centre).append hclauses hopens

theorem isItem_columns (road : Option String) (centre : Option ProjectedPoint) :
    ∀ column ∈ columns road centre, IsItem "," column := by
  simp only [columns, List.forall_mem_append, List.forall_mem_cons]
  refine ⟨⟨rfl, rfl, rfl, rfl, rfl, ?_, rfl, rfl, by simp⟩, ?_⟩
  · cases road with
    | none => rfl
    | some road => rfl
  · cases centre with
    | none => exact fun _ h => absurd h List.not_mem_nil
    | some p => exact List.forall_mem_singleton.mpr rfl

theorem isItem_conditions (a : QueryAddress) : ∀ condition ∈ conditions a, IsItem "AND" condition := by
  have hcomparison {column operator : String} (h : IsItem "AND" [.word column, .word operator, .value .null])
      (s : Option String) : ∀ condition ∈ comparison column operator s, IsItem "AND" condition := by
    cases s with
    | none => exact fun _ h => absurd h List.not_mem_nil
    | some s => exact List.forall_mem_singleton.mpr h
  have hroad : IsItem "AND" [.word "b.road", .word "%", .value .null] := rfl
  have hnumber : IsItem "AND" [.word "b.house_number", .word "%", .value .null] := rfl
  have hpostcode : IsItem "AND" [.word "pc.postcode", .word "=", .value .null] := rfl
  have hcity : IsItem "AND" [.word "a.name", .word "%", .value .null] := rfl
  rw [conditions, List.forall_mem_append, List.forall_mem_append]
  refine ⟨⟨?_, hcomparison hroad a.road⟩, hcomparison hnumber a.houseNumber⟩
  cases a.postcode with
  | some postcode => exact hcomparison hpostcode (some postcode)
  | none =>
    cases a.city with
    | none => exact fun _ h => absurd h List.not_mem_nil
    | some city =>
      rw [List.forall_mem_append]
      exact ⟨hcomparison hcity (some city), List.forall_mem_singleton.mpr rfl⟩

theorem eq_of_mem_filterOf {cs cs' : List (List Token)} (h : cs' ∈ filterOf cs) : cs' = cs ∧ cs ≠ [] := by
  cases cs with
  | nil => cases h
  | cons c cs =>
    obtain rfl := Option.some.inj h
    exact ⟨rfl, List.cons_ne_nil _ _⟩

theorem isItem_term (o : SortTerm) : IsItem "," (term o) := by
  obtain ⟨key, direction⟩ := o
  cases key with
  | centre => cases direction <;> rfl
  | trigram => cases direction <;> rfl

theorem isWhole_query : (query t a centre limit).IsWhole := by
  have hpc : Closes isKeyword 0 [.word "pc"] = true := rfl
  have hb : Closes isKeyword 0 [.word "b"] = true := rfl
  have ha : Closes isKeyword 0 [.word "a"] = true := rfl
  have hinPostcode : Closes isKeyword 0 inPostcode = true := rfl
  have hinAdmin : Closes isKeyword 0 inAdmin = true := rfl
  have hinCity : Closes isKeyword 0 inCity = true := rfl
  refine ⟨by simp [query, columns], isItem_columns a.road centre, ?_, ?_, ?_, ?_, by simp [query, orderOf], ?_, rfl⟩
  · cases h : Strategy.select a <;>
      simp [Query.sources, query, h, first, joined, buildings, postcodes, admins, hpc, hb, ha]
  · cases h : Strategy.select a <;> simp [query, h, joined, hinPostcode, hinAdmin, hinCity]
  · intro hf
    obtain ⟨hnil, hne⟩ := eq_of_mem_filterOf hf
    exact hne hnil.symm
  · intro cs hcs
    obtain ⟨rfl, -⟩ := eq_of_mem_filterOf hcs
    exact isItem_conditions a
  · intro item hitem
    obtain ⟨o, -, rfl⟩ := List.mem_map.mp hitem
    exact isItem_term o

theorem tokens_statement : (build t a centre limit).statement.tokens = (query t a centre limit).tokens := by
  rw [build_statement, Form.tokens_write isSetApart_form isPlain_form, tokens_form]

/-- The statement of a search is its query. -/
theorem query?_statement : (build t a centre limit).statement.query? = some (query t a centre limit) :=
  Query.query?_of_tokens tokens_statement isWhole_query

/-! ### The parts of a search agree -/

/-- The tables of a search in their order, with the names of their columns, and how they are joined. -/
def tablesOf (t : Tables) : Strategy → Source × List (Join × Source)
  | .byPostcode =>
    (⟨t.postcode.text, "pc"⟩, [(.inner, ⟨t.buildings.text, "b"⟩), (.left, ⟨t.admin.text, "a"⟩)])
  | .byCity =>
    (⟨t.admin.text, "a"⟩, [(.inner, ⟨t.buildings.text, "b"⟩), (.left, ⟨t.postcode.text, "pc"⟩)])
  | .byRoad =>
    (⟨t.buildings.text, "b"⟩, [(.left, ⟨t.postcode.text, "pc"⟩), (.left, ⟨t.admin.text, "a"⟩)])

/-- A search `s` and the query `q` that is read from its statement agree with each other, and with how rows are
read. -/
structure Agrees (t : Tables) (a : QueryAddress) (centre : Option ProjectedPoint) (limit : UInt32) (s : Search)
    (q : Query) : Prop where
  tokens : s.statement.tokens = q.tokens
  strategy : s.strategy = Strategy.select a
  tables : (q.first, q.joined.map fun j => (j.join, j.source)) = tablesOf t s.strategy
  sources : q.sources.Perm [⟨t.buildings.text, "b"⟩, ⟨t.postcode.text, "pc"⟩, ⟨t.admin.text, "a"⟩]
  hasCentre : s.hasCentre = centre.isSome
  names : q.columns.map outputName? = (["house", "road", "house_number", "postcode", "city", "trgm_dist", "x", "y"] ++
    if s.hasCentre then ["dist"] else []).map some
  store : ∀ {σ C : Type} (b : Backend σ C),
    b.store.search s = b.call s.statement (Database.candidates centre.isSome)
  rows : Database.ReadsRows (Database.candidates centre.isSome) (Database.Row.required s.hasCentre)
    (Database.Row.IsCandidate s.hasCentre)
  read : ∀ column, Database.Row.Matters (fun r => Database.candidates centre.isSome [r]) column ↔
    some column ∈ q.columns.map outputName?
  order : s.order = (if s.hasCentre then [⟨.centre, .ascending⟩] else []) ++ [⟨.trigram, .descending⟩]
  terms : q.order = s.order.map fun o => [.word o.key.column, .word o.direction.keyword]
  selected : ∀ o ∈ s.order, some o.key.column ∈ q.columns.map outputName?
  filter_isSome : q.filter.isSome = true ↔
    a.road.isSome = true ∨ a.houseNumber.isSome = true ∨ a.postcode.isSome = true ∨ a.city.isSome = true
  conditions : q.filter.getD [] = conditions a
  limit : s.limit = limit ∧ ∃ n, q.limit = [.value (.int64 n)] ∧ n.toInt = s.limit.toNat

theorem hasCentre_build : (build t a centre limit).hasCentre = centre.isSome := by
  cases centre <;> rfl

theorem outputNames_query : (query t a centre limit).columns.map outputName? =
    (Database.Row.columns centre.isSome).map some := by
  have hroad : outputName? (wordsOf "(" ++ trigramTokens a.road ++ wordsOf ")::float8 AS trgm_dist") =
      some "trgm_dist" := by
    cases a.road with
    | none => cbv
    | some road => cbv
  have hcentre : (centreColumns centre).map outputName? = (if centre.isSome then ["dist"] else []).map some := by
    cases centre with
    | none => rfl
    | some p => cbv
  rw [query, columns, List.map_append, hcentre, Database.Row.columns, List.map_append]
  simp only [List.map_cons, hroad]
  rfl

theorem tables_eq (s : Strategy) : (first t s, (joined t s).map fun j => (j.join, j.source)) = tablesOf t s := by
  cases s <;> rfl

theorem sources_perm (s : Strategy) :
    (first t s :: (joined t s).map Joined.source).Perm [buildings t, postcodes t, admins t] := by
  cases s with
  | byPostcode => exact .swap _ _ _
  | byCity => exact @List.perm_append_comm _ [admins t] [buildings t, postcodes t]
  | byRoad => exact .rfl

theorem column_mem_of_order (centre : Option ProjectedPoint) :
    ∀ o ∈ orderOf centre, o.key.column ∈ Database.Row.columns centre.isSome := by
  cases centre <;> simp [orderOf, SortKey.column, Database.Row.columns]

theorem filterOf_isSome (a : QueryAddress) : (filterOf (conditions a)).isSome = true ↔
    a.road.isSome = true ∨ a.houseNumber.isSome = true ∨ a.postcode.isSome = true ∨ a.city.isSome = true := by
  obtain ⟨road, houseNumber, postcode, city⟩ := a
  cases road <;> cases houseNumber <;> cases postcode <;> cases city <;> simp [conditions, comparison, filterOf]

theorem filterOf_getD (cs : List (List Token)) : (filterOf cs).getD [] = cs := by cases cs <;> rfl

end Geocoding.Search
