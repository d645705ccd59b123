import Geocoding.Proofs.Sql.Form
import Geocoding.Search

/-!
# The form of a search

A search writes one form, which says of each clause what value stands in it: the numbers of the slots come from
nothing else.
-/

namespace Geocoding.Search

open Sql (Draft Form Part Piece Value)

def trigramForm : Option String → Form
  | some road => [.fixed (.words "b.road <-> "), .value (.text road)]
  | none => [.fixed (.words "0")]

def pointForm (p : ProjectedPoint) : Form :=
  [.fixed (.words "ST_SetSRID(ST_MakePoint("), .value (.real64 p.x), .fixed (.words ", "),
    .value (.real64 p.y), .fixed (.words ("), " ++ Text.signedNumeral webMercator ++ ")"))]

def centreForm : Option ProjectedPoint → Form
  | some p => .fixed (.words ", ST_Distance(ST_Centroid(b.geometry), ") :: pointForm p ++
      [.fixed (.words ") AS dist")]
  | none => []

def columnsForm (road : Option String) (centre : Option ProjectedPoint) : Form :=
  trigramForm road ++ Form.ofPieces [.words ")::float8 AS trgm_dist, ",
    .words "ST_X(ST_Centroid(b.geometry)) AS x, ST_Y(ST_Centroid(b.geometry)) AS y"] ++ centreForm centre

/-- The address columns and the bracket after them count as one: a bracket alone could end the name of a
function. -/
def selectForm (road : Option String) (centre : Option ProjectedPoint) : Form :=
  .fixed (.words (addressColumns ++ "(")) :: columnsForm road centre

def compareForms (columnAndOperator : String) : Option String → List Form
  | some s => [[.fixed (.words columnAndOperator), .value (.text s)]]
  | none => []

def areaForms (a : QueryAddress) : List Form :=
  match a.postcode with
  | some postcode => compareForms "pc.postcode = " (some postcode)
  | none =>
    match a.city with
    | some city => compareForms "a.name % " (some city) ++
        [.ofPieces [.words ("a.admin_level = " ++ Text.numeral cityLevel)]]
    | none => []

def filterForms (a : QueryAddress) : List Form :=
  areaForms a ++ compareForms "b.road % " a.road ++ compareForms "b.house_number % " a.houseNumber

def whereForms : List Form → List Form
  | [] => []
  | F :: Fs => (.fixed (.words " WHERE ") :: F) :: Fs.map (.fixed (.words " AND ") :: ·)

def limitForm (limit : UInt32) : Form :=
  [.fixed (.words " LIMIT "), .value (.int64 (Int64.ofNat limit.toNat))]

def clauses (t : Tables) (a : QueryAddress) (centre : Option ProjectedPoint) (limit : UInt32) :
    List Form :=
  .ofPieces (source t (Strategy.select a)) :: (whereForms (filterForms a) ++
    [.ofPieces (orderClause (orderOf centre)), limitForm limit])

def form (t : Tables) (a : QueryAddress) (centre : Option ProjectedPoint) (limit : UInt32) : Form :=
  selectForm a.road centre ++ (clauses t a centre limit).flatten

/-! ### What each function writes -/

variable (d : Draft)

theorem trigramDistance_eq_reserve (road : Option String) :
    trigramDistance d road = d.reserve (trigramForm road) := by
  cases road with
  | none => simp [trigramDistance, trigramForm, Draft.reserve, Form.numbered, Form.values]
  | some road => simp [trigramDistance, trigramForm, Draft.bind, Draft.reserve, Form.numbered, Form.values]

theorem select_eq_write (road : Option String) (centre : Option ProjectedPoint) :
    select d road centre =
      d.write (.fixed (.words addressColumns) :: .fixed (.words "(") :: columnsForm road centre) := by
  have hp := fun (d : Draft) (p : ProjectedPoint) => d.bindPoint_eq_reserve p.x p.y webMercator
  unfold select
  rw [trigramDistance_eq_reserve]
  cases centre with
  | none =>
    simp only [Draft.push_reserve]
    simp [columnsForm, centreForm, Form.ofPieces]
  | some p =>
    simp only [Draft.push_reserve, hp, Draft.write_write]
    simp [columnsForm, centreForm, pointForm, Form.ofPieces]

theorem compare_eq_reserveEach (columnAndOperator : String) (s : Option String) :
    compare d columnAndOperator s = d.reserveEach (compareForms columnAndOperator s) := by
  cases s with
  | none => simp [compare, compareForms, Draft.reserveEach, Form.numberedEach]
  | some s =>
    simp [compare, compareForms, Draft.bind, Draft.reserveEach, Form.numberedEach, Form.numbered,
      Form.values]

theorem areaFilters_eq_reserveEach (a : QueryAddress) :
    areaFilters d a = d.reserveEach (areaForms a) := by
  unfold areaFilters areaForms
  cases a.postcode with
  | some postcode => exact compare_eq_reserveEach ..
  | none =>
    cases a.city with
    | none => simp [Draft.reserveEach, Form.numberedEach]
    | some city =>
      simp only [compare_eq_reserveEach, Draft.reserveEach_append]
      simp [Draft.reserveEach, Form.numberedEach]

theorem filters_eq_reserveEach (a : QueryAddress) : filters d a = d.reserveEach (filterForms a) := by
  unfold filters filterForms
  simp only [areaFilters_eq_reserveEach, compare_eq_reserveEach, Draft.reserveEach_append]

theorem whereClause_eq_flatten (n : Nat) (Fs : List Form) :
    whereClause (Form.numberedEach n Fs) = (Form.numberedEach n (whereForms Fs)).flatten := by
  cases Fs with
  | nil => rfl
  | cons F Fs =>
    simp [whereClause, whereForms, Form.numberedEach, Form.numbered, Form.values, Sql.intercalate_cons_flatMap,
      Form.numberedEach_map_cons, List.flatMap_def]

theorem values_whereForms (Fs : List Form) : (whereForms Fs).flatMap Form.values = Fs.flatMap Form.values := by
  cases Fs with
  | nil => rfl
  | cons F Fs => simp [whereForms, Form.values, List.flatMap_map]

theorem push_whereClause (Fs : List Form) (ps : List Piece) :
    (d.reserveEach Fs).2.push (whereClause (d.reserveEach Fs).1 ++ ps) =
      d.write ((whereForms Fs).flatten ++ Form.ofPieces ps) := by
  simp [Draft.reserveEach, Draft.push, Draft.write, whereClause_eq_flatten, Form.numbered_flatten,
    Form.values_flatten, values_whereForms]

theorem finish_write_words (v w : String) (F : Form) :
    (Draft.empty.write (.fixed (.words v) :: .fixed (.words w) :: F)).finish =
      (Draft.empty.write (.fixed (.words (v ++ w)) :: F)).finish := by
  have ht (ps : List Piece) : Sql.textOf (.words v :: .words w :: ps) = Sql.textOf (.words (v ++ w) :: ps) :=
    String.toList_injective (by simp [Sql.textOf, Piece.text])
  simp [Draft.finish, Draft.write, Draft.empty, Form.numbered, Form.values, ht]

/-- A search writes the form of its address, its centre and its limit. -/
theorem build_statement (t : Tables) (a : QueryAddress) (centre : Option ProjectedPoint)
    (limit : UInt32) :
    (build t a centre limit).statement = (Draft.empty.write (form t a centre limit)).finish := by
  have hlimit (d : Draft) (v : Value) : d.pushBind v = d.write [.value v] := rfl
  unfold build
  simp only [select_eq_write, Draft.push_eq_write (Draft.write _ _), Draft.write_write,
    filters_eq_reserveEach, List.append_assoc, push_whereClause, hlimit]
  simp only [List.cons_append, finish_write_words]
  simp [form, selectForm, clauses, limitForm, Form.ofPieces]

end Geocoding.Search
