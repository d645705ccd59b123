import Geocoding.Json.Reader
import Geocoding.Proofs.Json.Scanning

/-!
# Reading lists and objects

What is read as a value alone is read as the same value inside a list and as a member of an object.
-/

namespace Geocoding.Json

variable {s s' : State} {t : Token} {ts us : List Token} {around outer : List Frame} {v : Value}

namespace State

/-- The same state inside more brackets. -/
def within (outer : List Frame) : State → State
  | .value around => .value (around ++ outer)
  | .firstItem around => .firstItem (around ++ outer)
  | .firstName around => .firstName (around ++ outer)
  | .name members around => .name members (around ++ outer)
  | .colon members n around => .colon members n (around ++ outer)
  | .after v around => .after v (around ++ outer)

theorem begin?_within (h : begin? around t = some s) :
    begin? (around ++ outer) t = some (s.within outer) := by
  cases t with
  | closeList => cases h
  | closeObject => cases h
  | comma => cases h
  | colon => cases h
  | openList => obtain rfl := Option.some.inj h; rfl
  | openObject => obtain rfl := Option.some.inj h; rfl
  | null => obtain rfl := Option.some.inj h; rfl
  | bool b => obtain rfl := Option.some.inj h; rfl
  | number n => obtain rfl := Option.some.inj h; rfl
  | text s => obtain rfl := Option.some.inj h; rfl

theorem firstItem_step? (around : List Frame) (h : t ≠ .closeList) :
    (State.firstItem around).step? t = begin? (.item [] :: around) t := by
  cases t with
  | closeList => exact absurd rfl h
  | _ => rfl

theorem step?_within (h : s.step? t = some s') : (s.within outer).step? t = some (s'.within outer) := by
  cases s with
  | value around => exact begin?_within h
  | firstItem around =>
    -- Any other token begins an item, and the cases of those are one lemma.
    by_cases ht : t = .closeList
    · subst ht
      obtain rfl := Option.some.inj h
      rfl
    · rw [firstItem_step? around ht] at h
      exact (firstItem_step? _ ht).trans (begin?_within h)
  | firstName around =>
    cases t with
    | closeObject => obtain rfl := Option.some.inj h; rfl
    | text n => obtain rfl := Option.some.inj h; rfl
    | _ => cases h
  | name members around =>
    cases t with
    | text n => obtain rfl := Option.some.inj h; rfl
    | _ => cases h
  | colon members n around =>
    cases t with
    | colon => obtain rfl := Option.some.inj h; rfl
    | _ => cases h
  | after v around =>
    match around with
    | [] => cases h
    | .item items :: around =>
      cases t with
      | comma => obtain rfl := Option.some.inj h; rfl
      | closeList => obtain rfl := Option.some.inj h; rfl
      | _ => cases h
    | .member members n :: around =>
      cases t with
      | comma => obtain rfl := Option.some.inj h; rfl
      | closeObject => obtain rfl := Option.some.inj h; rfl
      | _ => cases h

theorem run?_cons (s : State) (t : Token) (ts : List Token) :
    s.run? (t :: ts) = (s.step? t).bind fun next => next.run? ts := rfl

theorem run?_within (h : s.run? ts = some s') : (s.within outer).run? ts = some (s'.within outer) := by
  induction ts generalizing s with
  | nil =>
    obtain rfl := Option.some.inj h
    rfl
  | cons t ts ih =>
    rw [run?_cons, Option.bind_eq_some_iff] at h
    obtain ⟨next, hs, hn⟩ := h
    rw [run?_cons, step?_within hs]
    exact ih hn

theorem run?_append (ts us : List Token) (s : State) :
    s.run? (ts ++ us) = (s.run? ts).bind fun next => next.run? us :=
  List.foldlM_append

end State

/-- The tokens of a value that stands alone. -/
def Spelled (ts : List Token) (v : Value) : Prop := (State.value []).run? ts = some (.after v [])

theorem read?_eq_some_iff {cs : List Char} :
    read? cs = some v ↔ ∃ ts, scan cs = some ts ∧ Spelled ts v := by
  unfold read? Spelled
  constructor
  · intro h
    simp only [Option.bind_eq_bind, Option.bind_eq_some_iff] at h
    obtain ⟨ts, hts, s, hs, hv⟩ := h
    split at hv
    · obtain rfl := Option.some.inj hv
      exact ⟨ts, hts, hs⟩
    · cases hv
  · rintro ⟨ts, hts, hs⟩
    simp [hts, hs]

theorem Spelled.run? (h : Spelled ts v) (outer : List Frame) :
    (State.value outer).run? ts = some (.after v outer) :=
  State.run?_within h

theorem Spelled.firstItem (h : Spelled ts v) (outer : List Frame) :
    (State.firstItem outer).run? ts = some (.after v (.item [] :: outer)) := by
  have hv := h.run? (.item [] :: outer)
  cases ts with
  | nil => cases hv
  | cons t ts =>
    have ht : t ≠ .closeList := by
      rintro rfl
      cases hv
    rw [State.run?_cons, State.firstItem_step? outer ht]
    exact hv

theorem read?_textOf (s : String) : read? (textOf s) = some (.text s) := by
  have hscan := scan_textOf s []
  rw [List.append_nil] at hscan
  exact read?_eq_some_iff.mpr ⟨[.text (some s)], hscan, rfl⟩

/-- After a part comes the comma before the next one, or what closes the bracket. -/
theorem endsToken_parts (css : List (List Char)) {rest : List Char} (hr : EndsToken rest) :
    EndsToken (css.flatMap (',' :: ·) ++ rest) := by
  cases css with
  | nil => exact hr
  | cons cs css => exact ⟨',', _, _, rfl, by decide, rfl⟩

/-! ### Lists -/

theorem endsToken_closeList : EndsToken [']'] := ⟨']', [], _, rfl, by decide, rfl⟩

/-- The text of a list, from the texts of its items. -/
def listText : List (List Char) → List Char
  | [] => ['[', ']']
  | cs :: css => '[' :: (cs ++ (css.flatMap (',' :: ·) ++ [']']))

/-- After one item come the others, each of them read as it is alone. -/
theorem exists_run?_items (items : List (List Char × Value)) (h : ∀ i ∈ items, read? i.1 = some i.2) :
    ∃ ts, scan ((items.map (·.1)).flatMap (',' :: ·) ++ [']']) = some ts ∧
      ∀ v done outer, (State.after v (.item done :: outer)).run? ts =
        some (.after (.list (done.reverse ++ v :: items.map (·.2))) outer) := by
  induction items with
  | nil =>
    refine ⟨[.closeList], rfl, fun v done outer => ?_⟩
    have hrun : (State.after v (.item done :: outer)).run? [.closeList] =
        some (.after (.list (v :: done).reverse) outer) := rfl
    simpa using hrun
  | cons i items ih =>
    obtain ⟨hi, his⟩ := List.forall_mem_cons.mp h
    obtain ⟨us, hus, hrun⟩ := ih his
    obtain ⟨ts, hts, hv⟩ := read?_eq_some_iff.mp hi
    refine ⟨.comma :: (ts ++ us), ?_, fun v done outer => ?_⟩
    · -- Whatever comes after the item ends its last token: a comma or the bracket.
      have hcomma : start? ',' = some ([.comma], .between) := rfl
      have hscan : scan (i.1 ++ _) = _ := scanFrom_append (endsToken_parts (items.map (·.1)) endsToken_closeList) hts
      rw [List.map_cons, List.flatMap_cons, List.append_assoc, List.cons_append, scan_cons hcomma,
        hscan, hus]
      rfl
    · have hcomma : (State.after v (.item done :: outer)).step? .comma =
          some (.value (.item (v :: done) :: outer)) := rfl
      rw [State.run?_cons, hcomma, Option.bind_some, State.run?_append, hv.run?, Option.bind_some, hrun]
      simp

theorem read?_listText (items : List (List Char × Value)) (h : ∀ i ∈ items, read? i.1 = some i.2) :
    read? (listText (items.map (·.1))) = some (.list (items.map (·.2))) := by
  cases items with
  | nil => rfl
  | cons i items =>
    obtain ⟨hi, his⟩ := List.forall_mem_cons.mp h
    obtain ⟨us, hus, hrun⟩ := exists_run?_items items his
    obtain ⟨ts, hts, hv⟩ := read?_eq_some_iff.mp hi
    have hopen : start? '[' = some ([.openList], .between) := rfl
    have hscan : scan (i.1 ++ _) = _ := scanFrom_append (endsToken_parts (items.map (·.1)) endsToken_closeList) hts
    refine read?_eq_some_iff.mpr ⟨.openList :: (ts ++ us), ?_, ?_⟩
    · rw [List.map_cons, listText, scan_cons hopen, hscan, hus]
      rfl
    · have hfirst : (State.value []).step? .openList = some (.firstItem []) := rfl
      rw [Spelled, State.run?_cons, hfirst, Option.bind_some, State.run?_append, hv.firstItem,
        Option.bind_some, hrun]
      rfl

/-! ### Objects -/

theorem endsToken_closeObject : EndsToken ['}'] := ⟨'}', [], _, rfl, by decide, rfl⟩

/-- The text of a member, from its name and the text of its value. -/
def memberText (name : String) (cs : List Char) : List Char := textOf name ++ ':' :: cs

/-- The text of an object, from the texts of its members. -/
def objectText : List (List Char) → List Char
  | [] => ['{', '}']
  | cs :: css => '{' :: (cs ++ (css.flatMap (',' :: ·) ++ ['}']))

theorem scan_memberText {cs rest : List Char} (name : String) (hr : EndsToken rest) (h : scan cs = some ts) :
    scan (memberText name cs ++ rest) = (scan rest).map (.text (some name) :: .colon :: ts ++ ·) := by
  have hcolon : start? ':' = some ([.colon], .between) := rfl
  have hscan : scan (cs ++ rest) = (scan rest).map (ts ++ ·) := scanFrom_append hr h
  rw [memberText, List.append_assoc, List.cons_append, scan_textOf, scan_cons hcolon, hscan, Option.map_map,
    Option.map_map]
  rfl

theorem Spelled.name (h : Spelled ts v) (n : String) (done : List (Option String × Value)) (outer : List Frame) :
    (State.name done outer).run? (.text (some n) :: .colon :: ts) = some (.after v (.member done (some n) :: outer)) :=
  h.run? (.member done (some n) :: outer)

theorem Spelled.firstName (h : Spelled ts v) (n : String) (outer : List Frame) :
    (State.firstName outer).run? (.text (some n) :: .colon :: ts) = some (.after v (.member [] (some n) :: outer)) :=
  h.run? (.member [] (some n) :: outer)

theorem objectOf_reverse (ms : List (String × Value)) :
    objectOf (ms.map fun m => (some m.1, m.2)).reverse = .object ms := by
  have hall : (ms.map fun m => (some m.1, m.2)).mapM
      (fun m => m.1.map ((·, m.2) : String → String × Value)) = some ms := by
    induction ms with
    | nil => rfl
    | cons m ms ih => simp [ih]
  unfold objectOf
  rw [List.reverse_reverse]
  split
  · next ms' h => rw [Option.some.inj (h.symm.trans hall)]
  · next h => cases h.symm.trans hall

/-- After one member come the others, the value of each read as it is alone. -/
theorem exists_run?_members (members : List (String × List Char × Value))
    (h : ∀ m ∈ members, read? m.2.1 = some m.2.2) :
    ∃ ts, scan ((members.map fun m => memberText m.1 m.2.1).flatMap (',' :: ·) ++ ['}']) = some ts ∧
      ∀ v n done outer, (State.after v (.member done n :: outer)).run? ts =
        some (.after (objectOf ((members.map fun m => (some m.1, m.2.2)).reverse ++ (n, v) :: done)) outer) := by
  induction members with
  | nil => exact ⟨[.closeObject], rfl, fun v n done outer => rfl⟩
  | cons m members ih =>
    obtain ⟨hm, hms⟩ := List.forall_mem_cons.mp h
    obtain ⟨us, hus, hrun⟩ := ih hms
    obtain ⟨ts, hts, hv⟩ := read?_eq_some_iff.mp hm
    refine ⟨.comma :: (.text (some m.1) :: .colon :: ts ++ us), ?_, fun v n done outer => ?_⟩
    · have hcomma : start? ',' = some ([.comma], .between) := rfl
      rw [List.map_cons, List.flatMap_cons, List.append_assoc, List.cons_append, scan_cons hcomma,
        scan_memberText m.1 (endsToken_parts _ endsToken_closeObject) hts, hus]
      rfl
    · have hcomma : (State.after v (.member done n :: outer)).step? .comma =
          some (.name ((n, v) :: done) outer) := rfl
      rw [State.run?_cons, hcomma, Option.bind_some, State.run?_append, hv.name, Option.bind_some, hrun]
      simp

theorem read?_objectText (members : List (String × List Char × Value))
    (h : ∀ m ∈ members, read? m.2.1 = some m.2.2) :
    read? (objectText (members.map fun m => memberText m.1 m.2.1)) =
      some (.object (members.map fun m => (m.1, m.2.2))) := by
  cases members with
  | nil => rfl
  | cons m members =>
    obtain ⟨hm, hms⟩ := List.forall_mem_cons.mp h
    obtain ⟨us, hus, hrun⟩ := exists_run?_members members hms
    obtain ⟨ts, hts, hv⟩ := read?_eq_some_iff.mp hm
    have hopen : start? '{' = some ([.openObject], .between) := rfl
    refine read?_eq_some_iff.mpr ⟨.openObject :: (.text (some m.1) :: .colon :: ts ++ us), ?_, ?_⟩
    · rw [List.map_cons, objectText, scan_cons hopen,
        scan_memberText m.1 (endsToken_parts _ endsToken_closeObject) hts, hus]
      rfl
    · have hfirst : (State.value []).step? .openObject = some (.firstName []) := rfl
      have hobject := objectOf_reverse ((m :: members).map fun m => (m.1, m.2.2))
      rw [Spelled, State.run?_cons, hfirst, Option.bind_some, State.run?_append, hv.firstName,
        Option.bind_some, hrun]
      simpa [Function.comp_def] using hobject

theorem read?_object_text (name s : String) :
    read? (Value.object [(name, .text s)]).compact = some (.object [(name, .text s)]) :=
  read?_objectText [(name, textOf s, .text s)] (List.forall_mem_singleton.mpr (read?_textOf s))

end Geocoding.Json
