import Geocoding.Proofs.Sql.Token

/-!
# Reading a query

The tokens of a statement are divided into clauses at the keywords outside brackets. Directly after `FROM` and `JOIN`
a name is expected, so a word there is never a keyword. A query whose parts have their brackets closed and no
separators or keywords outside them is read back from its tokens.
-/

namespace Geocoding.Sql

inductive Keyword where
  | select
  | source
  | left
  | join
  | filter
  | order
  | limit
  deriving DecidableEq

namespace Keyword

def text : Keyword → String
  | select => "SELECT"
  | source => "FROM"
  | left => "LEFT"
  | join => "JOIN"
  | filter => "WHERE"
  | order => "ORDER"
  | limit => "LIMIT"

def all : List Keyword := [select, source, left, join, filter, order, limit]

def ofText? (w : String) : Option Keyword := all.find? (·.text == w)

theorem ofText?_text (k : Keyword) : ofText? k.text = some k := by cases k <;> decide

/-- Whether a name comes next. -/
def isNaming : Keyword → Bool
  | source | join => true
  | _ => false

end Keyword

namespace Token

def is (w : String) : Token → Bool
  | word s => s == w
  | value _ => false

def keyword? : Token → Option Keyword
  | word s => Keyword.ofText? s
  | value _ => none

def depthAfter (t : Token) (depth : Nat) : Nat :=
  if t.is "(" then depth + 1 else if t.is ")" then depth - 1 else depth

end Token

structure QueryClause where
  keyword : Keyword
  body : List Token

namespace QueryClause

def tokens (c : QueryClause) : List Token := .word c.keyword.text :: c.body

/-- The clauses of a text, where `read` (last token first) has been read of the body of the first one. -/
def divideFrom (k : Keyword) (read : List Token) (isName : Bool) (depth : Nat) : List Token → List QueryClause
  | [] => [⟨k, read.reverse⟩]
  | t :: ts =>
    if isName then divideFrom k (t :: read) false depth ts
    else
      match if depth = 0 then t.keyword? else none with
      | some k' => ⟨k, read.reverse⟩ :: divideFrom k' [] k'.isNaming 0 ts
      | none => divideFrom k (t :: read) false (t.depthAfter depth) ts

/-- The clauses of a text that begins with one. -/
def divide : List Token → List QueryClause
  | [] => []
  | t :: ts =>
    match t.keyword? with
    | some k => divideFrom k [] k.isNaming 0 ts
    | none => []

end QueryClause

/-- The items between the separators outside brackets, where `read` (last token first) has been read of the first
one. -/
def itemsFrom (separator : String) (read : List Token) (depth : Nat) : List Token → List (List Token)
  | [] => [read.reverse]
  | t :: ts =>
    if depth = 0 ∧ t.is separator = true then read.reverse :: itemsFrom separator [] 0 ts
    else itemsFrom separator (t :: read) (t.depthAfter depth) ts

def items (separator : String) (ts : List Token) : List (List Token) := itemsFrom separator [] 0 ts

def list (separator : String) (is : List (List Token)) : List Token := [Token.word separator].intercalate is

inductive Join where
  | inner
  | left
  deriving DecidableEq

/-- A table and the name that its columns are known by. -/
structure Source where
  table : String
  name : String
  deriving DecidableEq

structure Joined where
  join : Join
  source : Source
  condition : List Token

structure Query where
  columns : List (List Token)
  first : Source
  joined : List Joined
  /-- The conditions, if there is a clause for them. -/
  filter : Option (List (List Token))
  order : List (List Token)
  limit : List Token

/-! ### Writing -/

def Source.tokens (s : Source) : List Token := [.word s.table, .word s.name]

def Joined.clauses (j : Joined) : List QueryClause :=
  (match j.join with
    | .inner => []
    | .left => [⟨.left, []⟩]) ++ [⟨.join, j.source.tokens ++ .word "ON" :: j.condition⟩]

namespace Query

def filterClauses : Option (List (List Token)) → List QueryClause
  | some conditions => [⟨.filter, list "AND" conditions⟩]
  | none => []

def clauses (q : Query) : List QueryClause :=
  ⟨.select, list "," q.columns⟩ :: ⟨.source, q.first.tokens⟩ ::
    (q.joined.flatMap Joined.clauses ++ (filterClauses q.filter ++
      [⟨.order, .word "BY" :: list "," q.order⟩, ⟨.limit, q.limit⟩]))

def tokens (q : Query) : List Token := q.clauses.flatMap QueryClause.tokens

end Query

/-! ### Reading -/

def Joined.ofBody? (join : Join) : List Token → Option Joined
  | .word table :: .word name :: on :: condition =>
    if on.is "ON" then some ⟨join, ⟨table, name⟩, condition⟩ else none
  | _ => none

/-- The joined tables at the front, and the clauses after them. -/
def Joined.read? : List QueryClause → Option (List Joined × List QueryClause)
  | ⟨.left, []⟩ :: ⟨.join, body⟩ :: cs => do
    let j ← ofBody? .left body
    let (js, rest) ← read? cs
    return (j :: js, rest)
  | ⟨.join, body⟩ :: cs => do
    let j ← ofBody? .inner body
    let (js, rest) ← read? cs
    return (j :: js, rest)
  | cs => some ([], cs)

namespace Query

def readFilter : List QueryClause → Option (List (List Token)) × List QueryClause
  | ⟨.filter, body⟩ :: cs => (some (items "AND" body), cs)
  | cs => (none, cs)

def ofClauses? : List QueryClause → Option Query
  | ⟨.select, columns⟩ :: ⟨.source, [.word table, .word name]⟩ :: cs => do
    let (joined, cs) ← Joined.read? cs
    let (filter, cs) := readFilter cs
    match cs with
    | [⟨.order, key :: order⟩, ⟨.limit, limit⟩] =>
      if key.is "BY" then some ⟨items "," columns, ⟨table, name⟩, joined, filter, items "," order, limit⟩ else none
    | _ => none
  | _ => none

end Query

/-- The query that a statement is, if it is one. -/
def Statement.query? (s : Statement) : Option Query := Query.ofClauses? (QueryClause.divide s.tokens)

/-- The name of a column of the result: that after `AS`, or that of the column which is selected. -/
def outputName? (column : List Token) : Option String :=
  match column.reverse with
  | [.word w] => some (.ofList (w.toList.reverse.takeWhile (· != '.')).reverse)
  | .word name :: as :: _ => if as.is "AS" then some name else none
  | _ => none

/-! ### Closed brackets -/

variable {stops stops' : Token → Bool} {depth : Nat} {read xs ys : List Token} {k : Keyword} {separator : String}

/-- Within `depth` brackets, these are all closed in the end, and outside brackets no token stops. -/
def Closes (stops : Token → Bool) (depth : Nat) : List Token → Bool
  | [] => depth == 0
  | t :: ts => !(depth == 0 && stops t) && Closes stops (t.depthAfter depth) ts

theorem closes_cons {t : Token} : Closes stops depth (t :: xs) = true ↔
    ¬ (depth = 0 ∧ stops t = true) ∧ Closes stops (t.depthAfter depth) xs = true := by
  simp [Closes, imp_iff_not_or]

theorem closes_append (hx : Closes stops depth xs = true) :
    Closes stops depth (xs ++ ys) = Closes stops 0 ys := by
  induction xs generalizing depth with
  | nil =>
    obtain rfl : depth = 0 := by simpa [Closes] using hx
    rfl
  | cons t xs ih =>
    obtain ⟨ht, hx⟩ := closes_cons.mp hx
    have ht : (!(depth == 0 && stops t)) = true := by simpa [imp_iff_not_or] using ht
    rw [List.cons_append, Closes, ih hx, ht, Bool.true_and]

theorem closes_mono (hstops : ∀ t, stops' t = true → stops t = true) (h : Closes stops depth xs = true) :
    Closes stops' depth xs = true := by
  induction xs generalizing depth with
  | nil => exact h
  | cons t xs ih =>
    obtain ⟨ht, hx⟩ := closes_cons.mp h
    exact closes_cons.mpr ⟨fun hd => ht ⟨hd.1, hstops t hd.2⟩, ih hx⟩

def isKeyword (t : Token) : Bool := t.keyword?.isSome

/-- A text that may stand between separators in a clause. -/
def IsItem (separator : String) (item : List Token) : Prop :=
  Closes (fun t => t.is separator || isKeyword t) 0 item = true

theorem IsItem.closes_separator (h : IsItem separator xs) : Closes (·.is separator) 0 xs = true :=
  closes_mono (fun _ ht => by simp [ht]) h

theorem IsItem.closes_keyword (h : IsItem separator xs) : Closes isKeyword 0 xs = true :=
  closes_mono (fun _ ht => by simp [ht]) h

theorem closes_list {is : List (List Token)} (hs : Closes stops 0 [.word separator] = true)
    (h : ∀ i ∈ is, Closes stops 0 i = true) : Closes stops 0 (list separator is) = true := by
  induction is with
  | nil => rfl
  | cons i is ih =>
    obtain ⟨hi, his⟩ := List.forall_mem_cons.mp h
    cases is with
    | nil => rwa [list, List.intercalate_singleton]
    | cons j is =>
      rw [list, List.intercalate_cons_cons, List.append_assoc, closes_append hi, closes_append hs]
      exact ih his

/-! ### Items -/

theorem itemsFrom_append (h : Closes (·.is separator) depth xs = true) (read ys : List Token) :
    itemsFrom separator read depth (xs ++ ys) = itemsFrom separator (xs.reverse ++ read) 0 ys := by
  induction xs generalizing read depth with
  | nil =>
    obtain rfl : depth = 0 := by simpa [Closes] using h
    rfl
  | cons t xs ih =>
    obtain ⟨ht, hx⟩ := closes_cons.mp h
    rw [List.cons_append, itemsFrom, if_neg ht, ih hx]
    simp

theorem items_list {is : List (List Token)} (hne : is ≠ []) (h : ∀ i ∈ is, IsItem separator i) :
    items separator (list separator is) = is := by
  induction is with
  | nil => exact absurd rfl hne
  | cons i is ih =>
    obtain ⟨hi, his⟩ := List.forall_mem_cons.mp h
    have hread := itemsFrom_append hi.closes_separator []
    cases is with
    | nil =>
      have hlast := hread []
      rw [List.append_nil] at hlast
      rw [items, list, List.intercalate_singleton, hlast]
      simp [itemsFrom]
    | cons j is =>
      have hsep : (Token.word separator).is separator = true := beq_self_eq_true separator
      rw [items, list, List.intercalate_cons_cons, List.append_assoc, hread, List.singleton_append, itemsFrom,
        if_pos ⟨rfl, hsep⟩]
      have ih := ih (List.cons_ne_nil _ _) his
      rw [items, list] at ih
      rw [ih]
      simp

/-! ### Clauses -/

namespace QueryClause

variable {c : QueryClause} {cs : List QueryClause}

/-- The clause ends where the next one begins. -/
def IsWhole (c : QueryClause) : Prop :=
  if c.keyword.isNaming then ∃ name rest, c.body = name :: rest ∧ Closes isKeyword 0 rest = true
  else Closes isKeyword 0 c.body = true

theorem divideFrom_append (h : Closes isKeyword depth xs = true) (read ys : List Token) :
    divideFrom k read false depth (xs ++ ys) = divideFrom k (xs.reverse ++ read) false 0 ys := by
  induction xs generalizing read depth with
  | nil =>
    obtain rfl : depth = 0 := by simpa [Closes] using h
    rfl
  | cons t xs ih =>
    obtain ⟨ht, hx⟩ := closes_cons.mp h
    have hnone : (if depth = 0 then t.keyword? else none) = none := by
      split
      · next hd => simpa [isKeyword, hd] using ht
      · rfl
    rw [List.cons_append, divideFrom, if_neg Bool.false_ne_true, hnone, ih hx]
    simp

theorem keyword?_text (k : Keyword) : (Token.word k.text).keyword? = some k := k.ofText?_text

/-- A clause that is followed by another, or by nothing, has been read when its body has. -/
theorem divideFrom_tokens (k : Keyword) (read : List Token) (cs : List QueryClause) :
    divideFrom k read false 0 (cs.flatMap tokens) = ⟨k, read.reverse⟩ :: divide (cs.flatMap tokens) := by
  cases cs with
  | nil => rfl
  | cons c cs =>
    rw [List.flatMap_cons, tokens, List.cons_append, divideFrom, if_neg Bool.false_ne_true, if_pos rfl, divide,
      keyword?_text]

theorem divide_tokens (h : ∀ c ∈ cs, c.IsWhole) : divide (cs.flatMap tokens) = cs := by
  induction cs with
  | nil => rfl
  | cons c cs ih =>
    obtain ⟨hc, hcs⟩ := List.forall_mem_cons.mp h
    rw [List.flatMap_cons, tokens, List.cons_append, divide, keyword?_text]
    dsimp only
    have hbody : divideFrom c.keyword [] c.keyword.isNaming 0 (c.body ++ cs.flatMap tokens) =
        divideFrom c.keyword c.body.reverse false 0 (cs.flatMap tokens) := by
      unfold IsWhole at hc
      split at hc
      · next hnaming =>
        obtain ⟨name, rest, hbody, hrest⟩ := hc
        rw [hnaming, hbody, List.cons_append, divideFrom, if_pos rfl, divideFrom_append hrest]
        simp
      · next hnaming =>
        rw [Bool.not_eq_true] at hnaming
        rw [hnaming, divideFrom_append hc, List.append_nil]
    rw [hbody, divideFrom_tokens, List.reverse_reverse, ih hcs]

end QueryClause

/-! ### Queries -/

namespace Joined

theorem ofBody?_tokens (j : Joined) : ofBody? j.join (j.source.tokens ++ .word "ON" :: j.condition) = some j := rfl

/-- The joined tables are read up to clauses that join none. -/
theorem read?_append {rest : List QueryClause} (h : read? rest = some ([], rest)) (js : List Joined) :
    read? (js.flatMap clauses ++ rest) = some (js, rest) := by
  induction js with
  | nil => exact h
  | cons j js ih =>
    have hbody := ofBody?_tokens j
    rw [List.flatMap_cons, List.append_assoc, clauses]
    cases hj : j.join with
    | inner =>
      rw [hj] at hbody
      simp only [List.nil_append, List.singleton_append, read?, hbody, ih]
      rfl
    | left =>
      rw [hj] at hbody
      simp only [List.cons_append, List.nil_append, read?, hbody, ih]
      rfl

theorem isWhole_clauses {j : Joined} (hname : Closes isKeyword 0 [.word j.source.name] = true)
    (hcondition : Closes isKeyword 0 j.condition = true) : ∀ c ∈ j.clauses, c.IsWhole := by
  have hon : Closes isKeyword 0 [.word "ON"] = true := rfl
  have hrest : Closes isKeyword 0 (.word j.source.name :: .word "ON" :: j.condition) = true := by
    rw [← List.singleton_append, closes_append hname, ← List.singleton_append, closes_append hon, hcondition]
  have hjoin : QueryClause.IsWhole ⟨.join, j.source.tokens ++ .word "ON" :: j.condition⟩ := ⟨_, _, rfl, hrest⟩
  intro c hc
  rw [clauses, List.mem_append, List.mem_singleton] at hc
  obtain hc | rfl := hc
  · split at hc
    · cases hc
    · obtain rfl := List.mem_singleton.mp hc
      rfl
  · exact hjoin

end Joined

namespace Query

def sources (q : Query) : List Source := q.first :: q.joined.map Joined.source

/-- The parts of a query have their brackets closed, and no separators or keywords outside them. A table may have any
name. -/
structure IsWhole (q : Query) : Prop where
  columns_ne_nil : q.columns ≠ []
  columns : ∀ column ∈ q.columns, IsItem "," column
  names : ∀ source ∈ q.sources, Closes isKeyword 0 [.word source.name] = true
  joined : ∀ j ∈ q.joined, Closes isKeyword 0 j.condition = true
  filter_ne_nil : q.filter ≠ some []
  filter : ∀ conditions ∈ q.filter, ∀ condition ∈ conditions, IsItem "AND" condition
  order_ne_nil : q.order ≠ []
  order : ∀ term ∈ q.order, IsItem "," term
  limit : Closes isKeyword 0 q.limit = true

variable {q : Query}

theorem isWhole_of_mem_clauses (h : q.IsWhole) : ∀ c ∈ q.clauses, c.IsWhole := by
  have hcomma : Closes isKeyword 0 [.word ","] = true := rfl
  have hand : Closes isKeyword 0 [.word "AND"] = true := rfl
  have hby : Closes isKeyword 0 [.word "BY"] = true := rfl
  have hlist {is : List (List Token)} (his : ∀ i ∈ is, IsItem "," i) : Closes isKeyword 0 (list "," is) = true :=
    closes_list hcomma fun i hi => (his i hi).closes_keyword
  intro c hc
  simp only [clauses, List.mem_cons, List.mem_append, List.mem_flatMap, List.not_mem_nil, or_false] at hc
  obtain rfl | rfl | ⟨j, hj, hc⟩ | hc | rfl | rfl := hc
  · exact hlist h.columns
  · exact ⟨_, _, rfl, h.names q.first List.mem_cons_self⟩
  · have hname := h.names j.source (List.mem_cons_of_mem _ (List.mem_map_of_mem hj))
    exact Joined.isWhole_clauses hname (h.joined j hj) c hc
  · unfold filterClauses at hc
    split at hc
    · next conditions hf =>
      obtain rfl := List.mem_singleton.mp hc
      exact closes_list hand fun i hi => (h.filter conditions hf i hi).closes_keyword
    · cases hc
  · have horder : Closes isKeyword 0 ([.word "BY"] ++ list "," q.order) = true := by
      rw [closes_append hby, hlist h.order]
    exact horder
  · exact h.limit

theorem ofClauses?_clauses (h : q.IsWhole) : ofClauses? q.clauses = some q := by
  have hcolumns := items_list h.columns_ne_nil h.columns
  have horder := items_list h.order_ne_nil h.order
  have hjoined : Joined.read? (filterClauses q.filter ++
      [⟨.order, .word "BY" :: list "," q.order⟩, ⟨.limit, q.limit⟩]) =
        some ([], filterClauses q.filter ++ [⟨.order, .word "BY" :: list "," q.order⟩, ⟨.limit, q.limit⟩]) := by
    cases q.filter <;> rfl
  have hfilter : readFilter (filterClauses q.filter ++
      [⟨.order, .word "BY" :: list "," q.order⟩, ⟨.limit, q.limit⟩]) =
        (q.filter, [⟨.order, .word "BY" :: list "," q.order⟩, ⟨.limit, q.limit⟩]) := by
    cases hf : q.filter with
    | none => rfl
    | some conditions =>
      have hne : conditions ≠ [] := by
        rintro rfl
        exact h.filter_ne_nil hf
      have hitems := items_list hne (h.filter conditions hf)
      simp only [filterClauses, List.singleton_append, readFilter, hitems]
  have hread := Joined.read?_append hjoined q.joined
  rw [clauses, Source.tokens, ofClauses?, hread]
  simp only [Option.bind_eq_bind, Option.bind_some, hfilter, hcolumns, horder]
  rfl

/-- A query is read back from its tokens. -/
theorem query?_of_tokens {s : Statement} (hs : s.tokens = q.tokens) (h : q.IsWhole) : s.query? = some q := by
  rw [Statement.query?, hs, tokens, QueryClause.divide_tokens (isWhole_of_mem_clauses h), ofClauses?_clauses h]

example : (Statement.query? ⟨"SELECT b.road, 1 AS x FROM LIMIT b ORDER BY road ASC LIMIT $1", [.int64 5]⟩).map
    (fun q => (q.sources, q.columns.map outputName?)) = some ([⟨"LIMIT", "b"⟩], [some "road", some "x"]) := by
  cbv

end Query

end Geocoding.Sql
