import Geocoding.Toml.Scalar
import Geocoding.Toml.Table
import Geocoding.Toml.Token

/-!
# Reading TOML

The lines of a document are read from its tokens by a machine that remembers the brackets still open.
Every token moves the machine on or is refused, so reading takes one pass and always ends.
-/

namespace Geocoding.Toml

/-- Something unfinished around a value: a list or an inline table with its parts so far, last first, or
the line itself. -/
inductive Frame where
  | list (items : List Value)
  | table (entries : List (Path × Value)) (p : Path)
  | line (p : Path)

/-- What a path is read for; an inline table comes with its entries so far. -/
inductive Use where
  | line
  | header
  | listHeader
  | member (entries : List (Path × Value)) (around : List Frame)

/-- What may come next. The names of a path stand last first. -/
inductive State where
  | start
  | bracket
  | name (use : Use) (names : List String)
  | afterName (use : Use) (before : List String) (last : String)
  /-- After the first of the two brackets that close a repeated header. -/
  | closing (p : Path)
  | value (around : List Frame)
  | member (entries : List (Path × Value)) (around : List Frame)
  | after (around : List Frame) (v : Value)
  /-- In a bare value, read so far. -/
  | scalar (around : List Frame) (read : List Char)
  /-- After a date and one space. -/
  | dateGap (around : List Frame) (read : List Char)
  | ended

/-- Whether `c` may stand in a name without quotes. -/
def isNameChar (c : Char) : Bool := c.isAlphanum || c == '_' || c == '-'

/-- The name that a token spells. -/
def nameOf? : Token → Option String
  | .bare cs => if cs.all isNameChar then some (.ofList cs) else none
  | .text s false => some (.ofList s)
  | _ => none

/-- The greatest number of brackets around a value. -/
def maxDepth : Nat := 80

/-- What has been read, and the lines completed on the way. -/
abbrev Step := List Line × State

/-- The state after a value, and the line that the value completes. -/
def complete (around : List Frame) (v : Value) : Step :=
  match around with
  | [.line p] => ([.entry p v], .ended)
  | around => ([], .after around v)

/-- Closes an inline table. -/
def closeTable? (entries : List (Path × Value)) (around : List Frame) : Option Step :=
  (inlineTable? entries.reverse).map (complete around)

/-- A token where a value is expected. -/
def valueStep? (around : List Frame) : Token → Option Step
  | .blank _ => some ([], .value around)
  | .newline =>
    match around with
    | .list _ :: _ => some ([], .value around)
    | _ => none
  | .openList => do
    if around.length ≤ maxDepth then return ([], .value (.list [] :: around)) else none
  | .openTable => if around.length ≤ maxDepth then some ([], .member [] around) else none
  | .closeList =>
    match around with
    | .list items :: around => some (complete around (.list items.reverse))
    | _ => none
  | .text s _ => some (complete around (.text (.ofList s)))
  | .bare cs => some ([], .scalar around cs)
  | _ => none

/-- A token after a value, inside its brackets. -/
def afterStep? (around : List Frame) (v : Value) : Token → Option Step
  | .blank _ | .newline => some ([], .after around v)
  | .comma =>
    match around with
    | .list items :: around => some ([], .value (.list (v :: items) :: around))
    | .table entries p :: around => some ([], .member ((p, v) :: entries) around)
    | _ => none
  | .closeList =>
    match around with
    | .list items :: around => some (complete around (.list (v :: items).reverse))
    | _ => none
  | .closeTable =>
    match around with
    | .table entries p :: around => closeTable? ((p, v) :: entries) around
    | _ => none
  | _ => none

/-- A token at the end of a line. -/
def endedStep? : Token → Option Step
  | .blank _ => some ([], .ended)
  | .newline => some ([], .start)
  | _ => none

/-- A token after a bare value that is complete. -/
def scalarEnd? (around : List Frame) (read : List Char) (t : Token) : Option Step := do
  match complete around (← scalar? read) with
  | (ls, .after around v) => (afterStep? around v t).map fun (ls', s) => (ls ++ ls', s)
  | (ls, _) => (endedStep? t).map fun (ls', s) => (ls ++ ls', s)

/-- A token after the name of a path. -/
def afterNameStep? (use : Use) (before : List String) (last : String) (t : Token) : Option Step :=
  let p : Path := ⟨before.reverse, last⟩
  match t, use with
  | .blank _, _ => some ([], .afterName use before last)
  | .dot, _ => some ([], .name use (last :: before))
  | .equals, .line => some ([], .value [.line p])
  | .equals, .member entries around => some ([], .value (.table entries p :: around))
  | .closeList, .header => some ([.header p], .ended)
  | .closeList, .listHeader => some ([], .closing p)
  | _, _ => none

/-- Reads one token. -/
def State.step? (s : State) (t : Token) : Option Step :=
  match s with
  | .start =>
    match t with
    | .blank _ | .newline => some ([], .start)
    | .openList => some ([], .bracket)
    | t => (nameOf? t).map fun n => ([], .afterName .line [] n)
  | .bracket =>
    match t with
    | .blank _ => some ([], .name .header [])
    | .openList => some ([], .name .listHeader [])
    | t => (nameOf? t).map fun n => ([], .afterName .header [] n)
  | .name use names =>
    match t with
    | .blank _ => some ([], .name use names)
    | t => (nameOf? t).map fun n => ([], .afterName use names n)
  | .afterName use before last => afterNameStep? use before last t
  | .closing p => if t = .closeList then some ([.listHeader p], .ended) else none
  | .value around => valueStep? around t
  | .member entries around =>
    match t with
    | .blank _ | .newline => some ([], .member entries around)
    | .closeTable => closeTable? entries around
    | t => (nameOf? t).map fun n => ([], .afterName (.member entries around) [] n)
  | .after around v => afterStep? around v t
  | .scalar around read =>
    match t with
    | .bare cs => some ([], .scalar around (read ++ cs))
    | .dot => some ([], .scalar around (read ++ ['.']))
    | .blank ' ' =>
      if date? read = some [] then some ([], .dateGap around read) else scalarEnd? around read t
    | t => scalarEnd? around read t
  | .dateGap around read =>
    match t with
    | .bare (c :: cs) =>
      if c.isDigit then some ([], .scalar around (read ++ ' ' :: c :: cs)) else none
    | t => scalarEnd? around read t
  | .ended => endedStep? t

/-- The lines that the end of the text completes. -/
def State.finish? : State → Option (List Line)
  | .start | .ended => some []
  | .scalar [.line p] read | .dateGap [.line p] read => (scalar? read).map fun v => [.entry p v]
  | _ => none

/-- The lines of tokens after a state. -/
def State.lines? (s : State) : List Token → Option (List Line)
  | [] => s.finish?
  | t :: ts => do
    let (ls, s) ← s.step? t
    let rest ← s.lines? ts
    return ls ++ rest

/-- The table that a text describes. -/
def read? (text : String) : Option Value := do
  let ts ← scan text.toList
  let ls ← State.start.lines? ts
  assemble? ls

end Geocoding.Toml
