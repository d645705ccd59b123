import Geocoding.Toml.Value

/-!
# Assembling TOML tables

A table is written in parts: under headers, by dotted names, and inline. Each name is defined once. A
header may define a table that earlier headers only passed through, dotted names may extend only what
dotted names began, and an inline table is never extended.
-/

namespace Geocoding.Toml

/-- How a table came into being. -/
inductive Origin where
  /-- Defined by its own header. -/
  | header
  /-- Passed through by a header of a table in it. -/
  | implied
  /-- Passed through by a dotted name. -/
  | dotted
  deriving DecidableEq, Repr

/-- A table being assembled, or what stands in one. -/
inductive Node where
  | closed (v : Value)
  | table (origin : Origin) (members : List (String × Node))
  /-- The tables of a repeated header: those before, and the one that may still grow. -/
  | tables (before : List Value) (last : List (String × Node))

abbrev Members := List (String × Node)

/-- The value that has been assembled. -/
def Node.value : Node → Value
  | .closed v => v
  | .table _ ms => .table (valuesOf ms)
  | .tables before last => .list (before ++ [.table (valuesOf last)])
where
  valuesOf : List (String × Node) → List (String × Value)
    | [] => []
    | (n, node) :: ms => (n, node.value) :: valuesOf ms

/-- Changes the member of a name, or adds it. -/
def Members.alter? (name : String) (f : Option Node → Option Node) : Members → Option Members
  | [] => (f none).map fun node => [(name, node)]
  | (n, node) :: ms =>
    if n = name then (f (some node)).map fun node => (n, node) :: ms
    else (alter? name f ms).map ((n, node) :: ·)

/-- Changes the table that a path leads to. Tables that are missing on the way are begun with origin
`passing`; a dotted name does not pass through a table that has a header of its own. -/
def Members.within? (passing : Origin) (f : Origin → Members → Option Members) :
    List String → Origin → Members → Option Members
  | [], origin, ms => f origin ms
  | name :: path, _, ms => alter? name (fun
      | none => (within? passing f path passing []).map (.table passing)
      | some (.closed _) => none
      | some (.table origin ms) =>
        if passing = .dotted ∧ origin = .header then none
        else (within? passing f path origin ms).map (.table origin)
      | some (.tables before last) => (within? passing f path .header last).map (.tables before)) ms

/-- Adds an entry to a table. The last of several names goes into a table that dotted names began. -/
def Members.entry? (ms : Members) (path : List String) (name : String) (v : Value)
    (origin : Origin) : Option Members :=
  within? .dotted (fun origin ms =>
    if (origin = .dotted) = (path = []) then none
    else ms.alter? name fun
      | none => some (.closed v)
      | some _ => none) path origin ms

/-- Opens the table of a header. -/
def Members.header? (root : Members) (path : List String) (name : String) : Option Members :=
  within? .implied (fun _ ms => ms.alter? name fun
    | none => some (.table .header [])
    | some (.table .implied ms) => some (.table .header ms)
    | _ => none) path .header root

/-- Opens a further table of a repeated header. -/
def Members.listHeader? (root : Members) (path : List String) (name : String) : Option Members :=
  within? .implied (fun _ ms => ms.alter? name fun
    | none => some (.tables [] [])
    | some (.tables before last) => some (.tables (before ++ [(Node.table .header last).value]) [])
    | _ => none) path .header root

/-- A dotted name: the names before the last one, and the last one. -/
structure Path where
  before : List String
  last : String
  deriving DecidableEq, Repr

/-- The names of a path. -/
def Path.names (p : Path) : List String := p.before ++ [p.last]

/-- A table from the entries of an inline table. -/
def inlineTable? (entries : List (Path × Value)) : Option Value :=
  let add (ms : Members) (entry : Path × Value) : Option Members :=
    ms.entry? entry.1.before entry.1.last entry.2 .header
  (entries.foldlM add []).map fun ms => (Node.table .header ms).value

/-- A line of a document. -/
inductive Line where
  | entry (p : Path) (v : Value)
  | header (p : Path)
  | listHeader (p : Path)

/-- A document being assembled: the names of the last header, and the whole table. -/
structure Document where
  current : List String
  root : Members

/-- Adds a line. -/
def Document.add? (d : Document) : Line → Option Document
  | .entry p v =>
    (Members.within? .implied (fun origin ms => ms.entry? p.before p.last v origin)
      d.current .header d.root).map fun root => { d with root }
  | .header p => (d.root.header? p.before p.last).map fun root => ⟨p.names, root⟩
  | .listHeader p => (d.root.listHeader? p.before p.last).map fun root => ⟨p.names, root⟩

/-- The table that lines describe. -/
def assemble? (ls : List Line) : Option Value :=
  (ls.foldlM Document.add? ⟨[], []⟩).map fun d => (Node.table .header d.root).value

end Geocoding.Toml
