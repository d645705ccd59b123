import Geocoding.Json.Token

/-!
# TOML tokens

The tokens of a TOML text: punctuation, line ends, blanks, quoted texts, and the bare runs between them.
Comments are dropped. A quoted text in three quotes may span lines.
-/

namespace Geocoding.Toml

/-- A token. -/
inductive Token where
  | equals
  | comma
  | dot
  | openList
  | closeList
  | openTable
  | closeTable
  | newline
  | blank (c : Char)
  | text (s : List Char) (spansLines : Bool)
  | bare (cs : List Char)
  deriving DecidableEq, Repr

/-- The token of a punctuation mark. -/
def mark? : Char → Option Token
  | '=' => some .equals
  | ',' => some .comma
  | '.' => some .dot
  | '[' => some .openList
  | ']' => some .closeList
  | '{' => some .openTable
  | '}' => some .closeTable
  | _ => none

/-- Whether `c` may not stand for itself in a comment or a quoted text. -/
def isControl (c : Char) : Bool := (c.toNat < 0x20 && c != '\t') || c.toNat == 0x7F

/-- What a scanner is in the middle of; what it has read of it stands last character first. `quote` is
the quote a text began with; the double quote allows escapes. -/
inductive Mode where
  | between
  | comment
  /-- After a carriage return that must end a line. -/
  | lineEnd
  | bare (read : List Char)
  /-- After one or two quotes. -/
  | opening (quote : Char) (count : Nat)
  | line (quote : Char) (read : List Char)
  /-- In three quotes; `start` tells that nothing has been read, so that a line end is dropped. -/
  | block (quote : Char) (read : List Char) (start : Bool)
  | blockReturn (quote : Char) (read : List Char) (start : Bool)
  | quotes (quote : Char) (read : List Char) (count : Nat)
  | escape (read : List Char) (spansLines : Bool)
  | code (read : List Char) (spansLines : Bool) (value : Nat) (missing : Nat)
  /-- After a backslash at the end of a line; `ended` tells whether the line end has been read. -/
  | joining (read : List Char) (ended : Bool)
  | joiningReturn (read : List Char)

/-- The mode back in a text. -/
def Mode.resume (read : List Char) (spansLines : Bool) : Mode :=
  if spansLines then .block '"' read false else .line '"' read

/-- What a character between tokens begins or is. -/
def start? (c : Char) : Option (List Token × Mode) :=
  match mark? c with
  | some t => some ([t], .between)
  | none =>
    match c with
    | ' ' | '\t' => some ([.blank c], .between)
    | '\n' => some ([.newline], .between)
    | '\r' => some ([], .lineEnd)
    | '#' => some ([], .comment)
    | '"' | '\'' => some ([], .opening c 1)
    | c => if isControl c then none else some ([], .bare [c])

/-- One character in three quotes. -/
def blockStep? (quote : Char) (read : List Char) (start : Bool) (c : Char) : Option Mode :=
  if c = quote then some (.quotes quote read 1)
  else if c = '\\' ∧ quote = '"' then some (.escape read true)
  else if c = '\n' then some (.block quote (if start then read else c :: read) false)
  else if c = '\r' then some (.blockReturn quote read start)
  else if isControl c then none
  else some (.block quote (c :: read) false)

/-- One character between single quotes. -/
def lineStep? (quote : Char) (read : List Char) (c : Char) : Option (List Token × Mode) :=
  if c = quote then some ([.text read.reverse false], .between)
  else if c = '\\' ∧ quote = '"' then some ([], .escape read false)
  else if isControl c then none
  else some ([], .line quote (c :: read))

/-- The character a short escape stands for. -/
def shortEscape? : Char → Option Char
  | '"' => some '"'
  | '\\' => some '\\'
  | 'b' => some '\x08'
  | 'e' => some '\x1b'
  | 'f' => some '\x0c'
  | 'n' => some '\n'
  | 'r' => some '\r'
  | 't' => some '\t'
  | _ => none

/-- One character after a backslash. -/
def escapeStep? (read : List Char) (spansLines : Bool) (c : Char) : Option Mode :=
  match c with
  | 'x' => some (.code read spansLines 0 2)
  | 'u' => some (.code read spansLines 0 4)
  | 'U' => some (.code read spansLines 0 8)
  | c =>
    match shortEscape? c with
    | some e => some (.resume (e :: read) spansLines)
    | none =>
      if !spansLines then none
      else match c with
        | ' ' | '\t' => some (.joining read false)
        | '\n' => some (.joining read true)
        | '\r' => some (.joiningReturn read)
        | _ => none

/-- One step of the scanner: the tokens that `c` completes, and the mode it leaves. -/
def Mode.step? (m : Mode) (c : Char) : Option (List Token × Mode) :=
  match m with
  | .between => start? c
  | .comment =>
    match c with
    | '\n' => some ([.newline], .between)
    | '\r' => some ([], .lineEnd)
    | c => if isControl c then none else some ([], .comment)
  | .lineEnd => if c = '\n' then some ([.newline], .between) else none
  | .bare read =>
    if (mark? c).isSome || [' ', '\t', '\n', '\r', '#', '"', '\''].contains c then
      (start? c).map fun (ts, next) => (.bare read.reverse :: ts, next)
    else if isControl c then none
    else some ([], .bare (c :: read))
  | .opening quote 1 => if c = quote then some ([], .opening quote 2) else lineStep? quote [] c
  | .opening quote _ =>
    if c = quote then some ([], .block quote [] true)
    else (start? c).map fun (ts, next) => (.text [] false :: ts, next)
  | .line quote read => lineStep? quote read c
  | .block quote read start => (blockStep? quote read start c).map ([], ·)
  | .blockReturn quote read start =>
    if c = '\n' then some ([], .block quote (if start then read else '\n' :: '\r' :: read) false)
    else none
  | .quotes quote read count =>
    if c = quote then
      if count < 4 then some ([], .quotes quote read (count + 1))
      else some ([.text (quote :: quote :: read).reverse true], .between)
    else
      let within := List.replicate (if count < 3 then count else count - 3) quote ++ read
      if count < 3 then (blockStep? quote within false c).map ([], ·)
      else (start? c).map fun (ts, next) => (.text within.reverse true :: ts, next)
  | .escape read spansLines => (escapeStep? read spansLines c).map ([], ·)
  | .code read spansLines value missing => do
    let value := value * 16 + (← Json.hexValue? c)
    if 1 < missing then return ([], .code read spansLines value (missing - 1))
    else if h : value.isValidChar then
      return ([], .resume (Char.ofNatAux value h :: read) spansLines)
    else none
  | .joining read ended =>
    match c with
    | ' ' | '\t' => some ([], .joining read ended)
    | '\n' => some ([], .joining read true)
    | '\r' => some ([], .joiningReturn read)
    | c => if ended then (blockStep? '"' read false c).map ([], ·) else none
  | .joiningReturn read => if c = '\n' then some ([], .joining read true) else none

/-- The tokens that the end of the text completes. -/
def Mode.finish? : Mode → Option (List Token)
  | .between | .comment => some []
  | .bare read => some [.bare read.reverse]
  | .opening _ 2 => some [.text [] false]
  | .quotes quote read count =>
    if count < 3 then none
    else some [.text (List.replicate (count - 3) quote ++ read).reverse true]
  | _ => none

/-- The tokens of `cs` after a mode. -/
def scanFrom (m : Mode) : List Char → Option (List Token)
  | [] => m.finish?
  | c :: cs => do
    let (ts, next) ← m.step? c
    let rest ← scanFrom next cs
    return ts ++ rest

/-- The tokens of a text; a byte order mark before them is skipped. -/
def scan : List Char → Option (List Token)
  | '\uFEFF' :: cs => scanFrom .between cs
  | cs => scanFrom .between cs

end Geocoding.Toml
