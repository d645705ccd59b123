/-!
# Command-line arguments

Arguments are options with or without a value, operands, and perhaps the name of a subcommand, which
takes the arguments after it. They are read one after the other. A value counts only once the next
option or operand has been met, or the end; an argument that nothing takes is refused before that.
-/

namespace Geocoding.CommandLine

/-- Why arguments are not accepted. -/
inductive UsageError where
  /-- They ask for help instead. -/
  | help
  | nothingGiven
  | commandMissing
  | commandUnknown
  | argumentUnknown
  | repeated
  | valueMissing
  | valueUnexpected
  | valueRefused
  | operandMissing
  deriving DecidableEq, Repr

/-- The exit status of a program that is given such arguments. -/
def UsageError.status : UsageError → Nat
  | help => 0
  | _ => 2

/-- How an argument looks. -/
inductive Shape where
  /-- Two dashes alone; all after them are operands. -/
  | mark
  | long (name : List Char) (attached : Option String)
  | short (flags : List Char)
  | plain
  deriving DecidableEq, Repr

/-- The name of a long option, and the value attached to it. -/
def splitAttached (cs : List Char) : List Char × Option String :=
  match cs.dropWhile (· != '=') with
  | [] => (cs, none)
  | _ :: value => (cs.takeWhile (· != '='), some (.ofList value))

/-- The look of an argument. A dash alone is plain. -/
def Shape.of (argument : String) : Shape :=
  match argument.toList with
  | ['-', '-'] => mark
  | '-' :: '-' :: cs => let (name, attached) := splitAttached cs; long name attached
  | '-' :: c :: cs => short (c :: cs)
  | _ => plain

/-- Whether characters look like a number without a sign: digits, a point among them, and an exponent
without a sign. Neither a point nor an exponent comes first, and an exponent has digits. -/
def looksLikeNumber (cs : List Char) : Bool :=
  let afterDigits := cs.dropWhile Char.isDigit
  let afterPoint := match afterDigits with
    | '.' :: cs' => if afterDigits.length = cs.length then afterDigits else cs'.dropWhile Char.isDigit
    | cs' => cs'
  match afterPoint with
  | [] => true
  | e :: ds =>
    (e == 'e' || e == 'E') && afterPoint.length != cs.length && !ds.isEmpty && ds.all Char.isDigit

/-- Takes a value into what has been read, which is an `α`. -/
abbrev Take (α : Type) := String → α → Except UsageError α

/-- What an option does. -/
inductive Action (α : Type) where
  | flag (set : α → Except UsageError α)
  | value (take : Take α)

/-- An operand. If it may be negative, a number after a dash is no short option. -/
structure Operand (α : Type) where
  mayBeNegative : Bool
  take : Take α

/-- A command: its long options, its operands in order, and its subcommands. Every command has the
options `--help` and `-h`. -/
structure Command (α : Type) where
  options : List (String × Action α)
  operands : List (Operand α)
  subcommands : List String

/-- How far arguments have been read. -/
structure Progress (α : Type) where
  taken : α
  /-- A value that has been met and does not count yet, or is still to be met. -/
  pending : Option (Take α × Option String)
  operands : List (Operand α)

namespace Progress

variable {α : Type}

/-- Whether the next argument may be the value of an option. -/
def awaitsValue (p : Progress α) : Bool :=
  match p.pending with
  | some (_, none) => true
  | _ => false

/-- Lets the pending value count. -/
def settle (p : Progress α) : Except UsageError (Progress α) :=
  match p.pending with
  | none => .ok p
  | some (_, none) => .error .valueMissing
  | some (take, some value) => return { p with taken := ← take value p.taken, pending := none }

/-- Whether a number after a dash would be taken for an operand. -/
def allowsNegative (p : Progress α) : Bool := p.operands.head?.any (·.mayBeNegative)

end Progress

namespace Command

variable {α : Type}

/-- The option of a name. -/
def option? (c : Command α) (name : List Char) : Option (Action α) :=
  (("help", .flag fun _ => .error .help) :: c.options).lookup (String.ofList name)

/-- The error of an argument that no operand is left for. -/
def surplus (c : Command α) (afterMark : Bool) (argument : String) : UsageError :=
  if c.subcommands.isEmpty || (afterMark && c.subcommands.contains argument) then .argumentUnknown
  else .commandUnknown

/-- Reads an operand. -/
def readOperand (c : Command α) (p : Progress α) (afterMark : Bool) (argument : String) :
    Except UsageError (Progress α) :=
  match p.operands with
  | [] => .error (c.surplus afterMark argument)
  | o :: operands => return { ← p.settle with pending := some (o.take, some argument), operands }

/-- Reads an argument that is no option. -/
def readValue (c : Command α) (p : Progress α) (argument : String) :
    Except UsageError (Progress α) :=
  match p.pending with
  | some (take, none) => .ok { p with pending := some (take, some argument) }
  | _ => c.readOperand p false argument

/-- Reads a long option. -/
def readLong (c : Command α) (p : Progress α) (name : List Char) (attached : Option String) :
    Except UsageError (Progress α) :=
  match c.option? name, attached with
  | none, _ => .error .argumentUnknown
  | some (.flag _), some _ => .error .valueUnexpected
  | some (.flag set), none => do
    let p ← p.settle
    return { p with taken := ← set p.taken }
  | some (.value take), some value => do
    let p ← p.settle
    return { p with taken := ← take value p.taken }
  | some (.value take), none => do
    let p ← p.settle
    return { p with pending := some (take, none) }

/-- Reads an argument that begins with one dash. -/
def readShort (c : Command α) (p : Progress α) (flags : List Char) (argument : String) :
    Except UsageError (Progress α) :=
  if p.allowsNegative && looksLikeNumber flags then c.readValue p argument
  else if flags.head? = some 'h' then c.readLong p "help".toList none
  else .error .argumentUnknown

/-- Reads arguments up to the name of a subcommand, which is given with those after it. -/
def readFrom (c : Command α) :
    Bool → Progress α → List String → Except UsageError (Progress α × Option (String × List String))
  | _, p, [] => .ok (p, none)
  | true, p, a :: as => do c.readFrom true (← c.readOperand p true a) as
  | false, p, a :: as =>
    if !p.awaitsValue && c.subcommands.contains a then .ok (p, some (a, as))
    else match Shape.of a with
      | .mark => c.readFrom true p as
      | .long name attached => do c.readFrom false (← c.readLong p name attached) as
      | .short flags => do c.readFrom false (← c.readShort p flags a) as
      | .plain => do c.readFrom false (← c.readValue p a) as

/-- Reads arguments into `start`. -/
def read (c : Command α) (start : α) (arguments : List String) :
    Except UsageError (Progress α × Option (String × List String)) :=
  c.readFrom false ⟨start, none, c.operands⟩ arguments

/-- Reads all arguments of a command without subcommands. -/
def readAll (c : Command α) (start : α) (arguments : List String) : Except UsageError α := do
  let (p, _) ← c.read start arguments
  return (← p.settle).taken

end Command

/-- Takes a value that may be given once: `get` tells whether it has been, `read` reads it. -/
def once {α β : Type} (get : α → Option β) (set : β → α → α) (read : String → Option β) : Take α :=
  fun value a =>
    if (get a).isSome then .error .repeated
    else match read value with
      | some b => .ok (set b a)
      | none => .error .valueRefused

end Geocoding.CommandLine
