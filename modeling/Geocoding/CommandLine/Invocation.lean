import Geocoding.CommandLine.Centre
import Geocoding.CommandLine.Grammar
import Geocoding.Decimal.Power

/-!
# Invocations

What the command line asks for: a search for a query, or for the building nearest to a point, with the
settings file to use and the form of the output.
-/

namespace Geocoding.CommandLine

/-- A search for a query. -/
structure Forward where
  query : String
  country : Option String
  centre : Option GeographicPoint
  /-- In seconds. -/
  timeout : Option Float

/-- A search for the building nearest to a point. -/
structure Reverse where
  point : GeographicPoint
  limit : Option UInt32
  /-- In seconds. -/
  timeout : Option Float

/-- What is asked for. -/
inductive Request where
  | forward (r : Forward)
  | reverse (r : Reverse)

/-- A command line. -/
structure Invocation where
  /-- The path of the settings file. -/
  settings : String
  json : Bool
  request : Request

/-- The settings file when none is chosen. -/
def standardSettings : String := "geocoder.toml"

/-! ## Values -/

/-- A whole number of 32 bits, after a sign or none. -/
def limit? (s : String) : Option UInt32 :=
  let (negative, ds) := Decimal.splitSign s.toList
  let n := Decimal.digitsValue ds
  if ds.isEmpty || !ds.all Char.isDigit || (negative && n != 0) || twoTo 32 ≤ n then none
  else some (UInt32.ofNat n)

/-- A number. -/
def number? (s : String) : Option Float := (Decimal.read s).toOption

/-! ## Commands -/

/-- What has been read before the command. -/
structure General where
  settings : Option String
  json : Bool

/-- Takes the path of the settings file, which must not be empty. -/
def General.takeSettings : Take General := fun path g =>
  if g.settings.isSome then .error .repeated
  else if path = "" then .error .valueMissing
  else .ok { g with settings := some path }

/-- Sets the flag of the output. -/
def General.setJson (g : General) : Except UsageError General :=
  if g.json then .error .repeated else .ok { g with json := true }

/-- The options before the command. -/
def general : Command General where
  options := [("config", .value General.takeSettings), ("json", .flag General.setJson)]
  operands := []
  subcommands := ["forward", "reverse", "help"]

/-- What has been read of a search for a query. -/
structure ForwardParts where
  query : Option String
  country : Option String
  centre : Option GeographicPoint
  timeout : Option Float

/-- The arguments of a search for a query. -/
def forward : Command ForwardParts where
  options :=
    [("country", .value (once (·.country) (fun x p => { p with country := some x }) some)),
      ("center", .value (once (·.centre) (fun x p => { p with centre := some x })
        fun s => (centre s).toOption)),
      ("timeout", .value (once (·.timeout) (fun x p => { p with timeout := some x }) number?))]
  operands := [⟨false, once (·.query) (fun x p => { p with query := some x }) some⟩]
  subcommands := []

/-- What has been read of a search for a building. -/
structure ReverseParts where
  lat : Option Float
  lon : Option Float
  limit : Option UInt32
  timeout : Option Float

/-- The arguments of a search for a building. -/
def reverse : Command ReverseParts where
  options :=
    [("limit", .value (once (·.limit) (fun x p => { p with limit := some x }) limit?)),
      ("timeout", .value (once (·.timeout) (fun x p => { p with timeout := some x }) number?))]
  operands :=
    [⟨true, once (·.lat) (fun x p => { p with lat := some x }) number?⟩,
      ⟨true, once (·.lon) (fun x p => { p with lon := some x }) number?⟩]
  subcommands := []

/-- Reads a search for a query. -/
def Forward.ofArguments (arguments : List String) : Except UsageError Forward := do
  let p ← forward.readAll ⟨none, none, none, none⟩ arguments
  match p.query with
  | some query => return ⟨query, p.country, p.centre, p.timeout⟩
  | none => .error .operandMissing

/-- Reads a search for a building. -/
def Reverse.ofArguments (arguments : List String) : Except UsageError Reverse := do
  let p ← reverse.readAll ⟨none, none, none, none⟩ arguments
  match p.lat, p.lon with
  | some lat, some lon => return ⟨⟨lat, lon⟩, p.limit, p.timeout⟩
  | _, _ => .error .operandMissing

/-- What comes of asking for help on a command: only the names of commands themselves are known. -/
def helpOn : List String → UsageError
  | [] => .help
  | [name] => if general.subcommands.contains name then .help else .commandUnknown
  | _ => .commandUnknown

/-- Reads a command line, without the name of the program. The options before the command are only
checked to the end when the command has been read. -/
def Invocation.ofArguments (arguments : List String) : Except UsageError Invocation := do
  let (before, command) ← general.read ⟨none, false⟩ arguments
  let finish (request : Request) : Except UsageError Invocation := do
    let g := (← before.settle).taken
    return ⟨g.settings.getD standardSettings, g.json, request⟩
  match command with
  | some ("forward", arguments) => finish (.forward (← Forward.ofArguments arguments))
  | some ("reverse", arguments) => finish (.reverse (← Reverse.ofArguments arguments))
  | some (_, arguments) => .error (helpOn arguments)
  | none =>
    let g := (← before.settle).taken
    .error (if g.settings.isNone && !g.json then .nothingGiven else .commandMissing)

end Geocoding.CommandLine
