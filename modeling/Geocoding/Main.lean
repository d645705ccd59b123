import Geocoding.CommandLine.Run

/-!
# The program

Reads the command line, the files and the environment, and prints what a run reports. No client of a
database or of a web service is linked in: where the run would connect to one, it is refused.
-/

namespace Geocoding.CommandLine

/-- The contents of a file. -/
def readFile (path : String) : IO (Except FileError String) := do
  try
    let data ← IO.FS.readBinFile path
    return match String.fromUTF8? data with
      | some text => .ok text
      | none => .error .notText
  catch e =>
    return .error (match e with
      | .noFileOrDirectory .. => .notFound
      | .inappropriateType .. => .isDirectory
      | e => .other (toString e))

/-- A server that refuses every connection. -/
def refusingServer : Database.Server Unit Unit where
  connect _ s := .ended (.error (.connection "no database client is linked in")) s
  execute _ _ s := .ended (.ok ()) s
  query _ _ s := .ended (.ok []) s

/-- A service that does not answer. -/
def silentService : Service Unit where
  send _ _ := { work := .ready, response := none, finished := (), abandoned := () }

/-- The files that a run reads: the settings file, and the templates that it names. -/
def readFiles (e : Environment) (i : Invocation) : IO Files := do
  let settings ← readFile i.settings
  let files : Files := fun path => if path = i.settings then settings else .error .notFound
  match Settings.load files e i.settings with
  | .ok { templates := some path, .. } =>
    let templates ← readFile path
    return fun path' => if path' = path then templates else files path'
  | _ => return files

/-- What is said of a command line that is not accepted. -/
def usageText : String :=
  "usage: geocoding [--config FILE] [--json] (forward QUERY | reverse LAT LON) [OPTIONS]"

end Geocoding.CommandLine

open Geocoding Geocoding.CommandLine

/-- Runs the command line. -/
def main (arguments : List String) : IO UInt32 := do
  match Invocation.ofArguments arguments with
  | .error e =>
    IO.eprintln usageText
    return UInt32.ofNat e.status
  | .ok i =>
    let e : Environment := ⟨← IO.getEnv "DATABASE_URL", ← IO.getEnv "POSTAL_SERVICE_URL"⟩
    let w : Surroundings Unit Unit Unit := ⟨← readFiles e i, silentService, refusingServer⟩
    let now : Instant := ⟨← IO.monoNanosNow⟩
    match run? w e i now ((), ()) with
    | some (report, _, _) =>
      IO.print report.output
      IO.eprint report.complaint
      return UInt32.ofNat report.status
    | none => return 1
