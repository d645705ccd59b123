import Geocoding.CommandLine.Invocation
import Geocoding.Connect
import Geocoding.Records

/-!
# Running a command line

A run reads the settings, connects, answers the request and prints the answer. It prints nothing unless
the request has been answered. A request that its deadline has cut off has an exit status of its own.
-/

namespace Geocoding.CommandLine

/-- Why a run fails. -/
inductive Failure where
  | settings (e : SettingsError)
  | database (e : Database.Error)
  | exceeded
  | timeout (seconds : Float) (e : Duration.Error)

/-- A run fails where there is no geocoder. -/
def Failure.ofConnect : ConnectError → Failure
  | .settings e => settings e
  | .database e => database e

/-- The reason in words. -/
def Failure.message : Failure → String
  | settings e => e.message
  | database e => e.message
  | exceeded => Outcome.exceededMessage
  | timeout seconds e => "invalid timeout " ++ Decimal.plain seconds ++ ": " ++ e.message

/-- The exit status of a run that fails. -/
def Failure.status : Failure → Nat
  | exceeded => 2
  | _ => 1

/-- How a run ends. -/
inductive Report where
  | printed (text : String)
  | failed (e : Failure)
  /-- The clock does not get as far as the deadline. -/
  | overflow

/-- What is written to standard output. -/
def Report.output : Report → String
  | printed text => text
  | _ => ""

/-- What is written to standard error. -/
def Report.complaint : Report → String
  | printed _ => ""
  | failed e => "Error: " ++ e.message ++ "\n"
  | overflow => "Error: the deadline lies beyond the clock\n"

/-- The exit status. -/
def Report.status : Report → Nat
  | printed _ => 0
  | failed e => e.status
  | overflow => 101

/-! ## Printing -/

/-- A number with a fixed number of places, set to the right in a column. -/
def aligned (width places : Nat) (x : Float) : String :=
  let s := Decimal.fixed places x
  .ofList (List.replicate (width - s.length) ' ') ++ s

/-- The line of a place. -/
def placeLine (p : Place) : String :=
  aligned 11 6 p.location.lat ++ " " ++ aligned 11 6 p.location.lon ++ "  " ++ p.displayName ++ "\n"

/-- The lines of places. -/
def placesText : List Place → String
  | [] => "No matches.\n"
  | ps => String.join (ps.map placeLine)

/-- The line of a hit. -/
def hitText : Option Hit → String
  | some h => Decimal.fixed 1 h.distance.value ++ "m  " ++ h.displayName ++ "\n"
  | none => "No building nearby.\n"

/-- A value as laid-out JSON, on lines of its own. -/
def jsonText (v : Json.Value) : String := .ofList v.laidOut ++ "\n"

/-- What is printed for places. -/
def printPlaces (json : Bool) (ps : List Place) : String :=
  if json then jsonText (.list (ps.map Json.toJson)) else placesText ps

/-- What is printed for a hit. -/
def printHit (json : Bool) (h : Option Hit) : String :=
  if json then jsonText (Json.ofOption h) else hitText h

/-- The report of an outcome. -/
def Report.of {α : Type} (print : α → String) : Outcome α → Report
  | .answered a => printed (print a)
  | .failed e => failed (.database e)
  | .exceeded => failed .exceeded

/-! ## Running -/

section

variable {π σ C : Type}

/-- The deadline of a request: that of the timeout, if one is given, else that of the settings; none at
all if the clock does not get that far. -/
def deadline? (g : Geocoder π σ) (timeout : Option Float) (now : Instant) :
    Except Failure (Option Deadline) :=
  match timeout with
  | none => .ok (g.defaultDeadline? now)
  | some seconds =>
    match Duration.ofFloat seconds with
    | .ok d => .ok (Deadline.after? now d)
    | .error e => .error (.timeout seconds e)

/-- The timeout of a request. -/
def Request.timeout : Request → Option Float
  | forward r => r.timeout
  | reverse r => r.timeout

/-- Answers a request under a deadline. -/
def answer? (g : Geocoder π σ) (i : Invocation) (d : Deadline) (now : Instant) (outside : π × σ) :
    Option (Report × Instant × (π × σ)) := do
  match i.request with
  | .forward r =>
    let (places, now, outside) ← g.forward? r.query r.centre d now outside r.country
    return (.of (printPlaces i.json) places, now, outside)
  | .reverse r =>
    let limit := r.limit.getD g.options.ringLimit
    let (hit, now, outside) ← g.reverse? r.point limit d now outside
    return (.of (printHit i.json) hit, now, outside)

/-- Chooses the deadline of a request and answers it. -/
def request? (g : Geocoder π σ) (i : Invocation) (now : Instant) (outside : π × σ) :
    Option (Report × Instant × (π × σ)) :=
  match deadline? g i.request.timeout now with
  | .error e => some (.failed e, now, outside)
  | .ok none => some (.overflow, now, outside)
  | .ok (some d) => answer? g i d now outside

/-- Runs a command line; tells how that ends, when, and what is left behind. What has no deadline may
never end. -/
def run? (w : Surroundings π σ C) (e : Environment) (i : Invocation) (now : Instant)
    (outside : π × σ) : Option (Report × Instant × (π × σ)) :=
  match Settings.load w.files e i.settings with
  | .error e => some (.failed (.settings e), now, outside)
  | .ok s => do
    let (connected, now, database) ← w.connect? s now outside.2
    match connected with
    | .ok (p, pool) =>
      let (report, now, service, _, database) ←
        request? (w.geocoder p) i now (outside.1, .ofPool pool, database)
      return (report, now, service, database)
    | .error e => return (.failed (.ofConnect e), now, outside.1, database)

end

end Geocoding.CommandLine
