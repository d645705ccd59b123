import Geocoding.Json.Reader
import Geocoding.Json.Writer
import Geocoding.Splitter
import Geocoding.Url.Address

/-!
# The address-parsing service

A web service that splits a query into the parts of an address. Only its first suggestion counts, and
where it makes no use of a suggestion, or cannot be asked, the whole query is taken for a road.
-/

namespace Geocoding

/-- A request to the service. -/
structure Request where
  method : String
  url : String
  contentType : String
  body : String
  deriving DecidableEq, Repr

/-- A response. -/
structure Response where
  status : Nat
  body : ByteArray
  /-- Whether the body came to its announced end. -/
  isComplete : Bool

/-- What comes of a request. -/
structure Exchange (π : Type) where
  work : Work
  /-- Nothing if the service could not be reached, or said nothing. -/
  response : Option Response
  /-- What is left behind when the response has come. -/
  finished : π
  /-- What is left behind when it is not waited for. -/
  abandoned : π

/-- A service, with state `π`. -/
structure Service (π : Type) where
  send : Request → π → Exchange π

namespace Service

/-- The characters without the slashes at their end. -/
def withoutSlashes (cs : List Char) : List Char := (cs.reverse.dropWhile (· == '/')).reverse

/-- Where requests go. -/
def endpoint (base : Url) : String := .ofList (withoutSlashes base.text.toList ++ "/split".toList)

/-- The request to split a query. -/
def request (endpoint query : String) : Request where
  method := "POST"
  url := endpoint
  contentType := "application/json"
  body := .ofList (Json.Value.object [("query", .text query)]).compact

/-- The part of a suggestion that has a name. Numbers are taken as they are written. -/
def part (suggestion : List (String × Json.Value)) (name : String) : Option String :=
  match Json.Value.member? name suggestion with
  | some (.text s) => some s
  | some (.number n) => some (.ofList n.text)
  | _ => none

/-- The address of a suggestion. -/
def address : Json.Value → Option QueryAddress
  | .object suggestion =>
    some (QueryAddress.normalized ⟨part suggestion "road", part suggestion "house_number",
      part suggestion "postcode", part suggestion "city"⟩)
  | _ => none

/-- The deepest nesting that a body may have. -/
def deepest : Nat := 127

/-- The suggestions in a body. -/
def suggestions? (body : ByteArray) : Option (List Json.Value) := do
  let text ← String.fromUTF8? body
  let v ← Json.read? text.toList
  match v with
  | .list items => if v.isReadable && v.depth ≤ deepest then some items else none
  | _ => none

/-- The address in a response: that of the first suggestion, if it has any part at all. -/
def addressOf? (r : Response) : Option QueryAddress := do
  if r.status ≠ 200 ∨ r.isComplete = false then none
  else
    let first ← (← suggestions? r.body).head?
    (address first).filter (!·.isEmpty)

variable {π : Type}

/-- Asks the service. A deadline that has passed leaves no time to ask. -/
def split? (s : Service π) (endpoint query : String) (d : Deadline) (now : Instant) (outside : π) :
    Option (QueryAddress × Instant × π) :=
  if d.isExpired now then some (.roadOnly query, now, outside)
  else
    let e := s.send (request endpoint query) outside
    match d.run now e.work with
    | .done t => some ((e.response.bind addressOf?).getD (.roadOnly query), t, e.finished)
    | .cutOff t => some (.roadOnly query, t, e.abandoned)
    | .never => none

/-- The splitter that asks a service. -/
def splitter (s : Service π) (base : Url) : Splitter π := ⟨s.split? (endpoint base)⟩

end Service

end Geocoding
