import Geocoding.Decimal.Power
import Geocoding.Text.Blank

/-!
# Credentials

Who connects to which database, read from a database URL. What follows the first question mark is left
to the driver and not looked at.
-/

namespace Geocoding.Database

/-- Who connects to which database. -/
structure Credentials where
  host : String
  port : Option UInt16
  database : String
  username : String
  password : Option String
  deriving DecidableEq, Repr

/-- Why a database URL is refused. -/
inductive CredentialsError where
  | format
  | scheme (name : String)
  | database
  | username
  | host
  deriving DecidableEq, Repr

/-- The reason in words. -/
def CredentialsError.message : CredentialsError → String
  | format => "Invalid URL format"
  | scheme name => "Unsupported scheme: " ++ name
  | database => "Missing database name"
  | username => "Missing username"
  | host => "Missing host"

/-- The characters before and after the first `mark`. -/
def splitFirst? (mark : Char) (cs : List Char) : Option (List Char × List Char) :=
  match cs.dropWhile (· != mark) with
  | [] => none
  | _ :: rest => some (cs.takeWhile (· != mark), rest)

/-- The characters before and after the last `mark`. -/
def splitLast? (mark : Char) (cs : List Char) : Option (List Char × List Char) :=
  (splitFirst? mark cs.reverse).map fun (after, before) => (before.reverse, after.reverse)

/-- The characters before and after the first `://`. -/
def splitScheme? : List Char → Option (List Char × List Char)
  | [] => none
  | ':' :: '/' :: '/' :: cs => some ([], cs)
  | c :: cs => (splitScheme? cs).map fun (scheme, rest) => (c :: scheme, rest)

/-- The part of a URL that credentials are read from. -/
def withoutQuery (url : String) : String := .ofList (url.toList.takeWhile (· != '?'))

/-- A port of 16 bits. -/
def port? (cs : List Char) : Option UInt16 :=
  let ds := match cs with
    | '+' :: ds => ds
    | ds => ds
  let n := Nat.ofDigitChars 10 ds 0
  if !ds.isEmpty && ds.all Char.isDigit && n < twoTo 16 then some (UInt16.ofNat n) else none

/-- The host and the port behind its last colon; a colon without a port belongs to the host. -/
def hostAndPort (cs : List Char) : List Char × Option UInt16 :=
  match splitLast? ':' cs with
  | some (host, port) =>
    match port? port with
    | some n => (host, some n)
    | none => (cs, none)
  | none => (cs, none)

/-- The schemes of databases. -/
def schemes : List String := ["postgres", "postgresql", "mysql"]

/-- Reads credentials. -/
def Credentials.ofUrl (url : String) : Except CredentialsError Credentials := do
  match splitScheme? (Text.trimmed url.toList) with
  | none => .error .format
  | some (scheme, rest) =>
    let scheme := String.ofList scheme
    if !schemes.contains scheme then .error (.scheme scheme)
    match splitLast? '/' rest with
    | none => .error .database
    | some (authority, database) =>
      match splitLast? '@' authority with
      | none => .error .username
      | some (user, place) =>
        let (username, password) := match splitFirst? ':' user with
          | some (username, password) => (username, some (String.ofList password))
          | none => (user, none)
        let (host, port) := hostAndPort place
        if username.isEmpty then .error .username
        if host.isEmpty then .error .host
        if database.isEmpty then .error .database
        return ⟨.ofList host, port, .ofList database, .ofList username, password⟩

end Geocoding.Database
