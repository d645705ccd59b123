import Geocoding.Url.Domain
import Geocoding.Url.Ipv4
import Geocoding.Url.Ipv6
import Geocoding.Url.Percent

/-!
# Hosts

A host is an address, a domain, or, in URLs of unknown schemes, a name that is not interpreted.
-/

namespace Geocoding.Url

/-- Why a text is not a URL. -/
inductive Error where
  | relative
  | emptyHost
  | port
  | ipv4
  | ipv6
  | domain
  | hostCharacter
  deriving DecidableEq, Repr

/-- The error in words. -/
def Error.message : Error → String
  | relative => "relative URL without a base"
  | emptyHost => "empty host"
  | port => "invalid port number"
  | ipv4 => "invalid IPv4 address"
  | ipv6 => "invalid IPv6 address"
  | domain => "invalid international domain name"
  | hostCharacter => "invalid domain character"

/-- A host. -/
inductive Host where
  | domain (name : List Char)
  | ipv4 (address : Nat)
  | ipv6 (pieces : List Nat)
  | uninterpreted (name : List Char)
  deriving DecidableEq, Repr

/-- The text of a host. -/
def Host.text : Host → List Char
  | domain name => name
  | ipv4 address => ipv4Text address
  | ipv6 pieces => '[' :: ipv6Text pieces ++ [']']
  | uninterpreted name => name

/-- The address between brackets. -/
def Host.bracketed (cs : List Char) : Except Error Host :=
  if cs.getLast? = some ']' then
    match ipv6? cs.dropLast with
    | some pieces => .ok (.ipv6 pieces)
    | none => .error .ipv6
  else .error .ipv6

/-- Whether `c` may not stand in a host that is not interpreted. -/
def isForbiddenInHost (c : Char) : Bool :=
  ['\x00', '\t', '\n', '\r', ' ', '#', '/', ':', '<', '>', '?', '@', '[', '\\', ']', '^', '|'].contains c

/-- Reads the host of a URL of a known scheme. -/
def Host.read : List Char → Except Error Host
  | '[' :: cs => bracketed cs
  | cs =>
    match (decoded? cs).bind Domain.toAscii? with
    | none => .error .domain
    | some [] => .error .emptyHost
    | some name =>
      if endsInNumber name then
        match ipv4? name with
        | some address => .ok (.ipv4 address)
        | none => .error .ipv4
      else .ok (.domain name)

/-- Reads the host of a URL of an unknown scheme; an empty one is absent. -/
def Host.readUninterpreted : List Char → Except Error (Option Host)
  | '[' :: cs => some <$> bracketed cs
  | [] => .ok none
  | cs =>
    if cs.any isForbiddenInHost then .error .hostCharacter
    else .ok (some (.uninterpreted (encoded isControl cs)))

end Geocoding.Url
