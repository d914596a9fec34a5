/-
# Url.HostName — the host part of a URL

The host of a common scheme is a domain name or an address in numbers; a host in
brackets is an address whatever the scheme. Other schemes give hosts a meaning of
their own, so there only controls are encoded.
-/
import VirtualHosting.Url.Domain

namespace VirtualHosting.Url

set_option autoImplicit false

/-- Why a text is no URL. -/
inductive Fault where
  /-- There is no scheme. -/
  | relative
  | emptyHost
  | invalidDomain
  | invalidIpv4
  | invalidIpv6
  /-- A host of some other scheme has a character that ends hosts. -/
  | invalidCharacter
  | invalidPort
  deriving DecidableEq, Repr

def Fault.message : Fault → String
  | relative => "relative URL without a base"
  | emptyHost => "empty host"
  | invalidDomain => "invalid international domain name"
  | invalidIpv4 => "invalid IPv4 address"
  | invalidIpv6 => "invalid IPv6 address"
  | invalidCharacter => "invalid domain character"
  | invalidPort => "invalid port number"

/-- The host of a URL. -/
inductive HostName where
  /-- A name; the empty one stands for no host in particular. -/
  | named (text : String)
  | ipv4 (address : Nat)
  | ipv6 (pieces : List Nat)
  deriving DecidableEq, Repr

namespace HostName

/-- The host as it is written. -/
def text : HostName → String
  | named name => name
  | ipv4 address => String.ofList (ipv4Text address)
  | ipv6 pieces => String.ofList ('[' :: ipv6Text pieces ++ [']'])

/-- Reads an address with its brackets. -/
def bracketed (cs : List Char) : Except Fault HostName :=
  if cs.getLast? != some ']' then .error .invalidIpv6
  else match ipv6? (cs.drop 1).dropLast with
    | some pieces => .ok (.ipv6 pieces)
    | none => .error .invalidIpv6

/-- Reads the host of a common scheme. -/
def parse (cs : List Char) : Except Fault HostName :=
  if cs.isEmpty then .error .emptyHost
  else if cs.head? = some '[' then bracketed cs
  else match Domain.toAscii? cs with
    | none => .error .invalidDomain
    | some [] => .error .emptyHost
    | some domain =>
      if endsInNumber domain then
        match ipv4? domain with
        | some address => .ok (.ipv4 address)
        | none => .error .invalidIpv4
      else .ok (.named (String.ofList domain))

/-- Characters that would end a host, or that are read past everywhere. -/
def endsHost (c : Char) : Bool :=
  c ∈ ['\x00', '\t', '\n', '\r', ' ', '#', '/', ':', '<', '>', '?', '@', '[', '\\', ']', '^', '|']

/-- Reads the host of any other scheme, which may be empty. -/
def parseOther (cs : List Char) : Except Fault HostName :=
  if cs.head? = some '[' then bracketed cs
  else if cs.any endsHost then .error .invalidCharacter
  else .ok (.named (String.ofList (encode isControl cs)))

end HostName

end VirtualHosting.Url
