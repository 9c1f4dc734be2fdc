import SchemaSeed.Url.Address
import SchemaSeed.Url.Encoded

/-!
Hosts. A URL of a well-known scheme names its host by the rules of domain names; any other holds a
text that is only free of separators. An address in brackets is the same for both.
-/

set_option autoImplicit false
set_option relaxedAutoImplicit false

namespace SchemaSeed.Url

/-- What can be wrong with the text of a URL. -/
inductive UrlFault where
  | emptyHost
  | badPort
  | badIpv6
  | badIpv4
  | badDomainCharacter
  | badDomain
  | noScheme
  deriving DecidableEq, Repr

/-- The text of a fault. -/
def UrlFault.message : UrlFault → String
  | .emptyHost => "empty host"
  | .badPort => "invalid port number"
  | .badIpv6 => "invalid IPv6 address"
  | .badIpv4 => "invalid IPv4 address"
  | .badDomainCharacter => "invalid domain character"
  | .badDomain => "invalid international domain name"
  | .noScheme => "relative URL without a base"

namespace Host

/-- The content of brackets around a whole text. -/
def bracketed? (cs : List Char) : Option (List Char) :=
  match cs with
  | '[' :: rest => if rest.getLast? = some ']' then some rest.dropLast else none
  | _ => none

/-- The written form of an address in brackets. -/
def address (cs : List Char) : Except UrlFault (List Char) :=
  match (bracketed? cs).bind Ipv6.parse? with
  | some pieces => .ok ('[' :: Ipv6.print pieces ++ [']'])
  | none => .error .badIpv6

/-- The characters that separate the parts of a URL, which no host holds. -/
def separators : List Char :=
  ['\x00', '\t', '\n', '\r', ' ', '#', '/', ':', '<', '>', '?', '@', '[', '\\', ']', '^', '|']

/-- A host as it is written in a URL of an ordinary scheme. -/
def opaqueHost (cs : List Char) : Except UrlFault (List Char) :=
  if cs.head? = some '[' then address cs
  else if cs.any separators.contains then .error .badDomainCharacter
  else .ok (encode controlSet cs)

/-- The domain name or the address that the host of a well-known scheme stands for. -/
def domain (cs : List Char) : Except UrlFault (List Char) :=
  if cs.head? = some '[' then address cs
  else
    match (decodeText? cs).bind fun text => Domain.toBasic? text.toList with
    | none => .error .badDomain
    | some name =>
      if name.isEmpty then .error .emptyHost
      else if Ipv4.isMeant name && !Ipv4.isValid name then .error .badIpv4
      else .ok name

end Host

end SchemaSeed.Url
