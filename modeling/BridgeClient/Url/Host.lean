import BridgeClient.Url.Domain
import BridgeClient.Url.Percent

set_option autoImplicit false

/-!
Hosts. For the schemes of the web a host is a domain or an address; elsewhere it is any text without
the characters that end it.
-/
namespace BridgeClient

/-- Why a text is no URL. -/
inductive UrlFault where
  | noBase
  | emptyHost
  | invalidPort
  | invalidIpv4
  | invalidIpv6
  | invalidDomain
  | invalidHostCharacter
deriving DecidableEq

namespace UrlFault

def message : UrlFault → String
  | noBase => "relative URL without a base"
  | emptyHost => "empty host"
  | invalidPort => "invalid port number"
  | invalidIpv4 => "invalid IPv4 address"
  | invalidIpv6 => "invalid IPv6 address"
  | invalidDomain => "invalid international domain name"
  | invalidHostCharacter => "invalid domain character"

end UrlFault

namespace Host

/-- What no host of other schemes holds. -/
def isForbidden (c : Char) : Bool :=
  c = '\x00' || c = '\t' || c = '\n' || c = '\r' || " #/:<>?@[\\]^|".toList.contains c

/-- An address in brackets, if there is an opening one. -/
def bracketed? (cs : List Char) : Option (Except UrlFault (List Char)) :=
  match cs with
  | '[' :: rest =>
      match rest.reverse with
      | ']' :: inner =>
          some (match Ipv6.parse? inner.reverse with
            | some groups => .ok ('[' :: (Ipv6.render groups ++ [']']))
            | none => .error .invalidIpv6)
      | _ => some (.error .invalidIpv6)
  | _ => none

/-- A host of the schemes of the web. -/
def parse (cs : List Char) : Except UrlFault (List Char) :=
  match bracketed? cs with
  | some result => result
  | none =>
      let bytes := Percent.decode (Bytes.ofText (String.ofList cs))
      match (String.fromUTF8? ⟨bytes.toArray⟩).bind fun text => Domain.parse? text.toList with
      | none => .error .invalidDomain
      | some domain =>
          if domain = [] then .error .emptyHost
          else if Ipv4.isMeant domain then
            match Ipv4.parse? domain with
            | some address => .ok (Ipv4.render address)
            | none => .error .invalidIpv4
          else .ok domain

/-- A host of any other scheme; it may be empty. -/
def parseOther (cs : List Char) : Except UrlFault (List Char) :=
  match bracketed? cs with
  | some result => result
  | none =>
      if cs.any isForbidden then .error .invalidHostCharacter
      else .ok (Percent.encode Percent.controls cs)

end Host
end BridgeClient
