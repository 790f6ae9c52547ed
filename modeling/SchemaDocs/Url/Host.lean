/-
Hosts of web addresses.

The host of a web address is an IPv6 address in brackets, an IPv4
address, or a domain name in its ASCII form. Escapes in it are resolved
before anything else.
-/
import SchemaDocs.Url.Domain.Basic
import SchemaDocs.Url.Ipv6

namespace SchemaDocs.Url

-- ============================================================ faults

/-- Why a text is not a web address. -/
inductive Fault
  /-- There is no scheme in front, so the address is relative to another. -/
  | relative
  | emptyHost
  /-- The host is no domain name. -/
  | domainName
  /-- The host of an address outside the web holds a character it may not. -/
  | hostCharacter
  | port
  | ipv4
  | ipv6
  /-- The scheme is not one of the web's. -/
  | scheme (name : String)
  deriving DecidableEq, Repr

/-- The wording of a fault. -/
def Fault.message : Fault → String
  | .relative => "relative URL without a base"
  | .emptyHost => "empty host"
  | .domainName => "invalid international domain name"
  | .hostCharacter => "invalid domain character"
  | .port => "invalid port number"
  | .ipv4 => "invalid IPv4 address"
  | .ipv6 => "invalid IPv6 address"
  | .scheme name =>
      "unsupported scheme '" ++ name ++ "', expected http or https"

-- ============================================================ hosts

/-- A host. -/
inductive Host
  | name (text : List Char)
  | ipv4 (address : Nat)
  | ipv6 (pieces : List Nat)
  deriving DecidableEq, Repr

namespace Host

/-- The text between the brackets of a host that starts with one. -/
def bracketed? : List Char → Option (List Char)
  | '[' :: rest =>
      if rest.getLast? = some ']' then some rest.dropLast else none
  | _ => none

/-- The host that a bracketed text writes. -/
def readBracketed (text : List Char) : Except Fault Host :=
  match (bracketed? text).bind Ipv6.read with
  | some pieces => .ok (.ipv6 pieces)
  | none => .error .ipv6

/-- The host that a text writes. -/
def read (text : List Char) : Except Fault Host :=
  if text.head? = some '[' then readBracketed text
  else
    match (unescape text).bind Domain.toAscii with
    | none => .error .domainName
    | some [] => .error .emptyHost
    | some domain =>
        if Ipv4.endsInNumber domain then
          match Ipv4.read domain with
          | some address => .ok (.ipv4 address)
          | none => .error .ipv4
        else .ok (.name domain)

/-- A host as text. -/
def write : Host → List Char
  | name text => text
  | ipv4 address => Ipv4.write address
  | ipv6 pieces => '[' :: (Ipv6.write pieces ++ [']'])

end Host

end SchemaDocs.Url
