import StorageCalls.Url.Domain
import StorageCalls.Url.Ipv4
import StorageCalls.Url.Ipv6

namespace StorageCalls.Url

inductive Fault where
  | relative
  | emptyHost
  | port
  | ipv4
  | ipv6
  | domainCharacter
  | internationalDomain
  deriving DecidableEq, Repr

def Fault.message : Fault → String
  | .relative => "relative URL without a base"
  | .emptyHost => "empty host"
  | .port => "invalid port number"
  | .ipv4 => "invalid IPv4 address"
  | .ipv6 => "invalid IPv6 address"
  | .domainCharacter => "invalid domain character"
  | .internationalDomain => "invalid international domain name"

inductive Host where
  | name (text : List Char)
  | ipv4 (value : Nat)
  | ipv6 (pieces : List Nat)
  deriving DecidableEq

namespace Host

open Text

def toChars : Host → List Char
  | .name text => text
  | .ipv4 value =>
    joinWith ['.'] ([3, 2, 1, 0].map fun i => Nat.toDigits 10 (value / Nat.pow 256 i % 256))
  | .ipv6 pieces => '[' :: Ipv6.toChars pieces ++ [']']

def bracketed? (cs : List Char) : Except Fault Host :=
  if endsWith cs ']' then
    match Ipv6.ofChars? (cs.drop 1).dropLast with
    | some pieces => .ok (.ipv6 pieces)
    | none => .error .ipv6
  else .error .ipv6

def isForbidden (c : Char) : Bool :=
  "\x00\t\n\r #/:<>?@[\\]^|".toList.contains c

/-- A host name that is not a domain is kept as it is, percent-encoded. -/
def ofNameChars? (cs : List Char) : Except Fault Host :=
  match cs with
  | '[' :: _ => bracketed? cs
  | cs => if cs.any isForbidden then .error .domainCharacter else .ok (.name (percentEncode cs))

def ofDomainChars? (cs : List Char) : Except Fault Host :=
  match cs with
  | '[' :: _ => bracketed? cs
  | cs =>
    match Domain.ofHost? cs with
    | none => .error .internationalDomain
    | some [] => .error .emptyHost
    | some domain =>
      if Ipv4.endsInNumber domain then
        match Ipv4.ofDomain? domain with
        | some value => .ok (.ipv4 value)
        | none => .error .ipv4
      else .ok (.name domain)

end Host

end StorageCalls.Url
