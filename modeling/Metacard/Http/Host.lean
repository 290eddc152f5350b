import Metacard.Http.Address
import Metacard.Http.Domain
import Metacard.Http.Percent
/-!
# Hosts

A host is named or given by its address. In the URLs of a special scheme a name is a domain, and one
that ends in a number is an address; in other URLs it is any text, kept as it is.
-/

set_option autoImplicit false

namespace Metacard.Http

inductive UrlFault where
  | relative
  | hostEmpty
  | domainMalformed
  | nameMalformed
  | addressMalformed4
  | addressMalformed6
  | portMalformed
  deriving DecidableEq, Repr

def UrlFault.message : UrlFault → String
  | .relative => "relative URL without a base"
  | .hostEmpty => "empty host"
  | .domainMalformed => "invalid international domain name"
  | .nameMalformed => "invalid domain character"
  | .addressMalformed4 => "invalid IPv4 address"
  | .addressMalformed6 => "invalid IPv6 address"
  | .portMalformed => "invalid port number"

inductive Host where
  | named (name : String)
  | version4 (address : Nat)
  | version6 (pieces : List Nat)
  deriving DecidableEq, Repr

namespace Host

def absent : Host := .named ""

instance : Inhabited Host := ⟨absent⟩

def render : Host → String
  | .named name => name
  | .version4 address => Address.render4 address
  | .version6 pieces => "[" ++ Address.render6 pieces ++ "]"

def readBracketed (chars : List Char) : Except UrlFault Host :=
  match chars.getLast?, Address.read6? chars.dropLast with
  | some ']', some pieces => .ok (.version6 pieces)
  | _, _ => .error .addressMalformed6

def readDomain (chars : List Char) : Except UrlFault Host :=
  match (percentDecode? chars).bind Domain.toAscii? with
  | some [] => .error .hostEmpty
  | some domain =>
      if Address.endsInNumber domain then
        match Address.read4? domain with
        | some address => .ok (.version4 address)
        | none => .error .addressMalformed4
      else .ok (.named (String.ofList domain))
  | none => .error .domainMalformed

/-- A character that cannot be part of a name outside of the special schemes. -/
def isForbidden (c : Char) : Bool :=
  c.toNat = 0 || " #/:<>?@[\\]^|".toList.contains c

def readName (chars : List Char) : Except UrlFault Host :=
  if chars.any isForbidden then .error .nameMalformed
  else .ok (.named (percentEncode isControl chars))

def read (special : Bool) : List Char → Except UrlFault Host
  | '[' :: rest => readBracketed rest
  | chars => if special then readDomain chars else readName chars

/-- The characters of a name that a request cannot be addressed with, although a domain may hold
them. -/
def isUnaddressable (c : Char) : Bool :=
  "\"`\x7b\x7d".toList.contains c

def isAddressable : Host → Bool
  | .named name => !name.toList.any isUnaddressable
  | _ => true

end Host

end Metacard.Http
