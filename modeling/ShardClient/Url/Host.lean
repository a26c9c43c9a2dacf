/-
The hosts in addresses.

Where the scheme is a well-known one the host is a domain name or a numeric address.  For other
schemes only numeric addresses in brackets have a meaning, and any other host is kept as it is.
-/
import ShardClient.Domain.Name
import ShardClient.Url.Ip
import ShardClient.Url.Percent

namespace ShardClient

/-- A host. -/
inductive UrlHost where
  /-- A name: that of a domain in ASCII, or one that only the scheme understands. -/
  | name (text : List Char)
  | ip4 (address : Nat)
  | ip6 (pieces : List Nat)
  deriving DecidableEq, Repr

namespace UrlHost

/-- The host as an address names it. -/
def text : UrlHost → List Char
  | .name text => text
  | .ip4 address => Ip4.text address
  | .ip6 pieces => ['['] ++ Ip6.text pieces ++ [']']

/-- Reads a numeric address in brackets, given what stands behind the first one. -/
def bracketed? (cs : List Char) : Option UrlHost :=
  if cs.getLast? == some ']' then (Ip6.read? cs.dropLast).map .ip6 else none

/-- Reads a domain name or a numeric address. -/
def domain? (cs : List Char) : Option UrlHost :=
  match cs with
  | '[' :: rest => bracketed? rest
  | cs => do
    let name ← Domain.ascii? (← Utf8.decode? (Percent.decode cs)).toList
    if name.isEmpty then none
    else if Ip4.isClaimedBy name then (Ip4.read? name).map .ip4
    else some (.name name)

/-- Characters that stand in no host, whatever the scheme. -/
def forbidden : List Char :=
  ['\x00', ' ', '#', '/', ':', '<', '>', '?', '@', '[', '\\', ']', '^', '|']

/-- Reads the host of a scheme that is not known. -/
def verbatim? (cs : List Char) : Option UrlHost :=
  match cs with
  | '[' :: rest => bracketed? rest
  | cs => if cs.any forbidden.contains then none else some (.name (Percent.encode [] cs))

end UrlHost

end ShardClient
