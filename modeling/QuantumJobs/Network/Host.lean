import QuantumJobs.Network.Address
import QuantumJobs.Network.Domain.Ascii
import QuantumJobs.Network.Percent

/-!
# Host — the machine that a URL names

A host is a name or a numeric address.  Schemes of the web have domain names; those of other schemes
are names of their own, which are only checked for characters that would end them.
-/

namespace QuantumJobs

inductive Host
  | name (s : String)
  | address4 (a : Address4)
  | address6 (a : Address6)
  deriving DecidableEq, Repr

namespace Host

/-- The host that is not named. -/
def empty : Host := .name ""

/-- A character that no host has. -/
def isForbidden (c : Char) : Bool := "\x00\t\n\r #/:<>?@[\\]^|".toList.contains c

/-- A character that no domain name has. -/
def isForbiddenInDomain (c : Char) : Bool :=
  isForbidden c || c.toNat < 0x20 || c.toNat = 0x7F || c = '%'

/-- A domain name, or the address that it turns out to be. -/
def ofDomain? (cs : List Char) : Option Host := do
  let domain ← Domain.toAscii? (← Percent.decode? cs)
  if domain.isEmpty || domain.any isForbiddenInDomain then none
  else if Address4.isMeant domain then (Address4.ofChars? domain).map .address4
  else some (.name (String.ofList domain))

/-- A name that is no domain name. -/
def ofName? (cs : List Char) : Option Host :=
  if cs.any isForbidden then none
  else some (.name (String.ofList (Percent.encode (fun _ => false) cs)))

/-- An address of version 6 stands in brackets; anything else is a name, of a domain or not. -/
def ofChars? (isDomain : Bool) : List Char → Option Host
  | '[' :: rest =>
      if rest.getLast? = some ']' then (Address6.ofChars? rest.dropLast).map .address6 else none
  | cs => if isDomain then ofDomain? cs else ofName? cs

/-- The host as it is looked up. -/
def lookupText : Host → String
  | .name s => s
  | .address4 a => a.text
  | .address6 a => a.text

/-- The host as a URL writes it. -/
def text : Host → String
  | .address6 a => "[" ++ a.text ++ "]"
  | h => h.lookupText

end Host
end QuantumJobs
