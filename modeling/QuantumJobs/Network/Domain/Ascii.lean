import QuantumJobs.Network.Domain.Joining
import QuantumJobs.Network.Domain.Mapping
import QuantumJobs.Network.Domain.Punycode

/-!
# Ascii — domain names as they are looked up

A domain name is mapped and composed; then each of its labels is written in ASCII, one beyond ASCII
behind the mark `xn--`.  A label that comes with the mark is read back and held to the same rules.
-/

namespace QuantumJobs
namespace Domain

def isAscii (c : Char) : Bool := c.toNat < 0x80

/-- The mark of a label that stands for one beyond ASCII. -/
def encodedMark : List Char := "xn--".toList

/-- The characters of a label; one behind the mark must be what encoding gives. -/
def readLabel? (label : List Char) : Option (List Char) :=
  if encodedMark.isPrefixOf label then
    (Punycode.decode? (label.drop encodedMark.length)).filter fun cs =>
      !cs.all isAscii && cs.all isKept && composeChars cs = cs
  else some label

def writeLabel (label : List Char) : List Char :=
  if label.all isAscii then label else encodedMark ++ Punycode.encode label

/-- Whether a label starts with a character that can start one, and its joiners fit. -/
def isSound (label : List Char) : Bool := !label.head?.any isMark && joinersFit [] label

/-- Whether labels can stand together whatever the directions of their characters. -/
def readInOneOrder (labels : List (List Char)) : Bool :=
  !labels.any (·.any runsRightToLeft) || labels.all fun l => readsInOneOrder (l.map direction)

/-- The form of a domain name that is looked up, if there is one. -/
def toAscii? (cs : List Char) : Option (List Char) := do
  let mapped ← mapChars? cs
  let labels ← ((composeChars mapped).splitOn '.').mapM readLabel?
  if labels.all isSound && readInOneOrder labels then
    some (['.'].intercalate (labels.map writeLabel))
  else none

end Domain
end QuantumJobs
