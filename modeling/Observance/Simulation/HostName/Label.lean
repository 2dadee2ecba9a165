import Observance.Text.LowerCase
import Observance.Simulation.Punycode
import Observance.Simulation.HostName.Context
import Observance.Simulation.HostName.Direction

/-! # Labels

A host name consists of labels. One that is not in ASCII is put in small letters and checked: it has
to be composed, its characters have to fit together, and neither a mark nor a hyphen may stand where
it misleads. It is then written in ASCII, behind a mark that says so.
-/

namespace Observance.Simulation.HostName

open Observance.Text

def isAscii (text : Text) : Bool := text.all (·.toNat < 0x80)

/-- Whether the hyphens of a label mislead: those at its ends, and two in a row after two
characters. -/
def hasBadHyphens (label : Text) : Bool :=
  label.head? == some '-' || label.getLast? == some '-' || (label.drop 2).take 2 == "--"

/-- Whether a label in small letters can be registered. -/
def isLabel (label : Text) : Bool :=
  let codes := label.map CodePoint.toNat
  !label.isEmpty && !hasBadHyphens label && !codes.head?.any isMark && allFit [] codes &&
    isComposed codes && hasOneDirection codes

def encodedMark : Text := ['x', 'n', '-', '-']

def maximalSize : Nat := 63

/-- A label that is not in ASCII, written in ASCII, if it can be registered. -/
def encode? (label : Text) : Option Text :=
  let label := lower label
  let encoded := if isAscii label then label else encodedMark ++ Punycode.encode label
  if isLabel label && encoded.length ≤ maximalSize then some encoded else none

end Observance.Simulation.HostName
