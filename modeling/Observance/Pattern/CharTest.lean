import Observance.Pattern.Syntax
import Observance.Text.Blank
import Observance.Text.Case
import Observance.Text.Digit
import Observance.Text.Letter

/-! # Tests of single characters

A test that ignores case looks at the lower-case form of a character. A character of the pattern
then stands for its own lower-case form and for the lower-case characters that share its capital.
-/

namespace Observance.Pattern

open Observance.Text

/-- The ASCII part of a character class. -/
def Category.holdsAscii : Category → Nat → Bool
  | .digit, code => 48 ≤ code && code ≤ 57
  | .space, code => (9 ≤ code && code ≤ 13) || code == 32
  | .word, code =>
    (48 ≤ code && code ≤ 57) || (65 ≤ code && code ≤ 90) || (97 ≤ code && code ≤ 122) ||
      code == 95

/-- A character class, restricted to ASCII or not. -/
def Category.holds (ascii : Bool) (kind : Category) (code : Nat) : Bool :=
  if ascii then kind.holdsAscii code
  else match kind with
    | .digit => (digitValueOfCode? code).isSome
    | .space => isBlankCode code
    | .word => isWordCode code

/-- Which differences of case a test disregards. -/
inductive Folding where
  | none
  | ascii
  | full
deriving Repr, DecidableEq, Inhabited

namespace Folding

def apply : Folding → Nat → Nat
  | .none, code => code
  | .ascii, code => asciiLowerCode code
  | .full, code => lowerCode code

def formsOf : Folding → Nat → List Nat
  | .none, code => [code]
  | .ascii, code => [asciiLowerCode code]
  | .full, code => lowerCode code :: sharersOf (lowerCode code)

/-- The characters of the pattern that stand for a tested form. -/
def sourcesOf : Folding → Nat → List Nat
  | .none, form => [form]
  | .ascii, form => form :: asciiCapitalsOf form
  | .full, form => (form :: sharersOf form).flatMap fun code => code :: capitalsOf code

/-- Whether a character has other forms, as far as a folding goes. -/
def isCased : Folding → Nat → Bool
  | .none, _ => false
  | .ascii, code => code < 128 && isCasedCode code
  | .full, code => isCasedCode code

/-- Whether a character of a range has other forms, as far as a folding goes. -/
def hasCased : Folding → Nat → Nat → Bool
  | .none, _, _ => false
  | .ascii, low, high => low < 128 && Text.hasCased low (min high 127)
  | .full, low, high => Text.hasCased low high

end Folding

/-- The last code point up to which sets of characters are spelled out in all their forms. -/
def lastSpelledOut : Nat := 0xFFFF

/-- Whether a member of a set holds of a tested form. A single character beyond the first 65536 code
points is compared with the form as it stands, and a range that reaches so far holds of a form also
if it holds the capital. -/
def Member.holds (folding : Folding) (ascii : Bool) (form : Nat) : Member → Bool
  | .code value =>
    if value > lastSpelledOut then form == value else (folding.formsOf value).contains form
  | .range low high =>
    let spelledOut := (folding.sourcesOf form).any fun code =>
      low ≤ code && code ≤ min high lastSpelledOut
    let beyond := high > lastSpelledOut &&
      (low ≤ form && form ≤ high ||
        folding != .none && low ≤ upperCode form && upperCode form ≤ high)
    spelledOut || beyond
  | .category kind negated => kind.holds ascii form != negated

def Member.isCased (folding : Folding) : Member → Bool
  | .code value => folding.isCased value || folding != .none && value > lastSpelledOut
  | .range low high => folding.hasCased low high || folding != .none && high > lastSpelledOut
  | .category .. => false

/-- A test of one character. -/
inductive CharTest where
  | any
  | notLineFeed
  | oneOf (folding : Folding) (negated : Bool) (forms : List Nat)
  | set (folding : Folding) (ascii negated : Bool) (members : List Member)
deriving Repr, DecidableEq, Inhabited

namespace CharTest

def ofCode (folding : Folding) (negated : Bool) (code : Nat) : CharTest :=
  if folding.isCased code then .oneOf folding negated (folding.formsOf code)
  else .oneOf .none negated [code]

def ofMembers (folding : Folding) (ascii negated : Bool) (members : List Member) : CharTest :=
  .set (if members.any (·.isCased folding) then folding else .none) ascii negated members

def holds : CharTest → Nat → Bool
  | .any, _ => true
  | .notLineFeed, code => code != 10
  | .oneOf folding negated forms, code => forms.contains (folding.apply code) != negated
  | .set folding ascii negated members, code =>
    members.any (·.holds folding ascii (folding.apply code)) != negated

/-- The only character that passes a test that regards case. -/
def onlyCode? : CharTest → Option Nat
  | .oneOf .none false [code] => some code
  | _ => none

/-- Whether a test settles what may come first in an alternative: it names one character or a set,
and regards case. -/
def settlesFirst : CharTest → Bool
  | .set .none .. => true
  | test => test.onlyCode?.isSome

/-- Whether repetitions of a test move the cursor character by character. -/
def isStepwise : CharTest → Bool
  | .set folding .. => folding != .none
  | .oneOf folding _ forms => folding != .none && forms.length > 1
  | _ => false

end CharTest

end Observance.Pattern
