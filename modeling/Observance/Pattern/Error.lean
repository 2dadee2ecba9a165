import Observance.Pattern.Syntax
import Observance.Text.IntegerText
import Observance.Text.Place

/-! # Faults of search patterns

A fault of the pattern's text is placed at an offset; a fault that only shows when the pattern is
put together has no place. The other faults concern a number or a choice of flags that no search
could work with.
-/

namespace Observance.Pattern

open Observance.Text

/-- What is wrong with a pattern. -/
inductive Problem where
  | danglingBackslash
  | missingName (what : String)
  | unterminatedName (terminator : CodePoint)
  | badGroupName (name : Text)
  | incompleteEscape (escape : Text)
  | badEscape (escape : Text)
  | missingBrace
  | undefinedCharacterName (name : Text)
  | octalTooLarge (escape : Text)
  | openGroup
  | groupInSameLookbehind
  | invalidGroup (index : Nat)
  | unterminatedSet
  | badRange (low high : Text)
  | leastAboveMost
  | nothingToRepeat
  | multipleRepeat
  | unexpectedEnd
  | unknownExtension (text : Text)
  | unknownGroupName (name : Text)
  | unterminatedComment
  | unterminatedGroup
  | badGroupNumber
  | tooManyBranches
  | flagsNotAtStart
  | redefinedGroup (name : Text) (index earlier : Nat)
  | localeFlag
  | incompatibleFlags
  | flagsUnterminated
  | unknownFlag
  | globalFlagOn
  | missingFlag
  | alphabetFlagOff
  | missingColon
  | globalFlagOff
  | flagOnAndOff
  | unbalancedParenthesis
  | lookbehindNotFixed
  | templateRepeat (mode : RepeatMode)
deriving Repr, DecidableEq

/-- The wording of a problem. -/
def Problem.message : Problem → Text
  | .danglingBackslash => "bad escape (end of pattern)"
  | .missingName what => s!"missing {what}"
  | .unterminatedName terminator => "missing " ++ [terminator] ++ ", unterminated name"
  | .badGroupName name => "bad character in group name " ++ quote name
  | .incompleteEscape escape => "incomplete escape " ++ escape
  | .badEscape escape => "bad escape " ++ escape
  | .missingBrace => "missing \x7b"
  | .undefinedCharacterName name => "undefined character name " ++ quote name
  | .octalTooLarge escape => "octal escape value " ++ escape ++ " outside of range 0-0o377"
  | .openGroup => "cannot refer to an open group"
  | .groupInSameLookbehind =>
    "cannot refer to group defined in the same lookbehind subpattern"
  | .invalidGroup index => s!"invalid group reference {index}"
  | .unterminatedSet => "unterminated character set"
  | .badRange low high => "bad character range " ++ low ++ "-" ++ high
  | .leastAboveMost => "min repeat greater than max repeat"
  | .nothingToRepeat => "nothing to repeat"
  | .multipleRepeat => "multiple repeat"
  | .unexpectedEnd => "unexpected end of pattern"
  | .unknownExtension text => "unknown extension ?" ++ text
  | .unknownGroupName name => "unknown group name " ++ quote name
  | .unterminatedComment => "missing ), unterminated comment"
  | .unterminatedGroup => "missing ), unterminated subpattern"
  | .badGroupNumber => "bad group number"
  | .tooManyBranches => "conditional backref with more than two branches"
  | .flagsNotAtStart => "global flags not at the start of the expression"
  | .redefinedGroup name index earlier =>
    "redefinition of group name " ++ quote name ++ s!" as group {index}; was group {earlier}"
  | .localeFlag => "bad inline flags: cannot use 'L' flag with a str pattern"
  | .incompatibleFlags => "bad inline flags: flags 'a', 'u' and 'L' are incompatible"
  | .flagsUnterminated => "missing -, : or )"
  | .unknownFlag => "unknown flag"
  | .globalFlagOn => "bad inline flags: cannot turn on global flag"
  | .missingFlag => "missing flag"
  | .alphabetFlagOff => "bad inline flags: cannot turn off flags 'a', 'u' and 'L'"
  | .missingColon => "missing :"
  | .globalFlagOff => "bad inline flags: cannot turn off global flag"
  | .flagOnAndOff => "bad inline flags: flag turned on and off"
  | .unbalancedParenthesis => "unbalanced parenthesis"
  | .lookbehindNotFixed => "look-behind requires fixed-width pattern"
  | .templateRepeat .greedy => "internal: unsupported template operator MAX_REPEAT"
  | .templateRepeat .lazy => "internal: unsupported template operator MIN_REPEAT"
  | .templateRepeat .possessive => "internal: unsupported template operator POSSESSIVE_REPEAT"

/-- Why a pattern cannot be used. -/
inductive Fault where
  /-- The pattern is wrong, at an offset of its text if one can be named. -/
  | invalid (problem : Problem) (offset : Option Nat)
  /-- A repetition count is beyond what a search can count to. -/
  | repetitionTooLarge
  /-- A number in the pattern has too many digits. -/
  | number (error : IntegerError)
  /-- Both alphabet flags are set for the whole pattern. -/
  | alphabetConflict
  /-- The pattern, though right, asks a search to look back farther than it can. -/
  | unusable
  /-- A group lies deeper than there is room for. -/
  | tooDeep
deriving Repr, DecidableEq

/-- The wording of a problem at an offset; line and column are given for patterns of several
lines. -/
def placedMessage (pattern : Text) (problem : Problem) (offset : Nat) : Text :=
  let place := placeAt pattern offset
  let located := problem.message ++ s!" at position {offset}"
  if pattern.contains '\n' then located ++ s!" (line {place.line}, column {place.column})"
  else located

def Fault.message (pattern : Text) : Fault → Text
  | .invalid problem (some offset) => placedMessage pattern problem offset
  | .invalid problem none => problem.message
  | .repetitionTooLarge => "the repetition number is too large"
  | .number error => error.message
  | .alphabetConflict => "ASCII and UNICODE flags are incompatible"
  | .unusable => "invalid SRE code"
  | .tooDeep => "maximum recursion depth exceeded"

/-- Why a search ends without an answer. -/
inductive SearchFault where
  /-- In the match found, a group ends before it begins. -/
  | tornGroup
deriving Repr, DecidableEq

def SearchFault.message : SearchFault → String
  | .tornGroup =>
    "The span of capturing group is wrong, please report a bug for the re module."

end Observance.Pattern
