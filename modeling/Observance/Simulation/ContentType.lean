import Observance.Text.Blank
import Observance.Text.Case
import Observance.Text.Quoted
import Observance.Text.Split

/-! # Content types

A content type is followed by parameters, each after a semicolon. A parameter has a name, an equals
sign and a value, both of which may be in quotes. The parameter `charset` names the character set
of the body; without it the kind of content says what to assume.
-/

namespace Observance.Simulation

open Observance.Text

/-- The part of a text that is left when blanks and quotation marks are cut off at its ends. -/
def unquote (isCut : CodePoint → Bool) (text : Text) : Text :=
  ((text.dropWhile isCut).reverse.dropWhile isCut).reverse

/-- The blank and the quotation marks around a name or a value. -/
def isMargin (c : CodePoint) : Bool := c == '"' || c == '\'' || c == ' '

/-- The quotation marks around a value. -/
def isQuote (c : CodePoint) : Bool := c == '"' || c == '\''

/-- The name of a parameter in small letters, and its value, if it has an equals sign. -/
def readParameter (parameter : Text) : Text × Option Text :=
  if parameter.contains '=' then
    let (name, value) := cutAt (.char '=') parameter
    ((unquote isMargin name).map asciiLower, some (unquote isMargin value))
  else (parameter.map asciiLower, none)

def parametersOf (header : Text) : List (Text × Option Text) :=
  (((splitAt (.char ';') header).drop 1).map trim).filterMap fun parameter =>
    if parameter.isEmpty then none else some (readParameter parameter)

/-- The character set of a content type; the last parameter of that name counts, if it has a value.
-/
def declaredCharset? (header : Text) : Option Text :=
  match (parametersOf header).reverse.lookup ("charset" : Text) with
  | some (some name) => some (unquote isQuote name)
  | some none | none =>
    let content := trim ((splitAt (.char ';') header).headD [])
    if occursIn "text" content then some "ISO-8859-1"
    else if occursIn "application/json" content then some "utf-8"
    else none

end Observance.Simulation
