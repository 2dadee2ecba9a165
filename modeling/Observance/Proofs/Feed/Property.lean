import Observance.Proofs.Calendar.DateText
import Observance.Proofs.Calendar.Number
import Observance.Proofs.Feed.Block
import Observance.Proofs.Text.Digits
import Observance.Proofs.Text.Parts

/-! # Properties that are had back

A line that is written from a name, parameters and a value gives them again, up to blanks around the
value. A date in a value is had back whatever comes after its eight digits.
-/

namespace Observance

open Text

namespace Text

theorem isBlank_of_isAsciiDigit {c : CodePoint} (digit : isAsciiDigit c = true) :
    isBlank c = false := by
  have table : ∀ d < 10, isBlank (Nat.digitChar d) = false := by decide
  obtain ⟨d, bound, rfl⟩ := (isAsciiDigit_iff c).mp digit
  exact table d bound

end Text

section DateDigits

def Date.digits (date : Date) : Text :=
  paddedDecimal 4 date.year ++ (paddedDecimal 2 date.month ++ paddedDecimal 2 date.day)

variable (date : Date)

theorem Date.length_digits : date.digits.length = 8 := by
  obtain ⟨years, months, days⟩ := date.length_parts
  simp only [digits, List.length_append, years, months, days]

theorem Date.isAsciiDigit_of_mem_digits : ∀ c ∈ date.digits, isAsciiDigit c = true := by
  intro c member
  rw [digits, List.mem_append, List.mem_append] at member
  rcases member with year | month | day
  · exact isAsciiDigit_of_mem_paddedDecimal year
  · exact isAsciiDigit_of_mem_paddedDecimal month
  · exact isAsciiDigit_of_mem_paddedDecimal day

namespace Feed

/-- A date is had back from its digits. -/
theorem dateOfDigits?_digits : dateOfDigits? date.digits = some date := by
  obtain ⟨years, months, -⟩ := date.length_parts
  have year : date.digits.take 4 = paddedDecimal 4 date.year := List.take_left' years
  have later : date.digits.drop 4 = paddedDecimal 2 date.month ++ paddedDecimal 2 date.day :=
    List.drop_left' years
  have month : (date.digits.drop 4).take 2 = paddedDecimal 2 date.month := by
    rw [later, List.take_left' months]
  have day : date.digits.drop 6 = paddedDecimal 2 date.day := by
    rw [show 6 = 4 + 2 from rfl, ← List.drop_drop, later, List.drop_left' months]
  rw [dateOfDigits?, year, month, day, digitsValue_paddedDecimal, digitsValue_paddedDecimal,
    digitsValue_paddedDecimal, Date.ofParts?_eq_some date.valid]

/-- Eight digits at the front of a value are the first that it holds. -/
theorem eightDigits?_append {digits : Text} (eight : digits.length = 8)
    (ascii : ∀ c ∈ digits, isAsciiDigit c = true) (rest : Text) :
    eightDigits? (digits ++ rest) = some digits := by
  have all : digits.all isDigit = true :=
    List.all_eq_true.mpr fun c member => isDigit_of_isAsciiDigit (ascii c member)
  cases digits with
  | nil => cases eight
  | cons c digits =>
    have front : (c :: (digits ++ rest)).take 8 = c :: digits := List.take_left' eight
    rw [List.cons_append, eightDigits?]
    simp only [front, eight, all, and_self, if_true]

/-- A date is had back from a value that begins with its digits, also without blanks. -/
theorem dateOfValue?_trim (rest : Text) :
    dateOfValue? (trim (date.digits ++ rest)) = some date := by
  have ascii := date.isAsciiDigit_of_mem_digits
  have nonempty : date.digits ≠ [] := List.ne_nil_of_length_eq_add_one date.length_digits
  obtain ⟨kept, trimmed⟩ := exists_trim_append
    (fun c member => isBlank_of_isAsciiDigit (ascii c member)) rest nonempty
  rw [trimmed, dateOfValue?, eightDigits?_append date.length_digits ascii, Option.bind_some,
    dateOfDigits?_digits]

end Feed

end DateDigits

namespace Feed

section Lines

def propertyLine (name : Text) (parameters : List Text) (value : Text) : Text :=
  joinWith (.char ';') (name :: parameters) ++ .char ':' :: value

/-- Whether a name has neither a colon nor a semicolon. -/
def IsPlainName (name : Text) : Prop := .char ':' ∉ name ∧ .char ';' ∉ name

instance (name : Text) : Decidable (IsPlainName name) := inferInstanceAs (Decidable (_ ∧ _))

/-- Whether a parameter says that the value is a date without a time. -/
def isDateParameter (parameter : Text) : Bool := capitalizesTo (trim parameter) "VALUE=DATE"

variable {name key : Text} {parameters : List Text}

/-- A property is had back from its line. -/
theorem ofLine_propertyLine (plainName : IsPlainName name)
    (plain : ∀ parameter ∈ parameters, IsPlainName parameter) (value : Text) :
    Property.ofLine (propertyLine name parameters value) =
      ⟨name, joinWith (.char ';') parameters, trim value⟩ := by
  have head : CodePoint.char ':' ∉ joinWith (.char ';') (name :: parameters) := by
    intro member
    rcases mem_joinWith member with impossible | ⟨part, isPart, inPart⟩
    · cases impossible
    · rcases List.mem_cons.mp isPart with rfl | isParameter
      · exact plainName.1 inPart
      · exact (plain part isParameter).1 inPart
  rw [Property.ofLine, propertyLine, cutAt_append head]
  simp only [cutAt_joinWith plainName.2]

/-- A line gives the property that it is written for, and no other. -/
theorem propertyOf?_propertyLine (plainName : IsPlainName name)
    (plain : ∀ parameter ∈ parameters, IsPlainName parameter) (value : Text) :
    propertyOf? key (propertyLine name parameters value) =
      if name = key then some ⟨name, joinWith (.char ';') parameters, trim value⟩ else none := by
  have colon : (propertyLine name parameters value).contains ':' = true := by
    simp [propertyLine]
  rw [propertyOf?, ofLine_propertyLine plainName plain]
  simp only [colon, true_and]

/-- Parameters that are written declare a date if one of them does. -/
theorem declaresDate_joinWith (plain : ∀ parameter ∈ parameters, IsPlainName parameter) :
    declaresDate (joinWith (.char ';') parameters) = parameters.any isDateParameter := by
  cases parameters with
  | nil => decide
  | cons first parameters =>
    rw [declaresDate, splitAt_joinWith parameters fun part isPart => (plain part isPart).2]
    rfl

end Lines

end Feed

end Observance
