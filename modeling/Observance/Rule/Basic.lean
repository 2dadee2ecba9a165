import Observance.Pattern
import Observance.Window

/-! # Rules

A rule describes one observance: what it is called, how important it is, which theme it has, and
when it takes place. That is either whenever the calendar has an event whose summary fits a
pattern, or on the same day of every year.
-/

namespace Observance

/-- When an observance takes place. -/
inductive DateRule where
  /-- On the soonest event of the calendar whose summary fits the pattern. -/
  | calendar (pattern : Pattern)
  /-- On the same day of every year. -/
  | fixed (month day : Nat)
deriving Repr, Inhabited

/-- The description of one observance. -/
structure Rule where
  id : Text
  name : Text
  importance : Text
  themeId : Text
  dateRule : DateRule
deriving Repr, Inhabited

/-- The rules of a site, with its window and its importances in order of priority. -/
structure RuleSet where
  window : Window Int
  priorityOrder : List Text
  rules : List Rule
deriving Repr, Inhabited

end Observance
