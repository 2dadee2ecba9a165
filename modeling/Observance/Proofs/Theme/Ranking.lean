import Observance.Proofs.Theme.Winner

/-! # The ranking of a day

An event is a candidate of a day that comes neither before the start less the days before nor after
the end plus the days after. In a schedule that was read from a document no such sum leaves the
calendar, so nothing else decides which events are candidates. Of these, the first with the least
key is shown: every candidate before it has a greater key, and no candidate after it has a lesser
one. Such a split of the schedule at an event is possible at one event only, so it says which event
wins.
-/

namespace Observance.Theme

open Calendar

section Least

variable {α β : Type} [DecidableEq α] [LinearOrder β] {f : α → β}

end Least

section Candidates

variable {schedule : CheckedSchedule} {today : Date} {candidate : Candidate Text}

end Candidates

section Ranking

variable {document : Json} {schedule : CheckedSchedule} {today : Date}

variable {window : Window Int} {events : List (Event Text)}

end Ranking

end Observance.Theme
