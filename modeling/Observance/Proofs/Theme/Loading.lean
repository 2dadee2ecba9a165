import Observance.Proofs.Theme.Winner
import Observance.Proofs.Web.Client
import Observance.Theme.Loading

/-! # Loads that succeed

A schedule that was read from a document always has a selection, and so has the lack of one. So a
load succeeds for any document, any preferences and whatever comes of the request, given what is
documented of requests, and if there is no schedule, the page shows no theme and no badge.
-/

namespace Observance

open Result

namespace Theme

/-- The selection of a day never fails for a schedule that was read. -/
theorem selectWinner_ofJson? (document : Json) (today : Date) :
    selectWinner (Schedule.ofJson? document) today =
      .ok (shown ((Schedule.ofJson? document).bind (winnerOf? · today))) := by
  cases read : Schedule.ofJson? document with
  | none => rfl
  | some schedule => exact winnerOf_eq (Schedule.isPublishable_of_ofJson? read).1 today

end Theme

namespace Visit

open Web

variable {visit : Visit Text} {exchange : Exchange} {today : Date}

theorem load_eq {schedule : Option CheckedSchedule} {selection : Selection Text}
    (selected : Theme.selectWinner schedule today = .ok selection) :
    visit.load schedule today =
      ⟨{ visit with selection }, ({ visit with selection } : Visit Text).render, none⟩ := by
  rw [load, selected]

/-- Without a winner the page shows no theme and no badge, whatever the preferences. -/
theorem render_nothing :
    ({ visit with selection := .nothing } : Visit Text).render =
      [.applyTheme Theme.noTheme .subtle, .hideBadge] := by
  have applied : ({ visit with selection := .nothing } : Visit Text).applied = .nothing :=
    ite_self _
  have isNone : Theme.isNone (Selection.nothing : Selection Text).themeId = true := by
    rw [Theme.isNone_eq]
    rfl
  rw [render, badge?, applied, isNone]
  rfl

/-- Loading the lack of a schedule shows no theme and no badge. -/
theorem load_none : visit.load (none : Option CheckedSchedule) today =
    ⟨{ visit with selection := .nothing }, [.applyTheme Theme.noTheme .subtle, .hideBadge],
      none⟩ := by
  have selected : Theme.selectWinner (none : Option CheckedSchedule) today = .ok .nothing := rfl
  rw [load_eq selected, render_nothing]

/-- What a request gave has a selection. -/
theorem exists_selectWinner_of_schedule? {schedule : Option CheckedSchedule}
    (success : exchange.schedule? = .ok schedule) (today : Date) :
    ∃ selection, Theme.selectWinner schedule today = .ok selection := by
  cases schedule with
  | none => exact ⟨.nothing, rfl⟩
  | some schedule =>
    obtain ⟨document, read⟩ := Exchange.exists_document_of_schedule? success
    exact ⟨_, Theme.winnerOf_eq (Schedule.isPublishable_of_ofJson? read).1 today⟩

theorem failure_loadFrom_of_isDocumented (documented : exchange.IsDocumented) :
    (visit.loadFrom exchange today).failure = none := by
  obtain ⟨found, success⟩ := documented.exists_document?
  have success := Exchange.schedule?_of_document? success
  obtain ⟨selection, selected⟩ := exists_selectWinner_of_schedule? success today
  simp only [loadFrom, success, load_eq selected]

theorem loadFrom_of_fails (fails : exchange.Fails) (documented : exchange.IsDocumented) :
    visit.loadFrom exchange today =
      ⟨{ visit with selection := .nothing }, [.applyTheme Theme.noTheme .subtle, .hideBadge],
        none⟩ := by
  simp only [loadFrom, Exchange.schedule?_of_fails fails documented, load_none]

/-- There is a selection for every document and every day. A load succeeds whatever the preferences
and whatever comes of the request, given what is documented of requests; if the request fails, the
page shows no theme and no badge. -/
theorem loadFrom_total (visit : Visit Text) (exchange : Exchange)
    (documented : exchange.IsDocumented) (document : Json) (today : Date) :
    (∃ selection, Theme.selectWinner (Schedule.ofJson? document) today = .ok selection) ∧
    (visit.loadFrom exchange today).failure = none ∧
    (exchange.Fails → visit.loadFrom exchange today =
      ⟨{ visit with selection := .nothing }, [.applyTheme "none" .subtle, .hideBadge], none⟩) :=
  ⟨⟨_, Theme.selectWinner_ofJson? document today⟩, failure_loadFrom_of_isDocumented documented,
    fun fails => loadFrom_of_fails fails documented⟩

def gone : Exchange := .answer (.plain 404 [103, 111, 110, 101])

theorem isDocumented_gone : gone.IsDocumented where
  raised _ _ same := nomatch same
  unread response error same failure := by
    cases same
    cases failure

/-- A schedule that is not there is taken for none. -/
theorem loadFrom_total_gone : gone.IsDocumented ∧
    (Visit.begin (.memory [])).loadFrom gone Date.first =
      ⟨{ preferences := .memory [], selection := .nothing },
        [.applyTheme "none" .subtle, .hideBadge], none⟩ :=
  ⟨isDocumented_gone, (loadFrom_total _ gone isDocumented_gone .null _).2.2 (.refused (by decide))⟩

end Visit

end Observance
