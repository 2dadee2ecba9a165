import Observance.Theme.Visit
import Observance.Web.Client

/-! # Loading from the web

A visit requests the published schedule and shows the theme of the day. A schedule that cannot be
had is as good as none. An error that the client does not handle is passed on, and nothing is shown.
-/

namespace Observance

/-- Loads the schedule that a request for it brings. -/
def Visit.loadFrom (visit : Visit Text) (exchange : Web.Exchange) (today : Date) :
    Outcome Text :=
  match exchange.schedule? with
  | .ok schedule => visit.load schedule today
  | .error error => { visit, calls := [], failure := some (.request error) }

end Observance
