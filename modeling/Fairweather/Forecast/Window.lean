import Fairweather.Forecast.Dataset

/-!
# Windows

Selected observations are grouped into windows of time. With an interval, a window lasts from its
first observation to one interval after its last, and an observation joins the window that the next
one begins exactly where its own interval ends. Without an interval every observation is a window
of its own, which lasts no time.

`windows?` has no answer when the interval of a selected observation ends beyond the calendar.
-/

namespace Fairweather

/-- A span of time from `start` up to `stop`, and the selected observations within it. -/
structure Window where
  start : Timestamp
  stop : Timestamp
  records : List Observation
deriving DecidableEq

/-- An observation that lasts until `stop`, put before the windows of the observations that follow
it. -/
def Window.extend (interval : Option Int) (record : Observation) (stop : Timestamp) :
    List Window → List Window
  | [] => [⟨record.timestamp, stop, [record]⟩]
  | next :: later =>
    if interval.isSome ∧ stop = next.start then
      ⟨record.timestamp, next.stop, record :: next.records⟩ :: later
    else ⟨record.timestamp, stop, [record]⟩ :: next :: later

/-- The windows of a selection, in order. -/
def windows? (interval : Option Int) : List Observation → Option (List Window)
  | [] => some []
  | record :: rest => do
    let stop ← record.timestamp.shift? (interval.getD 0)
    let later ← windows? interval rest
    return Window.extend interval record stop later

end Fairweather
