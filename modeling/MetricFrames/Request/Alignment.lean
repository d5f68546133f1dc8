import MetricFrames.Binary64.Arithmetic

/-!
# Alignment periods

The alignment period is the width of the buckets into which raw points are put. It is chosen
outright, follows from the interval of the panel, or, in two older spellings, from the length of
the time range. It is never below a minute unless it was chosen so.
-/

namespace MetricFrames.Alignment

/-- The shortest automatic period, in seconds. -/
def leastSeconds : Int := 60

/-- A period in seconds as a request has it. -/
def secondsText (seconds : Int) : String := "+" ++ toString seconds ++ "s"

/-- The larger one of a number and the shortest period. -/
def atLeastMinute (x : Binary64) : Binary64 :=
  if x.lt (.ofInt leastSeconds) then .ofInt leastSeconds else x

/-- The period that follows from the interval: its whole seconds, at least a minute. -/
def ofInterval (intervalMs : Int) : Except Fault Int :=
  (Binary64.quotient intervalMs 1000).bind fun x => (atLeastMinute x).toInteger

/-- The period that follows from the length of a range: a minute below 23 hours, five minutes below
six days, else an hour. -/
def ofDuration (seconds : Int) : String :=
  let length := max seconds leastSeconds
  if length < 60 * 60 * 23 then "+60s"
  else if length < 60 * 60 * 24 * 6 then "+300s"
  else "+3600s"

/-- The period for what was chosen, an interval in milliseconds and a range in seconds. -/
def period (chosen : String) (intervalMs seconds : Int) : Except Fault String :=
  if chosen = "grafana-auto" ∨ chosen = "" then (ofInterval intervalMs).map secondsText
  else if chosen = "cloud-monitoring-auto" ∨ chosen = "stackdriver-auto" then
    .ok (ofDuration seconds)
  else .ok chosen

end MetricFrames.Alignment
