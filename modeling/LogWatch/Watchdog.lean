import LogWatch.Time.Span

/-!
# Watching for silence

A **watchdog** knows when the last line was read, in whole milliseconds since it was made, and
whether it has raised the alarm. A check raises the alarm when the source has been idle for the
threshold, and calls it off when it has not; it tells only of a change.
-/

namespace LogWatch

/-- A change that a check finds. -/
inductive WatchdogEvent
  /-- The source has been idle for so long. -/
  | silent (idle : Span)
  /-- Lines come again. -/
  | resumed
  deriving DecidableEq

/-- Watches one source. -/
structure Watchdog where
  /-- Being idle for so long raises the alarm. -/
  threshold : Span
  /-- When the watchdog was made. -/
  base : Moment
  /-- The last line was read so many milliseconds after that. -/
  lastReadMillis : Nat
  /-- The alarm is raised. -/
  alerted : Bool

namespace Watchdog

/-- Checks are at least this far apart. -/
def minPeriod : Span := Span.ofMillis 100

/-- Checks are at most this far apart. -/
def maxPeriod : Span := Span.ofSeconds 10

/-- A watchdog made at `now`, as if a line had just been read. -/
def new (threshold : Span) (now : Moment) : Watchdog := ⟨threshold, now, 0, false⟩

/-- The time between two checks: half the threshold, within limits. -/
def period (w : Watchdog) : Span := min (max (w.threshold / 2) minPeriod) maxPeriod

/-- The greatest number of milliseconds that is recorded. -/
def maxMillis : Nat := Nat.pow 2 64 - 1

/-- A line has been read at `now`. -/
def touch (w : Watchdog) (now : Moment) : Watchdog :=
  { w with lastReadMillis := min ((now - w.base) / 1000000) maxMillis }

/-- The time since the last line was read, as recorded. -/
def idle (w : Watchdog) (now : Moment) : Span := now - (w.base + Span.ofMillis w.lastReadMillis)

/-- A check at `now`. -/
def check (w : Watchdog) (now : Moment) : Option WatchdogEvent × Watchdog :=
  let idle := w.idle now
  if w.threshold ≤ idle then
    if w.alerted then (none, w) else (some (.silent idle), { w with alerted := true })
  else if w.alerted then (some .resumed, { w with alerted := false })
  else (none, w)

end Watchdog

end LogWatch
