import LogWatch.Time.Span

/-!
# Ticks at regular moments

A **ticker** is due at moments one period apart, the first of which is its start. When it is
attended to late, the moments that have passed are skipped; a delay of up to five milliseconds does
not count as late.
-/

namespace LogWatch

/-- Is due once in a period. -/
structure Ticker where
  /-- The time between two ticks. -/
  period : Span
  /-- The moment of the next tick. -/
  next : Moment

namespace Ticker

/-- A tick that comes later than this has missed others. -/
def tolerance : Span := Span.ofMillis 5

/-- A ticker that is due at `now` for the first time. -/
def startingAt (now : Moment) (period : Span) : Ticker := ⟨period, now⟩

/-- A tick is due. -/
def isDue (t : Ticker) (now : Moment) : Bool := decide (t.next ≤ now)

/-- The ticker after the tick that is due has been attended to at `now`. -/
def attend (t : Ticker) (now : Moment) : Ticker :=
  if t.next + tolerance < now then { t with next := now + t.period - (now - t.next) % t.period }
  else { t with next := t.next + t.period }

end Ticker

end LogWatch
