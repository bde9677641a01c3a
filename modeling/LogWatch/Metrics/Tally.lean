import LogWatch.Json.Value

/-!
# Tallies

A **tally** keeps the values of metrics in memory. The series of one name are told apart by a key,
in which the labels stand in order, so that the order in which they are given does not count.
Counters wrap around at 64 bits.
-/

namespace LogWatch

namespace Metrics

/-- Labels with their values. -/
abbrev Labels := List (String × String)

/-- A label with its value goes before another one. -/
def labelBefore (a b : String × String) : Bool := a.1 < b.1 || (a.1 == b.1 && decide (a.2 ≤ b.2))

/-- The key of a series. -/
def seriesKey (name : String) (labels : Labels) : String :=
  let written := (labels.mergeSort labelBefore).map fun (k, v) => k ++ "=" ++ v
  name ++ "\x7b" ++ ",".intercalate written ++ "\x7d"

/-- Values of metrics by the keys of their series. -/
structure Tally where
  /-- The counters. -/
  counters : SortedMap Nat
  /-- The gauges. -/
  gauges : SortedMap Float

namespace Tally

/-- No values. -/
def empty : Tally := ⟨[], []⟩

/-- The value of a counter, zero at first. -/
def counter (t : Tally) (name : String) (labels : Labels) : Nat :=
  (SortedMap.get? t.counters (seriesKey name labels)).getD 0

/-- The value of a gauge, if it has been set. -/
def gauge? (t : Tally) (name : String) (labels : Labels) : Option Float :=
  SortedMap.get? t.gauges (seriesKey name labels)

/-- Adds to a counter. -/
def increment (t : Tally) (name : String) (labels : Labels) (n : Nat) : Tally :=
  let value := (t.counter name labels + n) % Nat.pow 2 64
  { t with counters := SortedMap.insert (seriesKey name labels) value t.counters }

/-- Sets a gauge. -/
def setGauge (t : Tally) (name : String) (labels : Labels) (x : Float) : Tally :=
  { t with gauges := SortedMap.insert (seriesKey name labels) x t.gauges }

end Tally

end Metrics

end LogWatch
