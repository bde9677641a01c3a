import LogWatch.Number.Binary64
import LogWatch.Time.Civil

/-!
# Seconds since 1970 as binary64

Reports and log timestamps carry their time as a binary64 number of seconds: the whole seconds, plus
the nanoseconds divided by `1e9`, each step rounded.
-/

namespace LogWatch

namespace Epoch

/-- Whole seconds and nanoseconds as a number of seconds. -/
def ofParts (seconds : Int) (nanos : Nat) : Float :=
  Binary64.ofInt seconds + Binary64.ofNat nanos / 1e9

/-- A reading of the wall clock as a number of seconds, zero before 1970. -/
def ofWallTime (t : WallTime) : Float :=
  if t.seconds < 0 then 0.0 else ofParts t.seconds t.nanos

end Epoch

end LogWatch
