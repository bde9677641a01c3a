import LogWatch.Json.Value
import LogWatch.Number.Binary64
import LogWatch.Time.Span

/-!
# The cached state of the host

Reports carry the state of the host as it was collected last. It is collected again after a while,
and less often while the host is under load.
-/

namespace LogWatch

/-- The state of the host as it was collected last. -/
structure HostState where
  /-- So many processes are listed. -/
  topProcesses : Nat
  /-- What was collected. -/
  snapshot : Json.Members

namespace HostState

/-- Nothing has been collected. -/
def empty (topProcesses : Nat) : HostState := ⟨topProcesses, []⟩

/-- Under load, the state is collected after this time at the earliest. -/
def loadedDelay : Span := Span.ofSeconds 600

/-- The time until the state is collected again, by the load of the last minute. -/
def nextDelay (load : Float) (processors : Nat) (base : Span) : Span :=
  if Binary64.ofNat processors < load then max loadedDelay base else base

end HostState

end LogWatch
