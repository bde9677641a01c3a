import LogWatch.Incident

/-!
# The queue in front of delivery

What a monitor has to tell waits in its **outbox** until it is delivered. To put something in never
takes time: when the queue is full, what comes is dropped and counted, and when nobody will ever
read the queue again, what comes is forgotten.
-/

namespace LogWatch

/-- What waits for delivery. -/
inductive Delivery
  /-- A closed batch, from which a report is still to be made. -/
  | batch (b : Batch)
  /-- A finished alert. -/
  | alert (r : Report)

/-- A queue of limited length. -/
structure Outbox where
  /-- At most so many deliveries wait. -/
  capacity : Nat
  /-- The deliveries that wait, the first to be taken in front. -/
  waiting : List Delivery
  /-- The number of deliveries that found the queue full. -/
  dropped : Nat
  /-- The queue is read. -/
  isRead : Bool

namespace Outbox

/-- The length of the queue of a monitor. -/
def standardCapacity : Nat := 256

/-- An empty queue. -/
def new (capacity : Nat) : Outbox := ⟨capacity, [], 0, true⟩

/-- The queue has no room. -/
def isFull (o : Outbox) : Bool := decide (o.capacity ≤ o.waiting.length)

/-- Puts a delivery in. -/
def submit (o : Outbox) (d : Delivery) : Outbox :=
  if !o.isRead then o
  else if o.isFull then { o with dropped := o.dropped + 1 }
  else { o with waiting := o.waiting ++ [d] }

/-- Takes the first delivery out, if one waits. -/
def take (o : Outbox) : Option Delivery × Outbox :=
  match o.waiting with
  | [] => (none, o)
  | d :: rest => (some d, { o with waiting := rest })

/-- Nobody reads the queue any longer; what waits is lost. -/
def abandon (o : Outbox) : Outbox := { o with waiting := [], isRead := false }

end Outbox

end LogWatch
