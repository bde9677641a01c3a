import LogWatch.Json.Value
import LogWatch.Text.Utf8
import LogWatch.Time.Span
import LogWatch.Timestamp.Syslog

/-!
# Batches

Matched lines are grouped into incidents. A **batch** holds consecutive lines whose timestamps lie
within five seconds of its **anchor**, the first timestamp in it; a line without a timestamp stays
with the lines before it. A batch holds at most a thousand lines, and lines that would make it
longer than 256 KiB go into the next one.

The **batcher** holds the open batch. A line that does not belong there closes it and opens
the next; a flush closes it whatever it holds; and a batch whose last line is old enough is stale.
-/

namespace LogWatch

namespace Batch

/-- A batch has at most so many lines. -/
def maxLines : Nat := 1000

/-- Lines that make a batch longer than this, with a line feed between any two, go into the next. -/
def maxBytes : Nat := 256 * 1024

/-- Two timestamps this many seconds apart still belong together. -/
def groupingWindow : Float := 5.0

/-- A batch is flushed this long after its last line. -/
def flushInterval : Span := Span.ofSeconds 5

/-- A flush may come this much early. -/
def stalenessMargin : Span := Span.ofMillis 100

end Batch

/-- What is taken from the first line of a batch, once. -/
structure LineMetadata where
  /-- The syslog priority of the line. -/
  priority : Option Syslog.Priority
  /-- The fields that the detector found in the line. -/
  context : Option Json.Members
  /-- The line as it was read. -/
  rawLine : String

instance : Inhabited LineMetadata := ⟨none, none, ""⟩

/-- Lines grouped into one incident; at least one. -/
structure Batch where
  /-- The lines, last first. -/
  reversed : List Bytes
  /-- The number of lines. -/
  lineCount : Nat
  /-- The number of octets of the body. -/
  byteCount : Nat
  /-- The timestamp of the first line that has one. -/
  anchor : Option LineTimestamp
  /-- What was taken from the first line. -/
  metadata : LineMetadata

namespace Batch

/-- The batch of one line. -/
def ofLine (line : Bytes) (timestamp : Option LineTimestamp) (metadata : LineMetadata) : Batch :=
  ⟨[line], 1, line.length, timestamp, metadata⟩

/-- The lines, in the order of their arrival. -/
def lines (b : Batch) : List Bytes := b.reversed.reverse

/-- The lines joined by line feeds. -/
def body (b : Batch) : Bytes := List.intercalate [10] b.lines

/-- The body as text. -/
def message (b : Batch) : String := Utf8.decodeLossy b.body

/-- A timestamp lies within the window around the anchor. -/
def withinWindow (anchor : LineTimestamp) (timestamp : LineTimestamp) : Bool :=
  (timestamp.epoch - anchor.epoch).abs ≤ groupingWindow

/-- A line of that length and timestamp belongs into the batch. -/
def admits (b : Batch) (length : Nat) (timestamp : Option LineTimestamp) : Bool :=
  b.lineCount + 1 ≤ maxLines && b.byteCount + 1 + length ≤ maxBytes
    && match timestamp, b.anchor with
      | some t, some anchor => withinWindow anchor t
      | _, _ => true

/-- The batch with one more line. -/
def append (b : Batch) (line : Bytes) (timestamp : Option LineTimestamp) : Batch :=
  { b with
    reversed := line :: b.reversed
    lineCount := b.lineCount + 1
    byteCount := b.byteCount + 1 + line.length
    anchor := match b.anchor with
      | some anchor => some anchor
      | none => timestamp }

end Batch

/-- The open batch, and when the last line came. -/
structure Batcher where
  /-- The open batch. -/
  current : Option Batch
  /-- When the last line came, or the batcher was made. -/
  lastActivity : Moment

namespace Batcher

/-- A batcher without an open batch. -/
def new (now : Moment) : Batcher := ⟨none, now⟩

/-- A batch is open. -/
def isOpen (b : Batcher) : Bool := b.current.isSome

/-- The number of lines in the open batch. -/
def lineCount (b : Batcher) : Nat := (b.current.map Batch.lineCount).getD 0

/-- The open batch takes the line. -/
def admits (b : Batcher) (length : Nat) (timestamp : Option LineTimestamp) : Bool :=
  b.current.any fun batch => batch.admits length timestamp

/-- Takes a line that came at `now`. Gives the batch that the line closes, if it does; the metadata
is asked for only when the line opens a batch. -/
def pushM {m : Type → Type} [Monad m] (b : Batcher) (line : Bytes)
    (timestamp : Option LineTimestamp) (metadata : m LineMetadata) (now : Moment) :
    m (Batcher × Option Batch) :=
  match b.current with
  | none => do return (⟨some (Batch.ofLine line timestamp (← metadata)), now⟩, none)
  | some batch =>
    if batch.admits line.length timestamp then
      return (⟨some (batch.append line timestamp), now⟩, none)
    else do return (⟨some (Batch.ofLine line timestamp (← metadata)), now⟩, some batch)

/-- Takes a line whose metadata are worked out when they are asked for. -/
def push (b : Batcher) (line : Bytes) (timestamp : Option LineTimestamp)
    (metadata : Unit → LineMetadata) (now : Moment) : Batcher × Option Batch :=
  b.pushM (m := ReaderM Unit) line timestamp metadata now ()

section Push

variable {b : Batcher} {batch : Batch} {line : Bytes} {timestamp : Option LineTimestamp}
  {metadata : Unit → LineMetadata} {now : Moment}

theorem push_of_none (h : b.current = none) :
    b.push line timestamp metadata now =
      (⟨some (Batch.ofLine line timestamp (metadata ())), now⟩, none) := by
  simp only [push, pushM, h]
  rfl

theorem push_of_admits (h : b.current = some batch)
    (ha : batch.admits line.length timestamp = true) :
    b.push line timestamp metadata now = (⟨some (batch.append line timestamp), now⟩, none) := by
  simp only [push, pushM, h, ha, if_true]
  rfl

theorem push_of_not_admits (h : b.current = some batch)
    (ha : ¬batch.admits line.length timestamp = true) :
    b.push line timestamp metadata now =
      (⟨some (Batch.ofLine line timestamp (metadata ())), now⟩, some batch) := by
  simp only [push, pushM, h, if_neg ha]
  rfl

/-- A push closes a batch only if it is the open one and does not admit the line. -/
theorem push_eq_some (h : (b.push line timestamp metadata now).2 = some batch) :
    b.current = some batch ∧ batch.admits line.length timestamp = false := by
  cases hb : b.current with
  | none => simp [push_of_none hb] at h
  | some current =>
    by_cases ha : current.admits line.length timestamp = true
    · simp [push_of_admits hb ha] at h
    · rw [push_of_not_admits hb ha] at h
      obtain rfl := Option.some.inj h
      exact ⟨rfl, Bool.eq_false_iff.mpr ha⟩

end Push

/-- Closes the open batch. -/
def take (b : Batcher) : Batcher × Option Batch := (⟨none, b.lastActivity⟩, b.current)

/-- The last line came long enough before `now`. -/
def isStale (b : Batcher) (now : Moment) : Bool :=
  Batch.flushInterval - Batch.stalenessMargin ≤ now - b.lastActivity

/-- Closes the open batch if it is stale. -/
def takeIfStale (b : Batcher) (now : Moment) : Batcher × Option Batch :=
  if b.isStale now then b.take else (b, none)

/-- When the open batch is to be flushed. -/
def flushDeadline (b : Batcher) : Option Moment :=
  b.current.map fun _ => b.lastActivity + Batch.flushInterval

end Batcher

end LogWatch
