import LogWatch.Text.Blank
import LogWatch.Text.Utf8
import LogWatch.Time.Span
import LogWatch.Timestamp.Kernel

/-!
# Trails of kernel messages

After a kernel message that is of interest, others belong to the same event though they do not say
so themselves. The **trail** is what is remembered of the last message of interest: its timestamp,
its header, which is the name before the first colon, and when it was seen.

A later message is on the trail when its timestamp is at most `KernelTrail.window` later and one of
the two headers begins with the other. A line without a timestamp is on the trail for as long after
it was seen.
-/

namespace LogWatch

/-- What is remembered of the last message of interest. -/
structure KernelTrail where
  /-- Its timestamp, in seconds since boot. -/
  epoch : Float
  /-- Its header. -/
  header : String
  /-- When it was seen. -/
  seenAt : Moment

namespace KernelTrail

/-- Later messages may belong to an event for so many seconds. -/
def window : Nat := 5

/-- The name before the first colon, without blanks around it. -/
def header? (body : Bytes) : Option String := do
  let (front, _) ← Bytes.splitAtFirst? 58 body
  let header := Blank.trim (← Utf8.decode? front)
  if header.isEmpty then none else return header

/-- One of the headers begins with the other. -/
def related (a b : String) : Bool :=
  a.toList.isPrefixOf b.toList || b.toList.isPrefixOf a.toList

/-- The trail that a message of interest leaves, if it has a timestamp and a header. -/
def ofLine? (now : Moment) (line : Bytes) : Option KernelTrail := do
  let (t, body) ← Kernel.front? line
  return ⟨t.epoch, ← header? body, now⟩

/-- The line is on the trail. -/
def covers (trail : KernelTrail) (now : Moment) (line : Bytes) : Bool :=
  match Kernel.front? line with
  | none => decide (now - trail.seenAt ≤ Span.ofSeconds window)
  | some (t, body) =>
    let later := t.epoch - trail.epoch
    decide (0.0 ≤ later) && decide (later ≤ Float.ofNat window)
      && (header? body).any fun header => related header trail.header

/-- A kernel message without its timestamp and the spaces after it. -/
def message (line : Bytes) : Bytes :=
  match Kernel.front? line with
  | some (_, body) => body.dropWhile (· == 32)
  | none => line

end KernelTrail

end LogWatch
