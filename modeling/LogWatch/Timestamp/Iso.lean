import LogWatch.Timestamp.Basic

/-!
# ISO 8601 timestamps

The form is `YYYY-MM-DD`, a `T` or a space, `hh:mm:ss`, then maybe a point with digits, then maybe a
zone: `Z`, `+hh:mm`, `+hhmm` or `+hh`. Without a zone the time is in UTC. A sign that no zone
follows is not part of the timestamp.
-/

namespace LogWatch

namespace Iso

/-- The date and time at the front, and the octets after them. -/
def dateTime? (s : Bytes) : Option (Written × Bytes) := do
  let (year, s) ← Field.number? 4 s
  let s ← Field.octet? 45 s
  let (month, s) ← Field.number? 2 s
  let s ← Field.octet? 45 s
  let (day, s) ← Field.number? 2 s
  let (_, s) ← Field.oneOf? 84 32 s
  let (hour, s) ← Field.number? 2 s
  let s ← Field.octet? 58 s
  let (minute, s) ← Field.number? 2 s
  let s ← Field.octet? 58 s
  let (second, s) ← Field.number? 2 s
  pure (⟨year, month, day, hour, minute, second⟩, s)

/-- The nanoseconds that digits after the point spell, from the ninth on without effect. -/
def nanosOf (digits : Bytes) : Nat :=
  Bytes.decimalValue (digits.take 9) * Nat.pow 10 (9 - (digits.take 9).length)

/-- The nanoseconds after the seconds and the octets after them; a point needs a digit. -/
def fraction? : Bytes → Option (Nat × Bytes)
  | 46 :: s =>
    let digits := s.takeWhile Octet.isDigit
    if digits.isEmpty then none else some (nanosOf digits, s.dropWhile Octet.isDigit)
  | s => some (0, s)

/-- The minutes of a zone offset that follow its hours. -/
def zoneMinutes? (s : Bytes) : Option (Nat × Bytes) :=
  match s with
  | 58 :: rest => Field.number? 2 rest
  | _ =>
    match Field.number? 2 s with
    | some found => some found
    | none => some (0, s)

/-- The seconds of a zone offset after its sign. -/
def zoneOffset? (s : Bytes) : Option (Int × Bytes) := do
  let (hours, s) ← Field.number? 2 s
  let (minutes, s) ← zoneMinutes? s
  if hours ≤ 23 ∧ minutes ≤ 59 then pure ((hours * 3600 + minutes * 60 : Nat), s) else none

/-- The offset of the zone in seconds, and the octets after it. -/
def zone (s : Bytes) : Int × Bytes :=
  match s with
  | 90 :: rest => (0, rest)
  | 43 :: rest => (zoneOffset? rest).getD (0, s)
  | 45 :: rest => ((zoneOffset? rest).map fun (offset, rest) => (-offset, rest)).getD (0, s)
  | _ => (0, s)

/-- The ISO timestamp at the front of a line. -/
def timestamp? (line : Bytes) : Option LineTimestamp := do
  let (written, rest) ← dateTime? line
  let (nanos, rest) ← fraction? rest
  let (offset, rest) := zone rest
  let seconds ← written.seconds?
  pure ⟨Epoch.ofParts seconds nanos - Binary64.ofInt offset, line.take (line.length - rest.length)⟩

end Iso

end LogWatch
