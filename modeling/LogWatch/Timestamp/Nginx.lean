import LogWatch.Timestamp.Basic

/-!
# Timestamps of nginx logs

The error log starts a line with `YYYY/MM/DD hh:mm:ss`, in UTC. The access log has
`[DD/Mon/YYYY:hh:mm:ss +hhmm]` anywhere in the line; the brackets do not belong to the timestamp,
and the first place that has the form counts.
-/

namespace LogWatch

namespace Nginx

/-- The timestamp of an error log line. -/
def errorTimestamp? (line : Bytes) : Option LineTimestamp := do
  let (year, s) ← Field.number? 4 line
  let s ← Field.octet? 47 s
  let (month, s) ← Field.number? 2 s
  let s ← Field.octet? 47 s
  let (day, s) ← Field.number? 2 s
  let s ← Field.octet? 32 s
  let (hour, s) ← Field.number? 2 s
  let s ← Field.octet? 58 s
  let (minute, s) ← Field.number? 2 s
  let s ← Field.octet? 58 s
  let (second, _) ← Field.number? 2 s
  let seconds ← (Written.mk year month day hour minute second).seconds?
  pure ⟨Epoch.ofParts seconds 0, line.take 19⟩

/-- So many octets stand between the brackets. -/
def accessLength : Nat := 26

/-- The timestamp of an access log line whose opening bracket has just been passed. -/
def bracketed? (inner : Bytes) : Option LineTimestamp := do
  let (day, s) ← Field.number? 2 inner
  let s ← Field.octet? 47 s
  let (month, s) ← Field.month? s
  let s ← Field.octet? 47 s
  let (year, s) ← Field.number? 4 s
  let s ← Field.octet? 58 s
  let (hour, s) ← Field.number? 2 s
  let s ← Field.octet? 58 s
  let (minute, s) ← Field.number? 2 s
  let s ← Field.octet? 58 s
  let (second, s) ← Field.number? 2 s
  let s ← Field.octet? 32 s
  let (sign, s) ← Field.oneOf? 43 45 s
  let (zoneHours, s) ← Field.number? 2 s
  let (zoneMinutes, s) ← Field.number? 2 s
  let _ ← Field.octet? 93 s
  let seconds ← (Written.mk year month day hour minute second).seconds?
  let offset : Int := zoneHours * 3600 + zoneMinutes * 60
  let offset := if sign == 45 then -offset else offset
  pure ⟨Epoch.ofParts seconds 0 - Binary64.ofInt offset, inner.take accessLength⟩

/-- The timestamp of an access log line. -/
def accessTimestamp? : Bytes → Option LineTimestamp
  | [] => none
  | b :: s =>
    match if b == 91 then bracketed? s else none with
    | some t => some t
    | none => accessTimestamp? s

end Nginx

end LogWatch
