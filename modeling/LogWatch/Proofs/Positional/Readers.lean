import LogWatch.Proofs.Positional.Execution
import LogWatch.Text.Utf8
import LogWatch.Timestamp.DateTime
import LogWatch.Timestamp.Extract

/-!
# Timestamps by position

The timestamps of log lines once more, read by position. Each form checks the octets that stand at
fixed places of the line, then reads the numbers between them. Where a part has no fixed length, the
position after it is counted: after a bracket, after the digits of a fraction, after a zone, after a
priority. A text that has been found must be readable, and an instant must be one of the calendar.
-/

namespace LogWatch

namespace Positional

open Exec (word signed minus octetAt piece? piece position runEnd)

variable (m : Machine)

/-! ### Parts of fixed width -/

/-- A number with a digit put behind it. -/
def pushDigit (n : Nat) (b : UInt8) : Exec Nat := do
  let tens ← word 32 (n * 10)
  let digit ← minus b.toNat 48
  word 32 (tens + digit)

/-- A number with a digit put behind it, if it is a digit. -/
def pushIfDigit (n : Nat) (b : UInt8) : Search Nat := do
  guard (Octet.isDigit b)
  pushDigit n b

/-- The number that stands in so many octets from a position on. -/
def number (line : Bytes) (start width : Nat) : Search Nat := do
  let stop ← position m (start + width)
  let digits ← Search.of (piece? line start stop)
  digits.foldlM pushIfDigit 0

/-- The octet at a position, if it has a property. -/
def expect (line : Bytes) (i : Nat) (p : UInt8 → Bool) : Search UInt8 := do
  let b ← octetAt line i
  guard (p b)
  pure b

/-- The month of that name. -/
def month (line : Bytes) (start : Nat) : Search Nat := do
  let name ← piece line start (start + 3)
  let i ← Search.of (Field.monthNames.findIdx? fun month => Bytes.ofString month == name)
  pure (i + 1)

/-- The octets, if they are readable. -/
def readable (text : Bytes) : Search Bytes := do
  guard (Utf8.isValid text)
  pure text

/-! ### Instants -/

/-- The last second that the calendar has. -/
def lastSecond : Int := Civil.secondsOf DateTime.yearRange.2 12 31 23 59 59

/-- The second so many seconds later, if the calendar has it. -/
def later? (seconds more : Int) : Option Int :=
  if seconds + more ≤ lastSecond then some (seconds + more) else none

/-- The second so many seconds later. -/
def later (seconds more : Int) : Exec Int :=
  match later? seconds more with
  | some t => pure t
  | none => Exec.breaks .overflow

/-- The date is one of the calendar. -/
def hasDate (w : Written) : Bool :=
  DateTime.yearRange.1 ≤ w.year && w.year ≤ DateTime.yearRange.2 &&
    Civil.isDate w.year w.month w.day

/-- The seconds since 1970 of a date and a time of day. The second 60 is the one after the second
59. -/
def instant (w : Written) (nanos : Nat) : Search Int := do
  guard (1 ≤ w.day ∧ w.day ≤ 31 ∧ w.hour ≤ 23 ∧ w.minute ≤ 59 ∧ w.second ≤ 60)
  guard (hasDate w)
  guard (nanos < 1000000000 ∨ min w.second 59 = 59 ∧ nanos < 2000000000)
  let base := Civil.secondsOf w.year w.month w.day w.hour w.minute (min w.second 59)
  if w.second = 60 then Search.of (later? base 1) else pure base

/-- Hours and minutes in seconds. -/
def offset (hours minutes : Nat) : Exec Int := do
  let ofHours ← signed 64 (hours * 3600)
  let ofMinutes ← signed 64 (minutes * 60)
  signed 64 (ofHours + ofMinutes)

/-- The offset in the direction of a sign. -/
def directed (sign : UInt8) (offset : Int) : Exec Int :=
  if sign = 45 then signed 64 (-offset) else pure offset

/-! ### Priorities -/

/-- The priority at the front of a line, and the position after it. -/
def frontPriority (line : Bytes) : Search (Nat × Nat) := do
  guard (line.head? = some 60)
  let close ← Search.of ((line.take 5).findIdx? (· == 62))
  let width ← minus close 1
  guard (1 ≤ width ∧ width ≤ 3)
  let value ← number m line 1 width
  guard (value < 2 ^ 16)
  guard (value ≤ Syslog.maxPriority)
  let rest ← position m (close + 1)
  pure (value, rest)

/-- The priority of a line. -/
def priority (line : Bytes) : Search Syslog.Priority := do
  let (value, _) ← frontPriority m line
  guard (value < 2 ^ 8)
  pure ⟨value⟩

/-! ### Kernel timestamps -/

/-- The seconds since boot, their text, and the position after the closing bracket. -/
def kernelFront (line : Bytes) : Search (Float × Bytes × Nat) := do
  guard (line.head? = some 91)
  let window ← piece line 0 (min line.length Kernel.bracketLimit)
  let close ← Search.of (window.findIdx? (· == 93))
  let inner ← piece line 1 close
  let start ← Search.of (inner.findIdx? (· != 32))
  let inner ← piece inner start inner.length
  guard (inner.all fun b => Octet.isDigit b || b == 46)
  guard (inner.any Octet.isDigit)
  let text ← readable inner
  let epoch ← Search.of (Plain.read? text)
  let rest ← position m (close + 1)
  pure (epoch, text, rest)

/-- The kernel timestamp of a line. -/
def kernelTimestamp (line : Bytes) : Search LineTimestamp := do
  let (epoch, text, _) ← kernelFront m line
  pure ⟨epoch, text⟩

/-! ### ISO timestamps and those of the nginx error log -/

/-- The date and the time at the front of a line, whose date has a mark between its numbers, and
after it an octet that separates it from the time. -/
def dateTime (mark : UInt8) (isSeparator : UInt8 → Bool) (line : Bytes) : Search Written := do
  guard (19 ≤ line.length)
  let _ ← expect line 4 (· == mark)
  let _ ← expect line 7 (· == mark)
  let _ ← expect line 10 isSeparator
  let _ ← expect line 13 (· == 58)
  let _ ← expect line 16 (· == 58)
  let year ← number m line 0 4
  let month ← number m line 5 2
  let day ← number m line 8 2
  let hour ← number m line 11 2
  let minute ← number m line 14 2
  let second ← number m line 17 2
  let year ← signed 32 year
  pure ⟨year, month, day, hour, minute, second⟩

/-- The nanoseconds of which these are the digits after the point. -/
def nanoseconds (digits : Bytes) : Exec Nat :=
  (List.range 9).foldlM (fun nanos i => pushDigit nanos (digits[i]?.getD 48)) 0

/-- The nanoseconds after the time, and the position after them. -/
def fraction (s : Bytes) : Search (Nat × Nat) := do
  if s[19]? = some 46 then
    let start ← position m (19 + 1)
    let stop ← runEnd m Octet.isDigit s start
    guard (stop ≠ start)
    let digits ← piece s start stop
    let nanos ← nanoseconds digits
    pure (nanos, stop)
  else pure (0, 19)

/-- The minutes of a zone after its hours, and how many octets both take. -/
def zoneMinutes (s : Bytes) : Search (Nat × Nat) :=
  if s[2]? = some 58 then do
    let minutes ← number m s 3 2
    pure (minutes, 5)
  else
    (do
      let minutes ← number m s 2 2
      pure (minutes, 4)) <|> pure (0, 2)

/-- The offset of a zone after its sign, and how many octets it takes. -/
def zoneOffset (s : Bytes) : Search (Int × Nat) := do
  let hours ← number m s 0 2
  let (minutes, width) ← zoneMinutes m s
  guard (hours ≤ 23 ∧ minutes ≤ 59)
  let offset ← offset hours minutes
  pure (offset, width)

/-- The offset after a sign, and the position after the zone. -/
def signedZone (line : Bytes) (sign : UInt8) (stop : Nat) : Exec (Int × Nat) := do
  let start ← position m (stop + 1)
  let rest ← piece line start line.length
  match ← (zoneOffset m rest).run with
  | some (offset, width) =>
    let offset ← directed sign offset
    let more ← position m (1 + width)
    let stop ← position m (stop + more)
    pure (offset, stop)
  | none => pure (0, stop)

/-- The offset of the zone that may stand at a position, and the position after it. -/
def zone (s : Bytes) (stop : Nat) : Exec (Int × Nat) :=
  match s[stop]? with
  | some 90 => do
    let stop ← position m (stop + 1)
    pure (0, stop)
  | some sign => if sign = 43 ∨ sign = 45 then signedZone m s sign stop else pure (0, stop)
  | none => pure (0, stop)

/-- The ISO timestamp at the front of a line. -/
def isoTimestamp (line : Bytes) : Search LineTimestamp := do
  let written ← dateTime m 45 (fun b => b == 84 || b == 32) line
  let (nanos, stop) ← fraction m line
  let (offset, stop) ← zone m line stop
  let seconds ← instant written nanos
  let text ← piece line 0 stop
  let text ← readable text
  pure ⟨Epoch.ofParts seconds nanos - Binary64.ofInt offset, text⟩

/-- The timestamp of an error log line. -/
def errorTimestamp (line : Bytes) : Search LineTimestamp := do
  let written ← dateTime m 47 (· == 32) line
  let seconds ← instant written 0
  let text ← piece line 0 19
  let text ← readable text
  pure ⟨Epoch.ofParts seconds 0, text⟩

/-! ### Timestamps of the nginx access log -/

/-- What is written in brackets: the date, the time and the offset of the zone. -/
def bracketed (s : Bytes) : Search LineTimestamp := do
  let _ ← expect s 2 (· == 47)
  let _ ← expect s 6 (· == 47)
  let _ ← expect s 11 (· == 58)
  let _ ← expect s 14 (· == 58)
  let _ ← expect s 17 (· == 58)
  let _ ← expect s 20 (· == 32)
  let sign ← expect s 21 fun b => b == 43 || b == 45
  let day ← number m s 0 2
  let month ← month s 3
  let year ← number m s 7 4
  let hour ← number m s 12 2
  let minute ← number m s 15 2
  let second ← number m s 18 2
  let zoneHours ← number m s 22 2
  let zoneMinutes ← number m s 24 2
  let year ← signed 32 year
  let seconds ← instant ⟨year, month, day, hour, minute, second⟩ 0
  let offset ← offset zoneHours zoneMinutes
  let offset ← directed sign offset
  let text ← readable s
  pure ⟨Epoch.ofParts seconds 0 - Binary64.ofInt offset, text⟩

/-- The timestamp whose opening bracket stands at a position. -/
def accessAt (s : Bytes) (opening : Nat) : Search LineTimestamp := do
  let start ← position m (opening + 1)
  let close ← position m (start + Nginx.accessLength)
  guard (s[close]? = some 93)
  let inner ← piece s start close
  bracketed m inner

/-- Tries the next opening bracket from a position on. -/
def accessRound (line : Bytes) : Exec.Round Nat (Option LineTimestamp) := fun start => do
  let rest ← piece line start line.length
  match rest.findIdx? (· == 91) with
  | none => pure (.inr none)
  | some ahead =>
    let opening ← position m (start + ahead)
    match ← (accessAt m line opening).run with
    | some t => pure (.inr (some t))
    | none =>
      let next ← position m (opening + 1)
      pure (.inl next)

/-- The timestamp of an access log line. -/
def accessTimestamp (line : Bytes) : Search LineTimestamp :=
  OptionT.mk ((accessRound m line).loop 0)

/-! ### Syslog timestamps -/

/-- The line after its priority, if it starts with an angle bracket. -/
def body (line : Bytes) : Search Bytes := do
  if line.head? = some 60 then
    let (_, start) ← frontPriority m line
    piece line start line.length
  else pure line

/-- The day of the month, with a space in place of its first digit if that is missing. -/
def day (s : Bytes) : Search Nat := do
  let first ← octetAt s 4
  if first = 32 then number m s 5 1 else number m s 4 2

/-- The month, day and time of the short form at the front, in a given year. -/
def stamp (s : Bytes) : Search (Int → Written) := do
  guard (Syslog.stampLength ≤ s.length)
  let _ ← expect s 3 (· == 32)
  let _ ← expect s 6 (· == 32)
  let _ ← expect s 9 (· == 58)
  let _ ← expect s 12 (· == 58)
  let month ← month s 0
  let day ← day m s
  let hour ← number m s 7 2
  let minute ← number m s 10 2
  let second ← number m s 13 2
  pure fun year => ⟨year, month, day, hour, minute, second⟩

/-- The seconds of a stamp without a year, as seen from `now`. -/
def inferred (now : WallTime) (stamp : Int → Written) : Search Int := do
  let seconds ← instant (stamp now.year) 0
  let latest ← later now.seconds (Syslog.futureToleranceDays * 86400)
  -- a stamp has no nanoseconds, so those of `now` do not matter
  if latest < seconds then
    let year ← signed 32 (now.year - 1)
    instant (stamp year) 0
  else pure seconds

/-- The timestamp of a syslog line, as seen from `now`. -/
def syslogTimestamp (now : WallTime) (line : Bytes) : Search LineTimestamp := do
  let body ← body m line
  if body.take 2 = [49, 32] then
    let rest ← piece body 2 body.length
    isoTimestamp m rest
  else
    let stamp ← stamp m body
    let seconds ← inferred now stamp
    let text ← piece body 0 Syslog.stampLength
    let text ← readable text
    pure ⟨Epoch.ofParts seconds 0, text⟩

/-! ### The timestamp of any line -/

/-- The timestamp at the front of a line, by its first octet. -/
def frontTimestamp (now : WallTime) (first : UInt8) (line : Bytes) : Search LineTimestamp :=
  if first = 91 then kernelTimestamp m line
  else if Octet.isDigit first then isoTimestamp m line <|> errorTimestamp m line
  else if first = 60 ∨ 65 ≤ first ∧ first ≤ 90 then syslogTimestamp m now line
  else failure

/-- The timestamp of a line, as seen from `now`. -/
def timestamp (now : WallTime) (line : Bytes) : Search LineTimestamp := do
  let first ← Search.of line.head?
  frontTimestamp m now first line <|> accessTimestamp m line

end Positional

end LogWatch
