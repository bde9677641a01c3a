import LogWatch.Timestamp.Iso

/-!
# Syslog priorities and timestamps

A syslog line may start with its **priority** in angle brackets: a number up to 191 of at most three
digits, eight times the facility plus the severity. After it stands `Mon dd hh:mm:ss`, or `1 ` and
an ISO timestamp.

The short form has no year. It is taken in the current year, and if that lies more than 30 days in
the future, in the year before.
-/

namespace LogWatch

namespace Syslog

/-- The priority of a syslog line. -/
structure Priority where
  /-- The number in angle brackets. -/
  value : Nat
  deriving DecidableEq

/-- The facility. -/
def Priority.facility (p : Priority) : Nat := p.value / 8

/-- The severity, 0 being the most severe. -/
def Priority.severity (p : Priority) : Nat := p.value % 8

/-- The greatest priority. -/
def maxPriority : Nat := 191

/-- The priority at the front of a line, and the octets after it. -/
def frontPriority? (line : Bytes) : Option (Priority × Bytes) := do
  let s ← Field.octet? 60 line
  let (digits, _) ← Bytes.splitAtFirst? 62 (s.take 4)
  if digits.isEmpty then none
  else
    let (value, rest) ← Field.number? digits.length s
    if value ≤ maxPriority then pure (⟨value⟩, rest.drop 1) else none

/-- The priority of a line. -/
def priority? (line : Bytes) : Option Priority := (frontPriority? line).map (·.1)

/-- A stamp without a year that lies further ahead than this is of the year before. -/
def futureToleranceDays : Nat := 30

/-- So many octets make the short form. -/
def stampLength : Nat := 15

/-- The month, day and time of the short form at the front, in a given year. -/
def stamp? (s : Bytes) : Option (Int → Written) := do
  let (month, s) ← Field.month? s
  let s ← Field.octet? 32 s
  let (day, s) ← match s with
    | 32 :: rest => Field.number? 1 rest
    | _ => Field.number? 2 s
  let s ← Field.octet? 32 s
  let (hour, s) ← Field.number? 2 s
  let s ← Field.octet? 58 s
  let (minute, s) ← Field.number? 2 s
  let s ← Field.octet? 58 s
  let (second, _) ← Field.number? 2 s
  pure fun year => ⟨year, month, day, hour, minute, second⟩

/-- The instant lies further ahead of `now` than is tolerated. -/
def isFuture (now : WallTime) (seconds : Int) : Bool :=
  now.seconds + futureToleranceDays * 86400 < seconds

/-- The seconds of a stamp without a year, as seen from `now`. -/
def inferredSeconds? (now : WallTime) (stamp : Int → Written) : Option Int := do
  let seconds ← (stamp now.year).seconds?
  if isFuture now seconds then (stamp (now.year - 1)).seconds? else pure seconds

/-- The line after its priority, if it starts with an angle bracket. -/
def body? (line : Bytes) : Option Bytes :=
  match line with
  | 60 :: _ => (frontPriority? line).map (·.2)
  | _ => some line

/-- The timestamp of a syslog line, as seen from `now`. -/
def timestamp? (now : WallTime) (line : Bytes) : Option LineTimestamp := do
  let body ← body? line
  match body with
  | 49 :: 32 :: rest => Iso.timestamp? rest
  | _ =>
    let stamp ← stamp? body
    let seconds ← inferredSeconds? now stamp
    pure ⟨Epoch.ofParts seconds 0, body.take stampLength⟩

end Syslog

end LogWatch
