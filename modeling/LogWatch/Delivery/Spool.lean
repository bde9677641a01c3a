import LogWatch.Fault
import LogWatch.Report.Reader
import LogWatch.Text.Blank
import LogWatch.Text.Lines

/-!
# The spool

Reports whose delivery failed are kept in a file, one to a line, until they can be delivered. A
**pass** over the spool sends each of them once: it works on a snapshot of the file, so that reports
may be added while it waits for the receiver, and at its end it writes the file anew with the lines
that failed again, followed by what was added to the file in the meantime.

The **depth** is the number of lines that wait; it is kept along with the file and published.
-/

namespace LogWatch

namespace Spool

/-- The name of the file in the data directory. -/
def fileName : String := "spool.jsonl"

/-- The outcome of a pass. -/
structure Summary where
  /-- The reports that were delivered. -/
  sent : Nat := 0
  /-- The reports that failed again. -/
  kept : Nat := 0
  /-- The lines that were not reports, and are gone. -/
  discarded : Nat := 0
  deriving DecidableEq

/-- A pass under way. -/
structure Pass where
  /-- What the file held when the pass began. -/
  snapshot : Bytes
  /-- The lines that have not been looked at. -/
  remaining : List Bytes
  /-- The report on its way to the receiver, with its line. -/
  sending : Option (Bytes × Report)
  /-- The lines that failed again, the last one first. -/
  kept : List Bytes
  /-- The outcome so far. -/
  summary : Summary

/-- The line says something. -/
def isEntry (line : Bytes) : Bool := !Blank.isEmpty (Utf8.decodeLossy line)

/-- The lines of a file that say something. -/
def entries (file : Bytes) : List Bytes := (Lines.ofBytes file).filter isEntry

/-- The line of a report in the file, with its line feed. -/
def lineOf (r : Report) : Bytes := Bytes.ofString r.jsonLine

/-- A failure to read the file. -/
def unreadable : DeliveryFault := .io Fault.systemReason

/-- The octets of the file, which must be text; none if there is no file. -/
def content (file : Option Bytes) : Except DeliveryFault Bytes :=
  match file with
  | none => .ok []
  | some bytes => if Utf8.isValid bytes then .ok bytes else .error unreadable

end Spool

/-- A spool. -/
structure Spool where
  /-- The file, if there is one. -/
  file : Option Bytes
  /-- The number of reports that wait. -/
  depth : Nat
  /-- The depth as it was last published. -/
  published : Nat
  /-- The pass under way. -/
  pass : Option Spool.Pass

namespace Spool

/-- The spool on a file that was there before. -/
def openOn (file : Option Bytes) : Except DeliveryFault Spool := do
  let depth := (entries (← content file)).length
  return ⟨file, depth, depth, none⟩

/-- The spool with another depth, which is published. -/
def withDepth (s : Spool) (depth : Nat) : Spool := { s with depth, published := depth }

/-- Adds a report to the end of the file. -/
def enqueue (s : Spool) (r : Report) : Spool :=
  { s with file := some (s.file.getD [] ++ lineOf r) }.withDepth (s.depth + 1)

/-- Begins a pass, for which there must not be another one under way. -/
def begin (s : Spool) : Except DeliveryFault Spool := do
  let snapshot ← content s.file
  return { s with pass := some ⟨snapshot, entries snapshot, none, [], {}⟩ }

/-- The pass takes the next line: a report is sent, anything else is discarded. -/
def Pass.takeNext (p : Pass) : Pass :=
  match p.remaining with
  | [] => p
  | line :: rest =>
    match Report.read? line with
    | some r => { p with remaining := rest, sending := some (line, r) }
    | none =>
      { p with
        remaining := rest
        summary := { p.summary with discarded := p.summary.discarded + 1 } }

/-- The pass learns whether the receiver has taken the report. -/
def Pass.conclude (p : Pass) (ok : Bool) : Pass :=
  match p.sending with
  | none => p
  | some (line, _) =>
    if ok then
      { p with sending := none, summary := { p.summary with sent := p.summary.sent + 1 } }
    else
      { p with
        sending := none
        kept := line :: p.kept
        summary := { p.summary with kept := p.summary.kept + 1 } }

/-- All lines have been looked at. -/
def Pass.isDone (p : Pass) : Bool := p.remaining.isEmpty && p.sending.isNone

/-- The octet may begin a character. -/
def beginsCharacter : Bytes → Bool
  | [] => true
  | b :: _ => !Utf8.isTail b

/-- What the file has gained since a snapshot of that length; nothing if it is no longer the same
file. -/
def gained (length : Nat) (current : Bytes) : Bytes :=
  if current.length < length then []
  else if beginsCharacter (current.drop length) then current.drop length
  else []

/-- The lines that a pass keeps, as they stand in the file. -/
def Pass.keptText (p : Pass) : Bytes := p.kept.reverse.flatMap fun line => line ++ [10]

/-- Ends a pass: the file is written anew, unless it was empty when the pass began. The file is left
alone if it can no longer be read. -/
def finish (s : Spool) (p : Pass) : Except DeliveryFault Summary × Spool :=
  let s := { s with pass := none }
  if p.snapshot.isEmpty then (.ok {}, s)
  else
    match content s.file with
    | .error e => (.error e, s)
    | .ok current =>
      let added := gained p.snapshot.length current
      (.ok p.summary,
        { s with file := some (p.keptText ++ added) }.withDepth
          (p.summary.kept + (entries added).length))

/-- What a pass does without waiting for anyone: it ends, or it takes the next line. -/
def advance (s : Spool) : Spool :=
  match s.pass with
  | none => s
  | some p =>
    if p.isDone then (s.finish p).2
    else if p.sending.isSome then s
    else { s with pass := some p.takeNext }

/-- The pass under way learns whether the receiver has taken the report. -/
def answer (s : Spool) (ok : Bool) : Spool :=
  { s with pass := s.pass.map fun p => p.conclude ok }

/-- The report that the pass under way has sent and waits to hear of. -/
def sending? (s : Spool) : Option Report := s.pass.bind fun p => p.sending.map (·.2)

end Spool

end LogWatch
