import LogWatch.Detector.Basic

/-!
# Asking a detector about lines

Up to four **questions** are asked about a line: whether it is of interest, and then for its
context, its message and its timestamp. A detector is asked many of them, about one line after the
other, and two detectors keep something in between.

The detector of kernel messages keeps its trail, on which its verdicts depend. The detector of JSON
objects keeps the last line that it has read, with its members, so that it need not read it again
for the next question; no reply depends on that.
-/

namespace LogWatch

namespace Detector

/-- What is asked about a line. -/
inductive Question
  /-- Whether it is of interest. -/
  | verdict
  /-- For the fields in it. -/
  | context
  /-- For the message in it. -/
  | message
  /-- For its timestamp. -/
  | timestamp
  deriving DecidableEq

/-- A question about a line, asked at some time. -/
structure Inquiry where
  /-- What is asked. -/
  question : Question
  /-- The line. -/
  line : Bytes
  /-- When it is asked, by the monotonic clock. -/
  now : Moment
  /-- When it is asked, by the wall clock. -/
  wall : WallTime

/-- What is replied. -/
inductive Reply
  /-- The line is of interest, or is not. -/
  | verdict (ofInterest : Bool)
  /-- The fields in the line, if it has any. -/
  | context (fields : Option Json.Members)
  /-- The message in the line. -/
  | message (text : Bytes)
  /-- The timestamp of the line, if it has one. -/
  | timestamp (timestamp : Option LineTimestamp)
  /-- The detector does not know about such questions. -/
  | unable

/-- A line that has been read as an object. -/
structure KeptLine where
  /-- The line. -/
  line : Bytes
  /-- Its members. -/
  members : Json.Members

/-! ### The line that is kept -/

namespace KeptLine

/-- The members of a line, if it is the one that is kept. -/
def find? (kept : Option KeptLine) (line : Bytes) : Option Json.Members :=
  (kept.filter fun r => r.line == line).map KeptLine.members

/-- What is kept after a line has been read: the line, if it is an object. -/
def keep (line : Bytes) (document : Option Json.Members) : Option KeptLine :=
  document.map (KeptLine.mk line)

/-- The members of a line that is an object, with what is kept then. The line is read only if it is
not the one that is kept. -/
def document (kept : Option KeptLine) (line : Bytes) : Option Json.Members × Option KeptLine :=
  match find? kept line with
  | some ms => (some ms, kept)
  | none =>
    let document := FieldPattern.document? line
    (document, keep line document)

end KeptLine

/-! ### Replies -/

/-- What a field pattern says about a line that holds that object, or none. -/
def replyOn (p : FieldPattern) (document : Option Json.Members) : Question → Reply
  | .verdict => .verdict (p.judges document)
  | .context => .context document
  | .message => .unable
  | .timestamp => .timestamp (FieldPattern.timestampIn? document)

/-- What a detector keeps from one question to the next. -/
structure Memory where
  /-- The trail of the last kernel message of interest. -/
  trail : Option KernelTrail := none
  /-- The last line that was read as an object. -/
  kept : Option KeptLine := none

/-- What is replied to a question, given the trail, if every line is read afresh. -/
def reply (d : Detector) (trail : Option KernelTrail) (q : Inquiry) : Reply :=
  match q.question with
  | .verdict => .verdict (d.detect trail q.now q.line).1
  | .context => d.contextReader?.elim .unable fun read => .context (read q.line)
  | .message => d.messageReader?.elim .unable fun read => .message (read q.line)
  | .timestamp => d.timestampReader?.elim .unable fun read => .timestamp (read q.wall q.line)

/-- The trail after a question: only a verdict can change it. -/
def trailAfter (d : Detector) (trail : Option KernelTrail) (q : Inquiry) : Option KernelTrail :=
  match q.question with
  | .verdict => (d.detect trail q.now q.line).2
  | _ => trail

/-- The reply to a question, with what is kept after it. -/
def ask (d : Detector) (m : Memory) (q : Inquiry) : Reply × Memory :=
  match d with
  | .json p =>
    if q.question = .message then (.unable, m)
    else
      let (document, kept) := KeptLine.document m.kept q.line
      (replyOn p document q.question, { m with kept })
  | d => (d.reply m.trail q, { m with trail := d.trailAfter m.trail q })

/-- What is kept after some questions. -/
def memory (d : Detector) (m : Memory) (qs : List Inquiry) : Memory :=
  qs.foldl (fun m q => (d.ask m q).2) m

/-- The replies to some questions, one after the other. -/
def replies (d : Detector) : Memory → List Inquiry → List Reply
  | _, [] => []
  | m, q :: qs => (d.ask m q).1 :: d.replies (d.ask m q).2 qs

end Detector

end LogWatch
