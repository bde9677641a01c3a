import LogWatch.Host.Basic

/-!
# A spool on a bench

On its **bench** a spool works without monitors: reports are put into it by hand, passes over it are
made by hand or by a resender, and its file can be changed behind its back, even while a pass waits
for the receiver.
-/

namespace LogWatch

/-- A spool with what it needs to work. -/
structure SpoolBench where
  /-- The clock. -/
  now : Moment
  /-- The spool; until it has been opened, only its file counts. -/
  spool : Spool
  /-- The spool has been opened. -/
  isOpen : Bool
  /-- Makes passes, if it has been started. -/
  resender : Option Resender
  /-- What the receiver does with the next reports; the last holds for all that follow. -/
  replies : List Reply
  /-- When the receiver answers, and how. -/
  answer : Option (Moment × Bool)
  /-- The reports that the receiver has taken, the last one first. -/
  delivered : List Report

namespace SpoolBench

/-- A bench without a file. -/
def new : SpoolBench := ⟨0, ⟨none, 0, 0, none⟩, false, none, [], none, []⟩

/-- Opens the spool on the file as it stands; a pass that is under way goes on. -/
def openSpool (b : SpoolBench) : Except DeliveryFault SpoolBench := do
  let spool ← Spool.openOn b.spool.file
  return { b with spool := { spool with pass := b.spool.pass }, isOpen := true }

/-- Changes the file behind the back of the spool. -/
def setFile (b : SpoolBench) (file : Option Bytes) : SpoolBench :=
  { b with spool := { b.spool with file } }

/-- Puts a report into the spool. -/
def enqueue (b : SpoolBench) (r : Report) : SpoolBench := { b with spool := b.spool.enqueue r }

/-- A report that has been sent is waiting for its answer from now on. -/
def ask (b : SpoolBench) : SpoolBench :=
  if b.spool.sending?.isSome then
    let (reply, replies) := Host.nextReply b.replies
    { b with replies, answer := some (reply.answerAt b.now) }
  else b

/-- The pass gets on with its work, if there is one and it does not wait for the receiver. It is
left where it has looked at all lines. -/
def passTurn (b : SpoolBench) : Option SpoolBench :=
  match b.spool.pass, b.spool.sending? with
  | none, _ => none
  | some _, some r =>
    (Host.arrived b.now b.answer).map fun ok =>
      { b with
        spool := b.spool.answer ok
        answer := none
        delivered := if ok then r :: b.delivered else b.delivered }
  | some pass, none => if pass.isDone then none else some { b with spool := b.spool.advance }.ask

/-- The resender ends a pass that has looked at all lines, or begins one. -/
def resenderTurn (b : SpoolBench) : Option SpoolBench :=
  match b.spool.pass, b.resender with
  | some pass, _ => if pass.isDone then some { b with spool := b.spool.advance } else none
  | none, none => none
  | none, some resender =>
    if resender.isOver || !resender.ticker.isDue b.now then none
    else
      let b := { b with
        resender := some { resender with ticker := resender.ticker.attend b.now } }
      if b.spool.depth = 0 then some b
      else
        match b.spool.begin with
        | .ok spool => some { b with spool }
        | .error _ => some b

/-- The next moment at which something is due. -/
def nextMoment? (b : SpoolBench) : Option Moment :=
  let answer := (b.answer.map (·.1)).toList
  let tick := match b.resender with
    | some resender => if resender.isOver then [] else [resender.ticker.next]
    | none => []
  (((answer ++ tick).map Host.atMillis).filter fun m => decide (b.now < m)).min?

/-- Lets the spool work until `goal` has been reached, but no longer than `limit`, in at most so
many steps. -/
def runUntil (goal : SpoolBench → Bool) (limit : Moment) : Nat → SpoolBench → SpoolBench
  | 0, b => b
  | fuel + 1, b =>
    if goal b then b
    else
      match b.passTurn <|> b.resenderTurn with
      | some b => runUntil goal limit fuel b
      | none =>
        match b.nextMoment? with
        | some m =>
          if m ≤ limit then runUntil goal limit fuel { b with now := m }
          else { b with now := max b.now limit }
        | none => { b with now := max b.now limit }

/-- The bench after a while, with what has been delivered in it. -/
def sleep (b : SpoolBench) (span : Span) : SpoolBench :=
  runUntil (fun _ => false) (b.now + span) Host.maxEvents { b with delivered := [] }

/-- No pass is under way. -/
def isFree (b : SpoolBench) : Bool := b.spool.pass.isNone

/-- The pass waits for the receiver, or has looked at all lines. -/
def hasAsked (b : SpoolBench) : Bool :=
  b.spool.pass.all fun pass => pass.isDone || pass.sending.isSome

/-- The pass has looked at all lines. -/
def hasLooked (b : SpoolBench) : Bool := b.spool.pass.all fun pass => pass.isDone

/-- The bench when that is so. -/
def await (goal : SpoolBench → Bool) (b : SpoolBench) : SpoolBench :=
  runUntil goal (b.now + Span.ofSeconds (400 * 24 * 3600)) Host.maxEvents b

/-- A pass by hand, after one that may be under way: its outcome, the reports delivered, and the
bench after it. The receiver does with the reports as `replies` say, and `disturb` happens to the
spool when the first of them has been sent. -/
def resend (b : SpoolBench) (replies : List Reply) (disturb : Spool → Spool) :
    Except DeliveryFault Spool.Summary × List Report × SpoolBench :=
  let b := b.await isFree
  match b.spool.begin with
  | .error e => (.error e, [], b)
  | .ok spool =>
    let asked := { b with spool, replies, delivered := [] }.await hasAsked
    let disturbed :=
      if asked.spool.sending?.isSome then { asked with spool := disturb asked.spool } else asked
    let looked := disturbed.await hasLooked
    match looked.spool.pass with
    | none => (.ok {}, [], b)
    | some pass =>
      let (outcome, spool) := looked.spool.finish pass
      (outcome, looked.delivered.reverse,
        { looked with spool, replies := b.replies, delivered := b.delivered })

/-- Starts a resender; the receiver does with its reports as `replies` say. -/
def start (b : SpoolBench) (every : Span) (replies : List Reply) : SpoolBench :=
  { b with resender := some (Resender.starting b.now every), replies }

/-- Stops the resender; a pass that is under way goes on. -/
def stop (b : SpoolBench) : SpoolBench :=
  { b with resender := b.resender.map fun resender => { resender with isOver := true } }

end SpoolBench

end LogWatch
