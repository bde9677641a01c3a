import LogWatch.Text.Octets

/-!
# Syslog messages as lines

What arrives at a socket is written into the stream of the monitor as lines. A **datagram** is one
message: it gets a line feed at its end unless it has one, and an empty datagram is passed over. A
**connection** carries lines; a piece of 64 KiB without a line feed is made a line of its own, and
so is what stands before the end of the connection.
-/

namespace LogWatch

namespace SyslogFraming

/-- The octets with a line feed at their end. -/
def withLineFeed (message : Bytes) : Bytes :=
  if message.getLast? == some 10 then message else message ++ [10]

/-- What a datagram writes into the stream. -/
def ofDatagram (message : Bytes) : Bytes := if message.isEmpty then [] else withLineFeed message

/-- What datagrams write into the stream. -/
def ofDatagrams (messages : List Bytes) : Bytes := messages.flatMap ofDatagram

/-- A piece of a connection has at most so many octets, its line feed counted. -/
def maxFrame : Nat := 64 * 1024

/-- The first piece of the octets of a connection, which has at most `room` octets. -/
def frontFrame : Nat → Bytes → Bytes
  | 0, _ => []
  | _ + 1, [] => []
  | room + 1, b :: bs => if b == 10 then [b] else b :: frontFrame room bs

theorem length_frontFrame_le (room : Nat) (bs : Bytes) :
    (frontFrame room bs).length ≤ bs.length := by
  induction room generalizing bs with
  | zero => simp [frontFrame]
  | succ room ih =>
    cases bs with
    | nil => simp [frontFrame]
    | cons b bs =>
      simp only [frontFrame]
      split
      · simp
      · simpa using ih bs

theorem length_frontFrame_pos (room : Nat) (b : UInt8) (bs : Bytes) :
    0 < (frontFrame (room + 1) (b :: bs)).length := by
  simp only [frontFrame]
  split <;> simp

/-- The pieces into which a connection is cut, each of them without more than `room + 1` octets. -/
def frames (room : Nat) : Bytes → List Bytes
  | [] => []
  | b :: bs =>
    let frame := frontFrame (room + 1) (b :: bs)
    frame :: frames room ((b :: bs).drop frame.length)
  termination_by bs => bs.length
  decreasing_by
    have := length_frontFrame_pos room b bs
    simp only [List.length_drop, List.length_cons]
    omega

/-- What a connection writes into the stream. -/
def ofConnection (octets : Bytes) : Bytes :=
  (frames (maxFrame - 1) octets).flatMap withLineFeed

end SyslogFraming

end LogWatch
