import LogWatch.Fault
import LogWatch.Number.Plain
import LogWatch.Text.Blank

/-!
# Spans of time

A **span** is a number of nanoseconds, and a **moment** a reading of the monotonic clock in
nanoseconds since it started. A span is written `1h1m1s` for people, and read from a configuration
as a sequence of numbers with units, such as `1m30s` or `1.5h`: the numbers add up in binary64
seconds, which are then rounded to the nearest nanosecond.
-/

namespace LogWatch

/-- A length of time, in nanoseconds. -/
abbrev Span := Nat

/-- A reading of the monotonic clock, in nanoseconds since it started. -/
abbrev Moment := Nat

namespace Span

/-- So many milliseconds. -/
def ofMillis (n : Nat) : Span := n * 1000000

/-- So many seconds. -/
def ofSeconds (n : Nat) : Span := n * 1000000000

/-- The whole milliseconds in the span. -/
def millis (s : Span) : Nat := s / 1000000

/-- The whole seconds in the span. -/
def seconds (s : Span) : Nat := s / 1000000000

/-- The nanoseconds beyond the whole seconds. -/
def subNanos (s : Span) : Nat := s % 1000000000

/-- The span in hours, minutes and whole seconds, without the parts that are zero; in milliseconds
below one second. -/
def render (s : Span) : String :=
  if s.millis = 0 then "0s"
  else if s.millis < 1000 then s!"{s.millis}ms"
  else
    let hours := s.seconds / 3600
    let minutes := s.seconds % 3600 / 60
    let rest := s.seconds % 60
    let long := (if 0 < hours then s!"{hours}h" else "")
      ++ (if 0 < minutes then s!"{minutes}m" else "")
    if 0 < rest ∨ long = "" then long ++ s!"{rest}s" else long

/-! ### Reading -/

/-- Why a text is not a span. -/
inductive Unreadable
  | empty
  | expectedNumber
  | invalidNumber
  | missingUnit
  | unknownUnit
  | outOfRange
  deriving DecidableEq

/-- The wording of the reason. -/
def Unreadable.message : Unreadable → String
  | .empty => "empty duration"
  | .expectedNumber => "expected a number"
  | .invalidNumber => "invalid number"
  | .missingUnit => "missing unit"
  | .unknownUnit => "unknown unit"
  | .outOfRange => "out of range"

/-- A unit in which a span may be given. -/
inductive Timescale
  | nanosecond
  | microsecond
  | millisecond
  | second
  | minute
  | hour
  deriving DecidableEq

/-- The seconds in one unit. -/
def Timescale.seconds : Timescale → Float
  | .nanosecond => 1e-9
  | .microsecond => 1e-6
  | .millisecond => 1e-3
  | .second => 1.0
  | .minute => 60.0
  | .hour => 3600.0

/-- The unit of that name. -/
def Timescale.ofName? (name : List Char) : Option Timescale :=
  if name = ['n', 's'] then some .nanosecond
  else if name = ['u', 's'] then some .microsecond
  else if name = ['m', 's'] then some .millisecond
  else if name = ['s'] then some .second
  else if name = ['m'] then some .minute
  else if name = ['h'] then some .hour
  else none

/-- The character may stand in a number. -/
def isNumeric (c : Char) : Bool := c.isDigit || c == '.'

/-- A text of digits and points as octets. -/
def octetsOf (cs : List Char) : Bytes := cs.map fun c => c.toNat.toUInt8

/-- The first number with its unit, and the characters after it. -/
def segment (cs : List Char) : Except Unreadable ((Float × Timescale) × List Char) :=
  let number := cs.takeWhile isNumeric
  let rest := cs.dropWhile isNumeric
  if number.isEmpty then .error .expectedNumber
  else
    match Plain.read? (octetsOf number) with
    | none => .error .invalidNumber
    | some value =>
      let name := rest.takeWhile Char.isAlpha
      let rest := rest.dropWhile Char.isAlpha
      if name.isEmpty then .error .missingUnit
      else
        match Timescale.ofName? name with
        | none => .error .unknownUnit
        | some unit => .ok ((value, unit), rest)

/-- A number takes at least one character. -/
theorem length_of_segment {cs rest : List Char} {x : Float × Timescale}
    (h : segment cs = .ok (x, rest)) : rest.length < cs.length := by
  have h1 := (List.dropWhile_suffix isNumeric (l := cs)).length_le
  have h2 := (List.dropWhile_suffix Char.isAlpha (l := cs.dropWhile isNumeric)).length_le
  have h3 : (cs.takeWhile isNumeric).length + (cs.dropWhile isNumeric).length = cs.length := by
    rw [← List.length_append, List.takeWhile_append_dropWhile]
  simp only [segment] at h
  split at h
  · simp at h
  · next hne =>
    have h4 : 0 < (cs.takeWhile isNumeric).length := by
      rw [List.length_pos_iff]
      intro hnil
      simp [hnil] at hne
    split at h
    · simp at h
    · split at h
      · simp at h
      · split at h
        · simp at h
        · simp only [Except.ok.injEq, Prod.mk.injEq] at h
          rw [← h.2]
          omega

/-- The numbers with their units that a text consists of. -/
def segments (cs : List Char) : Except Unreadable (List (Float × Timescale)) :=
  match h : segment cs with
  | .error e => .error e
  | .ok (x, []) => .ok [x]
  | .ok (x, c :: rest) =>
    have : (c :: rest).length < cs.length := length_of_segment h
    match segments (c :: rest) with
    | .error e => .error e
    | .ok xs => .ok (x :: xs)
  termination_by cs.length

/-- The seconds that a list of numbers with units adds up to. -/
def totalSeconds (xs : List (Float × Timescale)) : Float :=
  xs.foldl (fun total x => total + x.1 * x.2.seconds) 0.0

/-- A non-negative number of seconds as a span, to the nearest nanosecond, a tie going to the even
one; nothing from `2 ^ 64` seconds on. -/
def ofFloatSeconds? (x : Float) : Option Span :=
  if x < 0.0 then none
  else
    let (m, q) := Binary64.parts x
    let num := m * Nat.pow 2 q.toNat
    let den := Nat.pow 2 (-q).toNat
    if num < Nat.pow 2 64 * den then some (Binary64.roundDiv (num * 1000000000) den) else none

/-- Reads a span. -/
def read (text : String) : Except Unreadable Span :=
  match Blank.trimChars text.toList with
  | [] => .error .empty
  | cs =>
    match segments cs with
    | .error e => .error e
    | .ok xs =>
      match ofFloatSeconds? (totalSeconds xs) with
      | none => .error .outOfRange
      | some s => .ok s

/-- Reads a span given in a configuration. -/
def parse (text : String) : Except ConfigFault Span :=
  match read text with
  | .error e => .error (.invalidValue "duration" s!"'{text}': {e.message}")
  | .ok s => .ok s

end Span

end LogWatch
