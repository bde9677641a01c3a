import LogWatch.Text.Octets

/-!
# Splitting a stream into lines

Octets arrive in reads of any size. The **line reader** cuts them at line feeds. Of a line it keeps
the first `limit` octets and counts that it was cut; a carriage return that is the last octet kept
is dropped. Octets after the last line feed are a line of their own when the stream ends, and are
lost when a read fails.
-/

namespace LogWatch

/-- A stream that is being cut into lines. -/
structure LineReader where
  /-- At most so many octets of a line are kept. -/
  limit : Nat
  /-- The octets of the last read that have not been used. -/
  pending : Bytes
  /-- What is kept of the open line, in reverse. -/
  kept : Bytes
  /-- The number of octets kept. -/
  keptLength : Nat
  /-- An octet of the open line has been read. -/
  started : Bool
  /-- The open line is longer than what is kept. -/
  overflowed : Bool
  /-- The number of lines that were cut. -/
  truncated : Nat

namespace LineReader

/-- A line of a log is cut at this length. -/
def maxLine : Nat := 256 * 1024

/-- A reader at the start of a stream. -/
def new (limit : Nat) : LineReader := ⟨limit, [], [], 0, false, false, 0⟩

/-- The reader with the octets of one more read. -/
def receive (r : LineReader) (chunk : Bytes) : LineReader :=
  { r with pending := r.pending ++ chunk }

/-- The open line with some octets more. -/
def extend (r : LineReader) (part : Bytes) : LineReader :=
  let length := part.length
  let room := r.limit - r.keptLength
  { r with
    kept := (part.take room).reverse ++ r.kept
    keptLength := r.keptLength + min length room
    started := true
    overflowed := r.overflowed || decide (room < length) }

/-- What is kept of a line, without a final carriage return. -/
def content (kept : Bytes) : Bytes :=
  match kept with
  | 13 :: rest => rest.reverse
  | rest => rest.reverse

/-- The reader at the start of the next line. -/
def reset (r : LineReader) : LineReader :=
  { r with kept := [], keptLength := 0, started := false, overflowed := false }

/-- Ends the open line. -/
def close (r : LineReader) : Bytes × LineReader :=
  let truncated := if r.overflowed then r.truncated + 1 else r.truncated
  (content r.kept, { r.reset with truncated })

/-- The next line, if the octets read so far end one. -/
def next? (r : LineReader) : Option Bytes × LineReader :=
  let part := r.pending.takeWhile (· != 10)
  match r.pending.dropWhile (· != 10) with
  | _ :: rest =>
    let (line, r) := (extend { r with pending := rest } part).close
    (some line, r)
  | [] =>
    if part.isEmpty then (none, r) else (none, extend { r with pending := [] } part)

/-- The stream ends here: the open line, if there is one. -/
def finish (r : LineReader) : Option Bytes × LineReader :=
  if r.started then
    let (line, r) := r.close
    (some line, r)
  else (none, r)

/-- The octets read so far end a line. -/
def hasLine (r : LineReader) : Bool := r.pending.any (· == 10)

/-- A read fails here: the open line is lost. -/
def fail (r : LineReader) : LineReader := r.reset

/-- Ending a line uses up its line feed at least. -/
theorem pending_length_lt {r r' : LineReader} {line : Bytes} (h : r.next? = (some line, r')) :
    r'.pending.length < r.pending.length := by
  have hle := (List.dropWhile_suffix (· != 10) (l := r.pending)).length_le
  simp only [next?] at h
  split at h
  next rest heq =>
    simp only [Prod.mk.injEq] at h
    rw [heq] at hle
    rw [← h.2]
    exact hle
  next =>
    split at h <;> exact nomatch congrArg Prod.fst h

/-- A line, or a failed read, with the number of lines that had been cut when it came. -/
abbrev Outcome := Option Bytes × Nat

/-- The lines that the octets read so far end, before what `rest` makes of the reader after them. -/
def drain (rest : LineReader → List Outcome) (r : LineReader) : List Outcome :=
  match h : r.next? with
  | (some line, r') =>
    have := pending_length_lt h
    (some line, r'.truncated) :: drain rest r'
  | (none, r') => rest r'
termination_by r.pending.length

/-- All lines of a stream that comes in these reads, of which those that are `none` fail. -/
def readAll (r : LineReader) : List (Option Bytes) → List Outcome
  | [] => r.drain fun r =>
    match r.finish with
    | (some line, r) => [(some line, r.truncated)]
    | (none, _) => []
  | some chunk :: reads => r.drain fun r => readAll (r.receive chunk) reads
  | none :: reads => r.drain fun r => (none, r.truncated) :: readAll r.fail reads

end LineReader

end LogWatch
