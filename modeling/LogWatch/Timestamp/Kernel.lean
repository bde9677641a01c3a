import LogWatch.Number.Plain
import LogWatch.Timestamp.Basic

/-!
# Kernel timestamps

A kernel line starts with the seconds since boot in brackets, `[    2.456789] `. The closing bracket
must lie within the first `Kernel.bracketLimit` octets; within the brackets only spaces may stand
before the number.
-/

namespace LogWatch

namespace Kernel

/-- The closing bracket lies within so many octets. -/
def bracketLimit : Nat := 32

/-- The timestamp at the front of a line, and the octets after its closing bracket. -/
def front? (line : Bytes) : Option (LineTimestamp × Bytes) := do
  let inner ← Field.octet? 91 line
  let (bracketed, _) ← Bytes.splitAtFirst? 93 (inner.take (bracketLimit - 1))
  let text := bracketed.dropWhile (· == 32)
  let epoch ← Plain.read? text
  pure (⟨epoch, text⟩, inner.drop (bracketed.length + 1))

/-- The kernel timestamp of a line. -/
def timestamp? (line : Bytes) : Option LineTimestamp := (front? line).map (·.1)

end Kernel

end LogWatch
