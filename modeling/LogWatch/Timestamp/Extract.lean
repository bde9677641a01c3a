import LogWatch.Timestamp.Iso
import LogWatch.Timestamp.Kernel
import LogWatch.Timestamp.Nginx
import LogWatch.Timestamp.Syslog

/-!
# The timestamp of any line

Which forms are tried at the front of a line depends on its first octet alone: a bracket, a digit,
or an angle bracket or capital letter. If none of them fits, the form of the nginx access log is
looked for in the whole line.
-/

namespace LogWatch

/-- The timestamp at the front of a line, by its first octet. -/
def LineTimestamp.atFront? (now : WallTime) (line : Bytes) : Option LineTimestamp :=
  match line with
  | [] => none
  | b :: _ =>
    if b == 91 then Kernel.timestamp? line
    else if Octet.isDigit b then
      match Iso.timestamp? line with
      | some t => some t
      | none => Nginx.errorTimestamp? line
    else if b == 60 || (65 ≤ b && b ≤ 90) then Syslog.timestamp? now line
    else none

/-- The timestamp of a line, as seen from `now`. -/
def LineTimestamp.extract? (now : WallTime) (line : Bytes) : Option LineTimestamp :=
  match LineTimestamp.atFront? now line with
  | some t => some t
  | none => Nginx.accessTimestamp? line

end LogWatch
