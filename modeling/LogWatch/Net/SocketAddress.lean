import LogWatch.Config.Basic

/-!
# Socket addresses

The address of a socket is an IP address with a port: `1.2.3.4:80`, or `[::1]:80` with an address of
eight groups of 16 bits. In the latter form one run of zero groups may be left out, the last two
groups may be written as four numbers, and a scope may follow after a percent sign.

An address is written with the first of the longest runs of zero groups left out.
-/

namespace LogWatch

/-- An IP address. -/
inductive IpAddress
  /-- Four octets. -/
  | v4 (octets : List Nat)
  /-- Eight groups of 16 bits, and the scope if it is not zero. -/
  | v6 (groups : List Nat) (scope : Nat)
  deriving DecidableEq

/-- An address with a port. -/
structure SocketAddress where
  /-- The address. -/
  ip : IpAddress
  /-- The port. -/
  port : Nat
  deriving DecidableEq

namespace SocketAddress

/-! ### Reading -/

/-- A reader gives what it has read and the characters after it. -/
abbrev Reader (α : Type) := List Char → Option (α × List Char)

/-- The value of a hexadecimal digit. -/
def hexValue (c : Char) : Nat :=
  if c.isDigit then c.toNat - 48 else if 'a' ≤ c then c.toNat - 87 else c.toNat - 55

/-- The character is a digit in that base, ten or sixteen. -/
def isDigitIn (base : Nat) (c : Char) : Bool :=
  c.isDigit || (base == 16 && (('a' ≤ c && c ≤ 'f') || ('A' ≤ c && c ≤ 'F')))

/-- A number in that base, below `bound`; of at most so many digits, if there is a limit, and with
leading zeros only if they are allowed. -/
def number (base : Nat) (digits : Option Nat) (leadingZeros : Bool) (bound : Nat) : Reader Nat :=
  fun cs =>
    let ds := cs.takeWhile (isDigitIn base)
    let rest := cs.dropWhile (isDigitIn base)
    let value := ds.foldl (fun n c => n * base + hexValue c) 0
    if ds.isEmpty || digits.any (fun limit => decide (limit < ds.length)) then none
    else if !leadingZeros && ds.head? == some '0' && 1 < ds.length then none
    else if value < bound then some (value, rest)
    else none

/-- One character. -/
def char (c : Char) : List Char → Option (List Char)
  | [] => none
  | d :: cs => if d = c then some cs else none

/-- A number of an address of four octets. -/
def octet : Reader Nat := number 10 (some 3) false 256

/-- An address of four octets. -/
def fourOctets : Reader (List Nat) := fun cs => do
  let (a, cs) ← octet cs
  let (b, cs) ← octet (← char '.' cs)
  let (c, cs) ← octet (← char '.' cs)
  let (d, cs) ← octet (← char '.' cs)
  return ([a, b, c, d], cs)

/-- The two groups that four octets make. -/
def groupsOf : List Nat → List Nat
  | [a, b, c, d] => [a * 256 + b, c * 256 + d]
  | _ => []

/-- What stands before a group: a colon, unless the group is the first one. -/
def separator (first : Bool) (cs : List Char) : Option (List Char) :=
  if first then some cs else char ':' cs

/-- At most so many groups, and whether the last two of them were written as four octets. -/
def groups (first : Bool) : Nat → List Char → List Nat × Bool × List Char
  | 0, cs => ([], false, cs)
  | room + 1, cs =>
    match separator first cs with
    | none => ([], false, cs)
    | some after =>
      match (if 0 < room then fourOctets after else none) with
      | some (octets, rest) => (groupsOf octets, true, rest)
      | none =>
        match number 16 (some 4) true 65536 after with
        | none => ([], false, cs)
        | some (g, rest) =>
          let (gs, mixed, rest) := groups false room rest
          (g :: gs, mixed, rest)

/-- An address of eight groups. -/
def eightGroups : Reader (List Nat) := fun cs =>
  match groups true 8 cs with
  | (front, mixed, rest) =>
    if front.length = 8 then some (front, rest)
    else if mixed then none
    else do
      let rest ← char ':' (← char ':' rest)
      let (back, _, rest) := groups true (7 - front.length) rest
      return (front ++ List.replicate (8 - front.length - back.length) 0 ++ back, rest)

/-- A port after a colon. -/
def portPart : Reader Nat := fun cs => do number 10 none true 65536 (← char ':' cs)

/-- A scope after a percent sign, zero if there is none. -/
def scopePart (cs : List Char) : Option (Nat × List Char) :=
  match char '%' cs with
  | none => some (0, cs)
  | some rest => number 10 none true (Nat.pow 2 32) rest

/-- An address with a port. -/
def read : Reader SocketAddress := fun cs =>
  match fourOctets cs with
  | some (octets, rest) => do
    let (port, rest) ← portPart rest
    return (⟨.v4 octets, port⟩, rest)
  | none => do
    let (gs, rest) ← eightGroups (← char '[' cs)
    let (scope, rest) ← scopePart rest
    let (port, rest) ← portPart (← char ']' rest)
    return (⟨.v6 gs scope, port⟩, rest)

/-- The address that a text spells. -/
def read? (text : String) : Option SocketAddress :=
  match read text.toList with
  | some (address, []) => some address
  | _ => none

/-! ### Writing -/

/-- The digits of a number in base sixteen. -/
def hex (n : Nat) : String := String.ofList (Nat.toDigits 16 n)

/-- The length of the run of zeros at the front. -/
def zeroRun (gs : List Nat) : Nat := (gs.takeWhile (· == 0)).length

/-- The place and the length of the first of the longest runs of zeros. -/
def longestRun (place : Nat) : List Nat → Nat × Nat
  | [] => (place, 0)
  | g :: gs =>
    let here := zeroRun (g :: gs)
    let later := longestRun (place + 1) gs
    if later.2 ≤ here then (place, here) else later

/-- Groups between colons. -/
def written (gs : List Nat) : String := ":".intercalate (gs.map hex)

/-- Four octets between points. -/
def dotted (octets : List Nat) : String := ".".intercalate (octets.map toString)

/-- Eight groups as they are written. -/
def writtenGroups (gs : List Nat) : String :=
  match gs with
  | [0, 0, 0, 0, 0, 0xFFFF, a, b] => "::ffff:" ++ dotted [a / 256, a % 256, b / 256, b % 256]
  | _ =>
    let (place, length) := longestRun 0 gs
    if 1 < length then written (gs.take place) ++ "::" ++ written (gs.drop (place + length))
    else written gs

/-- An address with its port as it is written. -/
def render (a : SocketAddress) : String :=
  match a.ip with
  | .v4 octets => s!"{dotted octets}:{a.port}"
  | .v6 gs scope =>
    let scopeText := if scope = 0 then "" else s!"%{scope}"
    s!"[{writtenGroups gs}{scopeText}]:{a.port}"

/-- The address stands for all interfaces. -/
def isUnspecified (a : SocketAddress) : Bool :=
  match a.ip with
  | .v4 octets => octets.all (· == 0)
  | .v6 gs _ => gs.all (· == 0)

/-- The address leads back to the host itself. -/
def isLoopback (a : SocketAddress) : Bool :=
  match a.ip with
  | .v4 octets => octets.head? == some 127
  | .v6 gs _ => gs == [0, 0, 0, 0, 0, 0, 0, 1]

end SocketAddress

/-- Where metrics are exposed. -/
def Config.Metrics.socket (m : Config.Metrics) : Except String SocketAddress :=
  if m.endpoint != "/metrics" then
    .error s!"unsupported metrics endpoint '{m.endpoint}': only '/metrics' is currently supported"
  else
    match SocketAddress.read? s!"{m.listenAddr}:{m.port}" with
    | some a => .ok a
    | none => .error "invalid metrics listen address: invalid socket address syntax"

end LogWatch
