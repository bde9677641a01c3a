import LogWatch.Text.Octets

/-!
# Reading octets as UTF-8

What stands at the **front** of an octet string is either one scalar value in its shortest encoding
or a broken start. A broken start takes as many octets as could still have begun an encoding, and
at least one, so that a reader which replaces each broken start by U+FFFD resumes at the first octet
that can begin something new.

`Utf8.decode?` refuses broken starts, `Utf8.decodeLossy` replaces them.
-/

namespace LogWatch

namespace Utf8

/-- The octet continues a longer encoding. -/
def isTail (b : UInt8) : Bool := 0x80 ≤ b && b ≤ 0xBF

/-- What stands at the front of a non-empty octet string, and what is left after it. -/
inductive Front
  /-- One scalar value. -/
  | scalar (c : Char) (rest : Bytes)
  /-- Octets that begin no encoding, or end within one. -/
  | broken (rest : Bytes)

/-- What is left after the front. -/
def Front.rest : Front → Bytes
  | .scalar _ rest => rest
  | .broken rest => rest

/-- The least and greatest second octet after a lead of three or four octets: they exclude
overlong forms, surrogates and values above U+10FFFF. -/
def secondRange (lead : UInt8) : UInt8 × UInt8 :=
  if lead == 0xE0 then (0xA0, 0xBF)
  else if lead == 0xED then (0x80, 0x9F)
  else if lead == 0xF0 then (0x90, 0xBF)
  else if lead == 0xF4 then (0x80, 0x8F)
  else (0x80, 0xBF)

/-- The front of the octet string `b :: s`. -/
def front (b : UInt8) (s : Bytes) : Front :=
  if b < 0x80 then .scalar (Char.ofNat b.toNat) s
  else if b < 0xC2 then .broken s
  else if b < 0xE0 then
    match s with
    | t :: s' =>
      if isTail t then .scalar (Char.ofNat ((b.toNat - 0xC0) * 64 + (t.toNat - 0x80))) s'
      else .broken s
    | [] => .broken s
  else if b < 0xF0 then
    match s with
    | t :: s' =>
      let (lo, hi) := secondRange b
      if lo ≤ t && t ≤ hi then
        match s' with
        | u :: s'' =>
          if isTail u then
            .scalar (Char.ofNat
              (((b.toNat - 0xE0) * 64 + (t.toNat - 0x80)) * 64 + (u.toNat - 0x80))) s''
          else .broken s'
        | [] => .broken s'
      else .broken s
    | [] => .broken s
  else if b < 0xF5 then
    match s with
    | t :: s' =>
      let (lo, hi) := secondRange b
      if lo ≤ t && t ≤ hi then
        match s' with
        | u :: s'' =>
          if isTail u then
            match s'' with
            | v :: s''' =>
              if isTail v then
                .scalar (Char.ofNat
                  ((((b.toNat - 0xF0) * 64 + (t.toNat - 0x80)) * 64 + (u.toNat - 0x80)) * 64
                    + (v.toNat - 0x80))) s'''
              else .broken s''
            | [] => .broken s''
          else .broken s'
        | [] => .broken s'
      else .broken s
    | [] => .broken s
  else .broken s

/-- The front takes at least its first octet and nothing beyond the string. -/
theorem length_rest_front (b : UInt8) (s : Bytes) : (front b s).rest.length ≤ s.length := by
  unfold front
  repeat' split
  all_goals simp [Front.rest]
  all_goals omega

/-- The scalar values of an octet string, in reverse, with U+FFFD for each broken start. -/
def lossyOnto (acc : List Char) : Bytes → List Char
  | [] => acc
  | b :: s =>
    have := length_rest_front b s
    match _h : front b s with
    | .scalar c rest => lossyOnto (c :: acc) rest
    | .broken rest => lossyOnto ('\uFFFD' :: acc) rest
  termination_by s => s.length
  decreasing_by all_goals rw [_h] at this; exact Nat.lt_succ_of_le this

/-- The text of an octet string, with U+FFFD for each broken start. -/
def decodeLossy (s : Bytes) : String := String.ofList (lossyOnto [] s).reverse

/-- The scalar values of an octet string, in reverse, when it has no broken start. -/
def strictOnto (acc : List Char) : Bytes → Option (List Char)
  | [] => some acc
  | b :: s =>
    have := length_rest_front b s
    match _h : front b s with
    | .scalar c rest => strictOnto (c :: acc) rest
    | .broken _ => none
  termination_by s => s.length
  decreasing_by all_goals rw [_h] at this; exact Nat.lt_succ_of_le this

/-- The text of an octet string that is valid UTF-8. -/
def decode? (s : Bytes) : Option String :=
  (strictOnto [] s).map fun cs => String.ofList cs.reverse

/-- The octet string is valid UTF-8. -/
def isValid (s : Bytes) : Bool := (strictOnto [] s).isSome

end Utf8

end LogWatch
