import LogWatch.Text.Utf8
import LogWatch.Json.Value

/-!
# Tokens of a JSON text

The text is read one octet at a time by a machine whose **state** says which token is open. A token
keeps whether it can be given a meaning: a string with an unpaired surrogate or invalid UTF-8, and a
number beyond the binary64 range, are tokens without a value. They may be skipped over, but not
used.
-/

namespace LogWatch

namespace Json

/-! ### Numbers -/

namespace Number

/-- Appends digits to a significand while it stays below `2 ^ 64`; the digits from the first that
does not fit are left. -/
def appendDigits (significand : Nat) : Bytes → Nat × Bytes
  | [] => (significand, [])
  | d :: ds =>
    let next := significand * 10 + Octet.digitValue d
    if next < Nat.pow 2 64 then appendDigits next ds else (significand, d :: ds)

/-- The significand scaled by a power of ten, one rounding for each multiplication or division by a
power up to `10 ^ 308`; nothing if it leaves the range. -/
def scale? (x : Float) (e : Int) : Option Float :=
  if 308 < e then (if x == 0 then some x else none)
  else if 0 ≤ e then
    let y := x * Binary64.ofNat (Nat.pow 10 e.toNat)
    if y.isInf then none else some y
  else if -308 ≤ e then some (x / Binary64.ofNat (Nat.pow 10 (-e).toNat))
  else if x == 0 then some x
  else scale? (x / Binary64.ofNat (Nat.pow 10 308)) (e + 308)
  termination_by (-e).toNat
  decreasing_by omega

/-- A number written with digits, maybe a fraction, and maybe an exponent. -/
structure Spelling where
  /-- A minus sign stands in front. -/
  negative : Bool
  /-- The digits before the point. -/
  whole : Bytes
  /-- The digits after the point. -/
  fraction : Option Bytes
  /-- The exponent, with its sign. -/
  exponent : Option Int

/-- The number that a spelling stands for, if it is in range. Digits that do not fit into 64 bits
are dropped. -/
def Spelling.value? (s : Spelling) : Option Number :=
  let (significand, dropped) := appendDigits 0 s.whole
  match s.fraction, s.exponent, dropped with
  | none, none, [] =>
    if !s.negative then some (.int significand)
    else if 0 < significand ∧ significand ≤ Nat.pow 2 63 then some (.int (-significand))
    else some (.float (-Binary64.ofNat significand))
  | fraction, exponent, dropped =>
    let digits := fraction.getD []
    let (significand, left) := appendDigits significand digits
    let power : Int := exponent.getD 0 + dropped.length - (digits.length - left.length : Nat)
    (scale? (Binary64.ofNat significand) power).map fun x =>
      .float (if s.negative then -x else x)

/-- Reads the exponent part of a number that is not over yet. -/
def exponentOf? (text : Bytes) : Option Int :=
  let (sign, digits) : Int × Bytes := match text with
    | 43 :: ds => (1, ds)
    | 45 :: ds => (-1, ds)
    | ds => (1, ds)
  if digits.isEmpty || !digits.all Octet.isDigit then none
  else some (sign * Bytes.decimalValue digits)

/-- Reads a number: no leading zeros, digits on both sides of the point, digits in the exponent. -/
def Spelling.ofBytes? (text : Bytes) : Option Spelling :=
  let (negative, text) := match text with
    | 45 :: rest => (true, rest)
    | rest => (false, rest)
  let (whole, rest) := text.span Octet.isDigit
  let wellFormed := match whole with
    | [] => false
    | 48 :: _ :: _ => false
    | _ => true
  if !wellFormed then none
  else
    match rest with
    | [] => some ⟨negative, whole, none, none⟩
    | 46 :: rest =>
      let (fraction, rest) := rest.span Octet.isDigit
      if fraction.isEmpty then none
      else
        match rest with
        | [] => some ⟨negative, whole, some fraction, none⟩
        | e :: rest =>
          if e == 101 || e == 69 then
            (exponentOf? rest).map fun n => ⟨negative, whole, some fraction, some n⟩
          else none
    | e :: rest =>
      if e == 101 || e == 69 then
        (exponentOf? rest).map fun n => ⟨negative, whole, none, some n⟩
      else none

end Number

/-! ### Tokens -/

/-- A token of a JSON text. -/
inductive Token
  | openBrace
  | closeBrace
  | openBracket
  | closeBracket
  | colon
  | comma
  | null
  | bool (b : Bool)
  /-- A number, with its value if it is in range. -/
  | num (n : Option Number)
  /-- A string, with its text if it has one. -/
  | str (s : Option String)

namespace Token

/-- Where the machine stands within an escape sequence. -/
inductive Escape
  /-- In no escape. -/
  | plain
  /-- After a backslash. -/
  | backslash
  /-- Within a numeric escape, with so many digits to come. -/
  | hex (left value : Nat)

/-- The part of a string read so far. -/
structure OpenString where
  /-- The octets, in reverse. -/
  octets : Bytes
  /-- Every escape so far stands for a scalar value. -/
  sound : Bool
  /-- A leading surrogate that waits for its trailing one. -/
  lead : Option Nat
  /-- The escape being read. -/
  escape : Escape

/-- The machine's state: the open token. -/
inductive State
  /-- Between tokens. -/
  | idle
  /-- Within a string. -/
  | str (s : OpenString)
  /-- Within a number whose octets so far are given in reverse. -/
  | num (text : Bytes)
  /-- Within a word of which these octets are still to come. -/
  | word (left : Bytes) (token : Token)

/-- The machine's state with the tokens read so far, in reverse. -/
structure Machine where
  /-- The open token. -/
  state : State
  /-- The closed tokens, in reverse. -/
  tokens : List Token

/-- The octet may stand in a number. -/
def isNumeric (b : UInt8) : Bool :=
  Octet.isDigit b || b == 43 || b == 45 || b == 46 || b == 69 || b == 101

/-- The text of a finished string, if it has one. -/
def OpenString.text? (s : OpenString) : Option String :=
  if s.sound && s.lead.isNone then Utf8.decode? s.octets.reverse else none

/-- The string with a scalar value appended. -/
def OpenString.push (s : OpenString) (n : Nat) : OpenString :=
  { s with
    octets := (String.utf8EncodeChar (Char.ofNat n)).reverse ++ s.octets
    lead := none
    sound := s.sound && s.lead.isNone
    escape := .plain }

/-- The string after a finished numeric escape. -/
def OpenString.pushUnit (s : OpenString) (n : Nat) : OpenString :=
  let isLead := 0xD800 ≤ n ∧ n ≤ 0xDBFF
  let isTrail := 0xDC00 ≤ n ∧ n ≤ 0xDFFF
  match s.lead with
  | some lead =>
    if isTrail then
      { s with lead := none }.push (0x10000 + (lead - 0xD800) * 0x400 + (n - 0xDC00))
    else { s with sound := false, lead := none, escape := .plain }
  | none =>
    if isTrail then { s with sound := false, escape := .plain }
    else if isLead then { s with lead := some n, escape := .plain }
    else s.push n

/-- The string after one more octet: still open, finished, or refused. -/
def OpenString.step (s : OpenString) (b : UInt8) : Option (OpenString ⊕ Option String) :=
  match s.escape with
  | .plain =>
    if b == 34 then some (.inr s.text?)
    else if b == 92 then some (.inl { s with escape := .backslash })
    else if b < 0x20 then none
    else
      some (.inl
        { s with octets := b :: s.octets, sound := s.sound && s.lead.isNone, lead := none })
  | .backslash =>
    if b == 117 then some (.inl { s with escape := .hex 4 0 })
    else if b == 34 || b == 92 || b == 47 then some (.inl (s.push b.toNat))
    else if b == 98 then some (.inl (s.push 8))
    else if b == 102 then some (.inl (s.push 12))
    else if b == 110 then some (.inl (s.push 10))
    else if b == 114 then some (.inl (s.push 13))
    else if b == 116 then some (.inl (s.push 9))
    else none
  | .hex left value =>
    match Octet.hexValue? b with
    | none => none
    | some d =>
      if left ≤ 1 then some (.inl (s.pushUnit (value * 16 + d)))
      else some (.inl { s with escape := .hex (left - 1) (value * 16 + d) })

/-- Opens a token, or closes a token of one octet. -/
def Machine.start (m : Machine) (b : UInt8) : Option Machine :=
  let one (t : Token) : Option Machine := some ⟨.idle, t :: m.tokens⟩
  let word (left : String) (t : Token) : Option Machine :=
    some ⟨.word (Bytes.ofString left) t, m.tokens⟩
  if b == 32 || b == 10 || b == 9 || b == 13 then some ⟨.idle, m.tokens⟩
  else if b == 34 then some ⟨.str ⟨[], true, none, .plain⟩, m.tokens⟩
  else if b == 45 || Octet.isDigit b then some ⟨.num [b], m.tokens⟩
  else if b == 123 then one .openBrace
  else if b == 125 then one .closeBrace
  else if b == 91 then one .openBracket
  else if b == 93 then one .closeBracket
  else if b == 58 then one .colon
  else if b == 44 then one .comma
  else if b == 110 then word "ull" .null
  else if b == 116 then word "rue" (.bool true)
  else if b == 102 then word "alse" (.bool false)
  else none

/-- Closes a number. -/
def Machine.closeNumber (m : Machine) (text : Bytes) : Option Machine :=
  (Number.Spelling.ofBytes? text.reverse).map fun s => ⟨.idle, .num s.value? :: m.tokens⟩

/-- The machine after one more octet. -/
def Machine.step (m : Machine) (b : UInt8) : Option Machine :=
  match m.state with
  | .idle => m.start b
  | .str s =>
    match s.step b with
    | none => none
    | some (.inl s) => some ⟨.str s, m.tokens⟩
    | some (.inr text) => some ⟨.idle, .str text :: m.tokens⟩
  | .num text =>
    if isNumeric b then some ⟨.num (b :: text), m.tokens⟩
    else (m.closeNumber text).bind fun m => m.start b
  | .word [] t => Machine.start ⟨.idle, t :: m.tokens⟩ b
  | .word [c] t => if b == c then some ⟨.idle, t :: m.tokens⟩ else none
  | .word (c :: left) t => if b == c then some ⟨.word left t, m.tokens⟩ else none

/-- The tokens of a text that ends here. -/
def Machine.finish (m : Machine) : Option (List Token) :=
  match m.state with
  | .idle => some m.tokens.reverse
  | .num text => (m.closeNumber text).map fun m => m.tokens.reverse
  | .str _ => none
  | .word _ _ => none

/-- The tokens of a JSON text. -/
def ofBytes? (text : Bytes) : Option (List Token) :=
  (text.foldlM Machine.step ⟨.idle, []⟩).bind Machine.finish

end Token

end Json

end LogWatch
