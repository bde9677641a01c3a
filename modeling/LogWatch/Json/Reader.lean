import LogWatch.Json.Token

/-!
# Reading JSON

Tokens become a tree of **nodes**, which says what was written: every member of an object, in
order, also repeated ones, to any depth. Only then is it given a meaning. `Node.value?` reads a
node as a value; it refuses more than `maxDepth` nested arrays and objects, and of members with one
name it keeps the last.
-/

namespace LogWatch

namespace Json

/-- What was written in a JSON text. -/
inductive Node
  | null
  | bool (b : Bool)
  | num (n : Option Number)
  | str (s : Option String)
  | arr (items : List Node)
  | obj (members : List (Option String × Node))

namespace Node

/-! ### From tokens to nodes -/

/-- An array or object whose end is still to come, its contents in reverse. -/
inductive Frame
  | arr (items : List Node)
  | obj (members : List (Option String × Node)) (key : Option String)

/-- What may come next. -/
inductive Expects
  /-- A value. -/
  | value
  /-- A value, or the end of an array just opened. -/
  | valueOrEnd
  /-- A name, or the end of an object just opened. -/
  | nameOrEnd (members : List (Option String × Node))
  /-- A name, after a comma. -/
  | name (members : List (Option String × Node))
  /-- The colon after a name. -/
  | colon (members : List (Option String × Node)) (key : Option String)
  /-- A comma, or the end of the innermost array or object. -/
  | commaOrEnd (last : Node)

/-- A text read up to some token. -/
structure Partial where
  /-- The open arrays and objects, innermost first. -/
  frames : List Frame
  /-- What may come next. -/
  expects : Expects

/-- A value has been read. -/
def Partial.close (frames : List Frame) (n : Node) : Partial := ⟨frames, .commaOrEnd n⟩

/-- Begins or completes a value. -/
def Partial.value (frames : List Frame) : Token → Option Partial
  | .openBracket => some ⟨.arr [] :: frames, .valueOrEnd⟩
  | .openBrace => some ⟨frames, .nameOrEnd []⟩
  | .null => some (close frames .null)
  | .bool b => some (close frames (.bool b))
  | .num n => some (close frames (.num n))
  | .str s => some (close frames (.str s))
  | _ => none

/-- The text after one more token. -/
def Partial.step (p : Partial) (t : Token) : Option Partial :=
  match p.expects, t with
  | .valueOrEnd, .closeBracket =>
    match p.frames with
    | .arr items :: frames => some (close frames (.arr items.reverse))
    | _ => none
  | .valueOrEnd, t => value p.frames t
  | .value, t => value p.frames t
  | .nameOrEnd ms, .closeBrace => some (close p.frames (.obj ms.reverse))
  | .nameOrEnd ms, .str key => some ⟨p.frames, .colon ms key⟩
  | .name ms, .str key => some ⟨p.frames, .colon ms key⟩
  | .colon ms key, .colon => some ⟨.obj ms key :: p.frames, .value⟩
  | .commaOrEnd n, .comma =>
    match p.frames with
    | .arr items :: frames => some ⟨.arr (n :: items) :: frames, .value⟩
    | .obj ms key :: frames => some ⟨frames, .name ((key, n) :: ms)⟩
    | [] => none
  | .commaOrEnd n, .closeBracket =>
    match p.frames with
    | .arr items :: frames => some (close frames (.arr (n :: items).reverse))
    | _ => none
  | .commaOrEnd n, .closeBrace =>
    match p.frames with
    | .obj ms key :: frames => some (close frames (.obj ((key, n) :: ms).reverse))
    | _ => none
  | _, _ => none

/-- The node of a list of tokens that spells exactly one value. -/
def ofTokens? (ts : List Token) : Option Node :=
  match ts.foldlM Partial.step ⟨[], .value⟩ with
  | some ⟨[], .commaOrEnd n⟩ => some n
  | _ => none

/-- The node of a JSON text. -/
def ofBytes? (text : Bytes) : Option Node := (Token.ofBytes? text).bind ofTokens?

/-! ### From nodes to values -/

/-- So many arrays and objects may be nested in a value. -/
def maxDepth : Nat := 127

mutual

/-- The value of a node within which `depth` more arrays and objects may be nested. -/
def value? (depth : Nat) : Node → Option Json
  | .null => some .null
  | .bool b => some (.bool b)
  | .num n => n.map .num
  | .str s => s.map .str
  | .arr items => if depth = 0 then none else (values? (depth - 1) items).map .arr
  | .obj ms => if depth = 0 then none else (members? (depth - 1) ms).map ofMembers

/-- The values of a list of nodes. -/
def values? (depth : Nat) : List Node → Option (List Json)
  | [] => some []
  | n :: ns => (value? depth n).bind fun v => (values? depth ns).map (v :: ·)

/-- The members of an object as written. -/
def members? (depth : Nat) : List (Option String × Node) → Option (List (String × Json))
  | [] => some []
  | (key, n) :: ms => key.bind fun k =>
    (value? depth n).bind fun v => (members? depth ms).map ((k, v) :: ·)

end

end Node

/-- Reads a JSON text as a value. -/
def read? (text : Bytes) : Option Json := (Node.ofBytes? text).bind (Node.value? Node.maxDepth)

end Json

end LogWatch
