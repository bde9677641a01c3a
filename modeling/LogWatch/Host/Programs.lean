import LogWatch.Text.Octets

/-!
# The programs of a host

A host offers a few small programs, enough to write lines: `echo`, `printf`, `seq`, those that write
nothing, and a shell that runs them one after another. A program is started without input; what it
writes comes all at once, and what it writes to its error output is lost.
-/

namespace LogWatch

namespace Program

/-! ### Writing with escapes -/

/-- The octets of a character. -/
def octetsOf (c : Char) : Bytes := Bytes.ofString c.toString

/-- What a backslash with a letter stands for. -/
def escape? : Char → Option UInt8
  | 'n' => some 10
  | 't' => some 9
  | 'r' => some 13
  | 'a' => some 7
  | 'b' => some 8
  | 'f' => some 12
  | 'v' => some 11
  | '\\' => some 92
  | _ => none

/-- The character is a digit in base eight. -/
def isOctal (c : Char) : Bool := '0' ≤ c && c ≤ '7'

/-- The value of digits in base eight, as an octet. -/
def octalValue (ds : List Char) : UInt8 :=
  (ds.foldl (fun (n : Nat) (c : Char) => n * 8 + (c.toNat - 48)) 0).toUInt8

/-- A text in which backslashes have their meaning, with fuel for its characters. -/
def unescape : Nat → List Char → Bytes
  | 0, _ => []
  | _, [] => []
  | fuel + 1, '\\' :: c :: cs =>
    match escape? c with
    | some b => b :: unescape fuel cs
    | none =>
      if isOctal c then
        let ds := (c :: cs).take 3 |>.takeWhile isOctal
        octalValue ds :: unescape fuel ((c :: cs).drop ds.length)
      else octetsOf '\\' ++ octetsOf c ++ unescape fuel cs
  | fuel + 1, c :: cs => octetsOf c ++ unescape fuel cs

/-- A text in which backslashes have their meaning. -/
def escaped (cs : List Char) : Bytes := unescape cs.length cs

/-- A format with its arguments, with fuel for its characters; what it writes, and the arguments
that it has not used. -/
def format : Nat → List Char → List String → Bytes × List String
  | 0, _, args => ([], args)
  | _, [], args => ([], args)
  | fuel + 1, '%' :: '%' :: cs, args =>
    let (out, args) := format fuel cs args
    (37 :: out, args)
  | fuel + 1, '%' :: 's' :: cs, args =>
    let (out, rest) := format fuel cs args.tail
    (Bytes.ofString (args.headD "") ++ out, rest)
  | fuel + 1, '%' :: 'd' :: cs, args =>
    let (out, rest) := format fuel cs args.tail
    (Bytes.ofString (args.headD "0") ++ out, rest)
  | fuel + 1, '\\' :: c :: cs, args =>
    let ds := (c :: cs).take 3 |>.takeWhile isOctal
    let taken := if (escape? c).isSome then 1 else max ds.length 1
    let (out, rest) := format fuel ((c :: cs).drop taken) args
    (escaped ('\\' :: (c :: cs).take taken) ++ out, rest)
  | fuel + 1, c :: cs, args =>
    let (out, rest) := format fuel cs args
    (octetsOf c ++ out, rest)

/-- A format used again as long as there are arguments and it uses them, with fuel for these. -/
def formatAll : Nat → List Char → List String → Bytes
  | 0, _, _ => []
  | fuel + 1, cs, args =>
    let (out, rest) := format cs.length cs args
    if rest.isEmpty || rest.length == args.length then out else out ++ formatAll fuel cs rest

/-- What `printf` writes. -/
def printf : List String → Bytes
  | [] => []
  | f :: args => formatAll (args.length + 1) f.toList args

/-- What `echo` writes; in a shell, backslashes have their meaning. -/
def echo (inShell : Bool) (args : List String) : Bytes :=
  let (quiet, args) : Bool × List String :=
    match args with
    | "-n" :: rest => (true, rest)
    | _ => (false, args)
  let text := " ".intercalate args
  let octets := if inShell then escaped text.toList else Bytes.ofString text
  if quiet then octets else octets ++ [10]

/-- The numbers from `first` on, one to a line. -/
def numbers (first count : Nat) : Bytes :=
  (List.range count).flatMap fun i => Bytes.ofString (toString (first + i) ++ "\n")

/-- What `seq` writes. -/
def seq (args : List String) : Bytes :=
  match args.map String.toNat? with
  | [some last] => numbers 1 last
  | [some first, some last] => numbers first (last + 1 - first)
  | _ => []

/-! ### Running -/

/-- The programs that write nothing. -/
def silent : List String := ["true", "false", "cat", "sleep", ":"]

/-- What a program other than a shell writes, if there is such a program. -/
def simple? (inShell : Bool) (name : String) (args : List String) : Option Bytes :=
  if silent.contains name then some []
  else if name == "echo" then some (echo inShell args)
  else if name == "printf" then some (printf args)
  else if name == "seq" then some (seq args)
  else none

/-- How the shell reads a character: inside quotes of that kind, or outside. -/
abbrev Quote := Option Char

/-- The words of a script, command by command, given what has been read in reverse. -/
def splitWords (quote : Quote) (word : Option (List Char)) (words : List String)
    (commands : List (List String)) : List Char → List (List String)
  | [] =>
    let words := match word with
      | some w => String.ofList w.reverse :: words
      | none => words
    (words.reverse :: commands).reverse
  | c :: cs =>
    match quote with
    | some q =>
      if c = q then splitWords none (some (word.getD [])) words commands cs
      else splitWords quote (some (c :: word.getD [])) words commands cs
    | none =>
      if c = '\'' || c = '"' then splitWords (some c) (some (word.getD [])) words commands cs
      else if c = ' ' || c = '\t' || c = ';' || c = '\n' then
        let words := match word with
          | some w => String.ofList w.reverse :: words
          | none => words
        if c = ';' || c = '\n' then splitWords none none [] (words.reverse :: commands) cs
        else splitWords none none words commands cs
      else splitWords none (some (c :: word.getD [])) words commands cs

/-- A word that sends the output elsewhere. -/
def redirections : List String := [">&2", "1>&2", ">/dev/null", "1>/dev/null"]

/-- What the commands of a script write. -/
def runCommands : List (List String) → Bytes
  | [] => []
  | [] :: rest => runCommands rest
  | ("exit" :: _) :: _ => []
  | (name :: args) :: rest =>
    let out := (simple? true name (args.filter fun a => !redirections.contains a)).getD []
    let seen := if args.any redirections.contains then [] else out
    seen ++ runCommands rest

/-- The directories in which programs are. -/
def directories : List String := ["/bin/", "/usr/bin/"]

/-- The name of a program without the directory that it is in. -/
def baseName (name : String) : String :=
  match directories.find? fun d => d.toList.isPrefixOf name.toList with
  | some d => String.ofList (name.toList.drop d.length)
  | none => name

/-- What a program writes, if there is such a program. -/
def output? (name : String) (args : List String) : Option Bytes :=
  match baseName name, args with
  | "sh", "-c" :: script :: _ => some (runCommands (splitWords none none [] [] script.toList))
  | "sh", _ => some []
  | base, _ => simple? false base args

end Program

end LogWatch
