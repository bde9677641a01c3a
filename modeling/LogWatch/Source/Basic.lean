import LogWatch.Config.Environment

/-!
# Sources of lines

Where the lines of a monitor come from: a file, which is read once or followed as it grows, the
output of a program, the messages that arrive at a socket, or the standard input. Where a source has
a finite form, a monitor that stops at the end of its stream takes that form.
-/

namespace LogWatch

namespace Source

/-- How syslog messages arrive. -/
inductive Transport
  /-- One message to a datagram. -/
  | udp
  /-- Lines of a connection. -/
  | tcp
  deriving DecidableEq

/-- A kind of source. -/
inductive Kind
  /-- A file, which is followed as it grows or read once. -/
  | file (path : String) (follow : Bool)
  /-- The output of a program. -/
  | program (name : String) (args : List String)
  /-- Messages that arrive at an address. -/
  | syslog (transport : Transport) (address : String)
  /-- The standard input. -/
  | stdin
  deriving DecidableEq

end Source

/-- A source with its name. -/
structure Source where
  /-- The name. -/
  name : String
  /-- Where the lines come from. -/
  kind : Source.Kind
  deriving DecidableEq

namespace Source

/-- The text after the words in front of it. -/
def after? (words : String) (cs : List Char) : Option (List Char) :=
  if words.toList.isPrefixOf cs then some (cs.drop words.length) else none

/-- The transport that an address begins with, by datagrams unless it says otherwise. -/
def splitTransport (cs : List Char) : Transport × List Char :=
  match after? "tcp:" cs with
  | some rest => (.tcp, rest)
  | none =>
    match after? "udp:" cs with
    | some rest => (.udp, rest)
    | none => (.udp, cs)

/-- The text around the last colon. -/
def splitPort? (cs : List Char) : Option (List Char × List Char) :=
  match cs.reverse.span (· != ':') with
  | (port, _ :: host) => some (host.reverse, port.reverse)
  | (_, []) => none

/-- The host stands in brackets. -/
def isBracketed (host : List Char) : Bool := host.head? == some '[' && host.getLast? == some ']'

/-- The transport and the address that a text names: `[udp:|tcp:]host:port`. -/
def listenAddress? (text : String) : Option (Transport × String) := do
  let (transport, address) := splitTransport (Blank.trimChars text.toList)
  let (host, port) ← splitPort? address
  let _ ← Environment.numberOf? 16 (String.ofList port)
  if host.isEmpty || (host.contains ':' && !isBracketed host) then none
  else return (transport, String.ofList address)

/-- The host has no program of that name. -/
def notStarted (source program : String) : SourceFault :=
  .openFailed source s!"failed to start '{program}': {Fault.noSuchFile}"

/-- The host has no file of that name. -/
def notOpened (source path : String) : SourceFault :=
  .openFailed source s!"{path}: {Fault.noSuchFile}"

/-- The source of a configured monitor, in its finite form if it has one and is asked for. -/
def ofConfig (m : Config.Monitor) (finite : Bool) : Except SourceFault Source :=
  match m.sourceType with
  | "file" => .ok ⟨m.name, .file m.path (!finite)⟩
  | "command" => .ok ⟨m.name, .program m.path m.args⟩
  | "dmesg" => .ok ⟨m.name, .program "dmesg" (if finite then [] else ["-w"])⟩
  | "journalctl" =>
    let follow := if finite then [] else ["-f"]
    .ok ⟨m.name, .program "journalctl" (follow ++ ["-o", "short-iso"] ++ m.args)⟩
  | "syslog" =>
    match listenAddress? m.path with
    | some (transport, address) => .ok ⟨m.name, .syslog transport address⟩
    | none =>
      .error (.openFailed m.name
        s!"invalid syslog listen address '{m.path}', expected [udp:|tcp:]host:port")
  | "stdin" => .ok ⟨m.name, .stdin⟩
  | other => .error (.openFailed m.name s!"unknown source type '{other}'")

/-- A monitor stops at the end of its stream: it is told to, all are, or the stream is the standard
input, which cannot be opened again. -/
def stopsAtEnd (g : Config.General) (m : Config.Monitor) : Bool :=
  g.oneshot || m.stopOnEof || m.sourceType == "stdin"

end Source

end LogWatch
