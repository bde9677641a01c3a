/-!
# Command lines without their secrets

The state of the host lists commands with their arguments. A value that looks like a credential is
replaced before it is shown: the text after the equals sign of an argument with a secret name, and
the argument after a secret flag or after a secret name.

What follows a **secret flag** is hidden, whatever it begins with. What follows a **secret key**, a
name that only looks like that of a secret, is hidden unless it begins with a hyphen. An argument
that is hidden hides nothing itself, even if it is a secret flag.
-/

namespace LogWatch

namespace Sanitizer

/-- What stands for a hidden value. -/
def hidden : String := "[REDACTED]"

/-- Flags whose next argument is a secret, in any case of their letters. -/
def secretFlags : List String := [
  "--password", "--token", "--api-key", "--apikey", "--secret", "--client-secret",
  "--access-token", "--auth-token", "--session-id"]

/-- Names that are those of secrets. -/
def secretNames : List String := ["password", "token", "secret", "key", "auth"]

/-- Ends of names of secrets. -/
def secretEnds : List String := [
  "password", "token", "secret", "_key", "-key", ".key", "signature", "credential", "cookie",
  "session"]

/-- The character separates the parts of a name. -/
def isSeparator (c : Char) : Bool := c == '-' || c == '_' || c == '.'

/-- The characters with the ASCII letters in lower case. -/
def lower (cs : List Char) : List Char := cs.map Char.toLower

/-- The argument is a secret flag. -/
def isSecretFlag (arg : List Char) : Bool := secretFlags.any fun flag => flag.toList == lower arg

/-- What stands before an end that the name has. -/
def before? (name ending : List Char) : Option (List Char) :=
  if ending.isSuffixOf name then some (name.take (name.length - ending.length)) else none

/-- The name has that end, as a part of its own or with a separator in front. -/
def endsIn (name ending : List Char) : Bool :=
  match before? name ending with
  | none => false
  | some head =>
    head.isEmpty || ending.head?.any isSeparator || head.getLast?.any isSeparator

/-- The name is that of a secret. -/
def isSecretName (name : List Char) : Bool :=
  let name := lower name
  secretNames.any (fun secret => secret.toList == name)
    || secretEnds.any fun ending => endsIn name ending.toList

/-- The argument without the hyphens in front. -/
def bare (arg : List Char) : List Char := arg.dropWhile (· == '-')

/-- The argument, up to an equals sign that it may have, is that of a secret. -/
def isSecret (key : List Char) : Bool := isSecretName (bare key) || isSecretFlag key

/-- What an argument with an equals sign becomes. -/
def assignment (arg key : List Char) : String :=
  if isSecret key then String.ofList key ++ "=" ++ hidden else String.ofList arg

/-- The argument after an argument without an equals sign is hidden. -/
def hidesNext (arg next : List Char) : Bool :=
  isSecretFlag arg || (isSecretName (bare arg) && next.head? != some '-')

/-- What arguments become; the first of them is hidden if `hide`. -/
def tokens (hide : Bool) : List String → List String
  | [] => []
  | arg :: rest =>
    if hide then hidden :: tokens false rest
    else
      match arg.toList.span (· != '=') with
      | (key, _ :: _) => assignment arg.toList key :: tokens false rest
      | (_, []) =>
        let hideNext :=
          match rest with
          | [] => false
          | next :: _ => hidesNext arg.toList next.toList
        arg :: tokens hideNext rest

/-- A command line, its arguments separated by spaces, without its secrets. -/
def commandLine (args : List String) : String := " ".intercalate (tokens false args)

end Sanitizer

end LogWatch
