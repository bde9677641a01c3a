import LogWatch.Config.Basic

/-!
# Redaction

The address of a receiver may hold credentials: user information before its host, and a query. In a
**redacted** configuration both are replaced by asterisks; the rest stays.
-/

namespace LogWatch

namespace Url

/-- What stands for hidden text. -/
def hidden : List Char := ['*', '*', '*']

/-- The text around the first `://`. -/
def splitScheme? : List Char → Option (List Char × List Char)
  | [] => none
  | c :: cs =>
    match c :: cs with
    | ':' :: '/' :: '/' :: rest => some ([], rest)
    | _ => (splitScheme? cs).map fun (scheme, rest) => (c :: scheme, rest)

/-- The text after the last `@`, if there is one. -/
def afterLastAt? : List Char → Option (List Char)
  | [] => none
  | c :: cs =>
    match afterLastAt? cs with
    | some host => some host
    | none => if c = '@' then some cs else none

/-- The host part with the user information hidden. -/
def hideUser (authority : List Char) : List Char :=
  match afterLastAt? authority with
  | some host => hidden ++ '@' :: host
  | none => authority

/-- An address without a scheme, with its user information and its query hidden. -/
def hideRest (rest : List Char) : List Char :=
  let (before, query) := rest.span (· != '?')
  let (authority, path) := before.span (· != '/')
  hideUser authority ++ path ++ (if query.isEmpty then [] else '?' :: hidden)

/-- An address with its user information and its query hidden. -/
def redactChars (url : List Char) : List Char :=
  match splitScheme? url with
  | some (scheme, rest) => scheme ++ ':' :: '/' :: '/' :: hideRest rest
  | none => hideRest url

/-- An address with its user information and its query hidden. -/
def redact (url : String) : String := String.ofList (redactChars url.toList)

end Url

namespace Config

/-- The configuration with the credentials in the receiver's address hidden. -/
def redacted (c : Config) : Config :=
  { c with delivery := { c.delivery with url := Url.redact c.delivery.url } }

end Config

end LogWatch
