import LogWatch.Config.Basic
import LogWatch.Toml.Writer

/-!
# Writing a configuration

A configuration is written as a JSON value, or as the TOML text that would be read back as the same
configuration. In the text a section follows its header; the monitors come last, and an empty list
of them comes first.
-/

namespace LogWatch

namespace Config

/-- A setting as a JSON value. -/
def Setting.json : Setting → Json
  | .text s => .str s
  | .flag b => .bool b
  | .number n => .ofNat n
  | .texts ss => .arr (ss.map .str)

/-- Settings as a JSON object. -/
def settingsJson (ss : Settings) : Json := Json.ofMembers (ss.map fun (k, v) => (k, v.json))

/-- A configuration as a JSON value. -/
def json (c : Config) : Json :=
  Json.ofMembers ((c.sections.map fun (k, ss) => (k, settingsJson ss))
    ++ [("monitors", .arr (c.monitors.map fun m => settingsJson m.settings))])

/-- A setting as it is written in the text. -/
def Setting.toml : Setting → String
  | .text s => Toml.quoted s
  | .flag b => if b then "true" else "false"
  | .number n => toString n
  | .texts ss => Toml.textArray ss

/-- A section as it is written in the text, with its header. -/
def sectionToml (header : String) (ss : Settings) : String :=
  header ++ "\n" ++ String.join (ss.map fun (k, v) => k ++ " = " ++ v.toml ++ "\n")

/-- A configuration as a text. -/
def toml (c : Config) : String :=
  let front := if c.monitors.isEmpty then ["monitors = []\n"] else []
  let middle := c.sections.map fun (k, ss) => sectionToml s!"[{k}]" ss
  let back := c.monitors.map fun m => sectionToml "[[monitors]]" m.settings
  "\n".intercalate (front ++ middle ++ back)

end Config

end LogWatch
