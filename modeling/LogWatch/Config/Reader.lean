import LogWatch.Config.Basic
import LogWatch.Toml.Reader

/-!
# Reading a configuration

A section is a table, of which unknown keys are passed over and missing ones take their defaults. It
may also be an array of its settings in their order, of which some may be missing at the end.
-/

namespace LogWatch

namespace Config

/-- The settings of a section: by place or by name. -/
abbrev Lookup := Nat → String → Option Toml

/-- The settings that a value holds. -/
def lookup? : Toml → Option Lookup
  | .table _ es => some fun _ name => es.lookup name
  | .arr items => some fun place _ => items[place]?
  | .tables reversed => some fun place _ => reversed.reverse[place]?
  | .date => some fun _ _ => none
  | _ => none

/-- A text. -/
def text? : Toml → Option String
  | .str s => some s
  | _ => none

/-- A truth value. -/
def flag? : Toml → Option Bool
  | .bool b => some b
  | _ => none

/-- A number of at most so many bits. -/
def number? (bits : Nat) : Toml → Option Nat
  | .int n => if 0 ≤ n ∧ n < (Nat.pow 2 bits : Int) then some n.toNat else none
  | _ => none

/-- The items of an array, each read by `read`. -/
def items? {α : Type} (read : Toml → Option α) : Toml → Option (List α)
  | .arr items => items.mapM read
  | .tables reversed => reversed.reverse.mapM read
  | _ => none

/-- One setting, or its default. -/
def setting? {α : Type} (l : Lookup) (place : Nat) (name : String) (read : Toml → Option α)
    (default : α) : Option α :=
  match l place name with
  | none => some default
  | some v => read v

/-- The general settings. -/
def General.read? (v : Toml) : Option General := do
  let l ← lookup? v
  let d : General := {}
  return {
    logLevel := ← setting? l 0 "log_level" text? d.logLevel
    logFormat := ← setting? l 1 "log_format" text? d.logFormat
    dataDir := ← setting? l 2 "data_dir" text? d.dataDir
    pidFile := ← setting? l 3 "pid_file" text? d.pidFile
    oneshot := ← setting? l 4 "oneshot" flag? d.oneshot }

/-- The settings of the exposition. -/
def Metrics.read? (v : Toml) : Option Metrics := do
  let l ← lookup? v
  let d : Metrics := {}
  return {
    enabled := ← setting? l 0 "enabled" flag? d.enabled
    listenAddr := ← setting? l 1 "listen_addr" text? d.listenAddr
    port := ← setting? l 2 "port" (number? 16) d.port
    endpoint := ← setting? l 3 "endpoint" text? d.endpoint }

/-- The settings of delivery. -/
def Delivery.read? (v : Toml) : Option Delivery := do
  let l ← lookup? v
  let d : Delivery := {}
  return {
    sink := ← setting? l 0 "sink" text? d.sink
    url := ← setting? l 1 "url" text? d.url
    timeoutSecs := ← setting? l 2 "timeout_secs" (number? 64) d.timeoutSecs
    environment := ← setting? l 3 "environment" text? d.environment
    release := ← setting? l 4 "release" text? d.release
    spool := ← setting? l 5 "spool" flag? d.spool
    retryIntervalSecs := ← setting? l 6 "retry_interval_secs" (number? 64) d.retryIntervalSecs }

/-- The settings of the host's state. -/
def SystemState.read? (v : Toml) : Option SystemState := do
  let l ← lookup? v
  let d : SystemState := {}
  return {
    enabled := ← setting? l 0 "enabled" flag? d.enabled
    refreshSecs := ← setting? l 1 "refresh_secs" (number? 64) d.refreshSecs
    topProcesses := ← setting? l 2 "top_processes" (number? 64) d.topProcesses }

/-- The settings of a monitor. -/
def Monitor.read? (v : Toml) : Option Monitor := do
  let l ← lookup? v
  let d : Monitor := {}
  return {
    name := ← setting? l 0 "name" text? d.name
    sourceType := ← setting? l 1 "type" text? d.sourceType
    path := ← setting? l 2 "path" text? d.path
    args := ← setting? l 3 "args" (items? text?) d.args
    format := ← setting? l 4 "format" text? d.format
    pattern := ← setting? l 5 "pattern" text? d.pattern
    excludePattern := ← setting? l 6 "exclude_pattern" text? d.excludePattern
    rateLimitBurst := ← setting? l 7 "rate_limit_burst" (number? 32) d.rateLimitBurst
    rateLimitWindow := ← setting? l 8 "rate_limit_window" text? d.rateLimitWindow
    maxInactivity := ← setting? l 9 "max_inactivity" text? d.maxInactivity
    stopOnEof := ← setting? l 10 "stop_on_eof" flag? d.stopOnEof }

/-- The configuration that a table holds. -/
def ofEntries? (es : Toml.Entries) : Option Config := do
  let l : Lookup := fun _ name => es.lookup name
  return {
    general := ← setting? l 0 "general" General.read? {}
    metrics := ← setting? l 1 "metrics" Metrics.read? {}
    delivery := ← setting? l 2 "delivery" Delivery.read? {}
    systemState := ← setting? l 3 "system_state" SystemState.read? {}
    monitors := ← setting? l 4 "monitors" (items? Monitor.read?) [] }

/-- The configuration that a text spells. -/
def parse (text : String) : Except ConfigFault Config :=
  match (Toml.read? text).bind ofEntries? with
  | some c => .ok c
  | none => .error (.unreadable Fault.unreadableConfig)

end Config

end LogWatch
