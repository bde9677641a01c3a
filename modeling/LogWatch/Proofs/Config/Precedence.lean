import LogWatch.Host.Launch
import LogWatch.Proofs.Daemon.Setup

/-!
# What goes before what in a configuration

A setting can be given on the command line, in the environment and in the file, and has a default.
Each of these says something of some settings and nothing of the others: it is a **layer**
(`LogWatch.Config.Layer`), and layers are laid one over another. The configuration that the program
works by is the completed pile of the three (`LogWatch.Config.Layer.effective`), and the steps in
which it is put together do nothing but lay on the next layer.

They are checked too early, though. A level or a format of the program's log that is not allowed
stops the program even where the command line replaces it: the file and the environment are checked
before the command line has its say (`LogWatch.Launch.configOf_eq`). Nothing else that is checked
can be set on the command line, and so this is the only case in which what is hidden decides.
-/

namespace LogWatch

namespace Config

/-! ### Layers -/

/-- What a layer says of the general settings. -/
structure Layer.General where
  logLevel : Option String := none
  logFormat : Option String := none
  dataDir : Option String := none
  pidFile : Option String := none
  oneshot : Option Bool := none
  deriving DecidableEq

/-- What a layer says of the exposition of metrics. -/
structure Layer.Metrics where
  enabled : Option Bool := none
  listenAddr : Option String := none
  port : Option Nat := none
  endpoint : Option String := none
  deriving DecidableEq

/-- What a layer says of the delivery of reports. -/
structure Layer.Delivery where
  sink : Option String := none
  url : Option String := none
  timeoutSecs : Option Nat := none
  environment : Option String := none
  release : Option String := none
  spool : Option Bool := none
  retryIntervalSecs : Option Nat := none
  deriving DecidableEq

/-- What a layer says of the state of the host. -/
structure Layer.SystemState where
  enabled : Option Bool := none
  refreshSecs : Option Nat := none
  topProcesses : Option Nat := none
  deriving DecidableEq

/-- **A layer**: some settings, and nothing about the others. -/
structure Layer where
  general : Layer.General := {}
  metrics : Layer.Metrics := {}
  delivery : Layer.Delivery := {}
  systemState : Layer.SystemState := {}
  monitors : Option (List Monitor) := none
  deriving DecidableEq

namespace Layer

/-- A layer above another one: where the upper one says nothing, the lower one is seen. -/
def above (a b : Layer) : Layer where
  general :=
    { logLevel := a.general.logLevel.or b.general.logLevel
      logFormat := a.general.logFormat.or b.general.logFormat
      dataDir := a.general.dataDir.or b.general.dataDir
      pidFile := a.general.pidFile.or b.general.pidFile
      oneshot := a.general.oneshot.or b.general.oneshot }
  metrics :=
    { enabled := a.metrics.enabled.or b.metrics.enabled
      listenAddr := a.metrics.listenAddr.or b.metrics.listenAddr
      port := a.metrics.port.or b.metrics.port
      endpoint := a.metrics.endpoint.or b.metrics.endpoint }
  delivery :=
    { sink := a.delivery.sink.or b.delivery.sink
      url := a.delivery.url.or b.delivery.url
      timeoutSecs := a.delivery.timeoutSecs.or b.delivery.timeoutSecs
      environment := a.delivery.environment.or b.delivery.environment
      release := a.delivery.release.or b.delivery.release
      spool := a.delivery.spool.or b.delivery.spool
      retryIntervalSecs := a.delivery.retryIntervalSecs.or b.delivery.retryIntervalSecs }
  systemState :=
    { enabled := a.systemState.enabled.or b.systemState.enabled
      refreshSecs := a.systemState.refreshSecs.or b.systemState.refreshSecs
      topProcesses := a.systemState.topProcesses.or b.systemState.topProcesses }
  monitors := a.monitors.or b.monitors

/-- The general settings, with their defaults where the layer says nothing. -/
def General.complete (g : Layer.General) : Config.General :=
  let d : Config.General := {}
  { logLevel := g.logLevel.getD d.logLevel
    logFormat := g.logFormat.getD d.logFormat
    dataDir := g.dataDir.getD d.dataDir
    pidFile := g.pidFile.getD d.pidFile
    oneshot := g.oneshot.getD d.oneshot }

/-- The exposition of metrics, with the defaults. -/
def Metrics.complete (m : Layer.Metrics) : Config.Metrics :=
  let d : Config.Metrics := {}
  { enabled := m.enabled.getD d.enabled
    listenAddr := m.listenAddr.getD d.listenAddr
    port := m.port.getD d.port
    endpoint := m.endpoint.getD d.endpoint }

/-- The delivery of reports, with the defaults. -/
def Delivery.complete (l : Layer.Delivery) : Config.Delivery :=
  let d : Config.Delivery := {}
  { sink := l.sink.getD d.sink
    url := l.url.getD d.url
    timeoutSecs := l.timeoutSecs.getD d.timeoutSecs
    environment := l.environment.getD d.environment
    release := l.release.getD d.release
    spool := l.spool.getD d.spool
    retryIntervalSecs := l.retryIntervalSecs.getD d.retryIntervalSecs }

/-- The state of the host, with the defaults. -/
def SystemState.complete (s : Layer.SystemState) : Config.SystemState :=
  let d : Config.SystemState := {}
  { enabled := s.enabled.getD d.enabled
    refreshSecs := s.refreshSecs.getD d.refreshSecs
    topProcesses := s.topProcesses.getD d.topProcesses }

/-- **The configuration of a layer**: what it says, and the defaults. -/
def complete (a : Layer) : Config where
  general := a.general.complete
  metrics := a.metrics.complete
  delivery := a.delivery.complete
  systemState := a.systemState.complete
  monitors := a.monitors.getD []

/-! ### The layers of a configuration -/

/-- What the command line says. -/
def ofCommandLine (line : CommandLine) : Layer where
  general :=
    { logLevel := line.logLevel
      logFormat := line.logFormat
      pidFile := line.pidFile
      oneshot := if line.oneshot then some true else none }

/-- What the environment says: the variables that are set and can be read. -/
def ofEnvironment (env : Environment) : Layer where
  general :=
    { logLevel := env.text? "LOGWARDEN_GENERAL_LOG_LEVEL"
      logFormat := env.text? "LOGWARDEN_GENERAL_LOG_FORMAT"
      dataDir := env.text? "LOGWARDEN_GENERAL_DATA_DIR"
      pidFile := env.text? "LOGWARDEN_GENERAL_PID_FILE"
      oneshot := (env.text? "LOGWARDEN_GENERAL_ONESHOT").bind Environment.flagOf? }
  metrics :=
    { enabled := (env.text? "LOGWARDEN_METRICS_ENABLED").bind Environment.flagOf?
      listenAddr := env.text? "LOGWARDEN_METRICS_LISTEN_ADDR"
      port := (env.text? "LOGWARDEN_METRICS_PORT").bind (Environment.numberOf? 16) }
  delivery :=
    { sink := env.text? "LOGWARDEN_DELIVERY_SINK"
      url := env.text? "LOGWARDEN_DELIVERY_URL"
      timeoutSecs :=
        (env.text? "LOGWARDEN_DELIVERY_TIMEOUT_SECS").bind (Environment.numberOf? 64)
      environment := env.text? "LOGWARDEN_DELIVERY_ENVIRONMENT"
      release := env.text? "LOGWARDEN_DELIVERY_RELEASE"
      spool := (env.text? "LOGWARDEN_DELIVERY_SPOOL").bind Environment.flagOf? }
  systemState :=
    { enabled := (env.text? "LOGWARDEN_SYSTEM_STATE_ENABLED").bind Environment.flagOf? }

/-- A setting that a section gives, or nothing. -/
def given? {α : Type} (l : Lookup) (place : Nat) (name : String) (read : Toml → Option α) :
    Option (Option α) :=
  setting? l place name (fun v => (read v).map some) none

/-- What a section says of the general settings. -/
def General.read? (v : Toml) : Option Layer.General := do
  let l ← lookup? v
  return {
    logLevel := ← given? l 0 "log_level" text?
    logFormat := ← given? l 1 "log_format" text?
    dataDir := ← given? l 2 "data_dir" text?
    pidFile := ← given? l 3 "pid_file" text?
    oneshot := ← given? l 4 "oneshot" flag? }

/-- What a section says of the exposition of metrics. -/
def Metrics.read? (v : Toml) : Option Layer.Metrics := do
  let l ← lookup? v
  return {
    enabled := ← given? l 0 "enabled" flag?
    listenAddr := ← given? l 1 "listen_addr" text?
    port := ← given? l 2 "port" (number? 16)
    endpoint := ← given? l 3 "endpoint" text? }

/-- What a section says of the delivery of reports. -/
def Delivery.read? (v : Toml) : Option Layer.Delivery := do
  let l ← lookup? v
  return {
    sink := ← given? l 0 "sink" text?
    url := ← given? l 1 "url" text?
    timeoutSecs := ← given? l 2 "timeout_secs" (number? 64)
    environment := ← given? l 3 "environment" text?
    release := ← given? l 4 "release" text?
    spool := ← given? l 5 "spool" flag?
    retryIntervalSecs := ← given? l 6 "retry_interval_secs" (number? 64) }

/-- What a section says of the state of the host. -/
def SystemState.read? (v : Toml) : Option Layer.SystemState := do
  let l ← lookup? v
  return {
    enabled := ← given? l 0 "enabled" flag?
    refreshSecs := ← given? l 1 "refresh_secs" (number? 64)
    topProcesses := ← given? l 2 "top_processes" (number? 64) }

/-- What a table says. -/
def ofEntries? (es : Toml.Entries) : Option Layer := do
  let l : Lookup := fun _ name => es.lookup name
  return {
    general := ← setting? l 0 "general" General.read? {}
    metrics := ← setting? l 1 "metrics" Metrics.read? {}
    delivery := ← setting? l 2 "delivery" Delivery.read? {}
    systemState := ← setting? l 3 "system_state" SystemState.read? {}
    monitors := ← given? l 4 "monitors" (items? Monitor.read?) }

/-- What a file says, if it can be read as a configuration. -/
def ofFile? (content : Option Bytes) : Option Layer :=
  ((content.bind Utf8.decode?).bind Toml.read?).bind ofEntries?

/-- What is left without the command line. -/
def withoutCommandLine (env : Environment) (file : Layer) : Layer := (ofEnvironment env).above file

/-- **The layers of a configuration**, one over another. -/
def effective (line : CommandLine) (env : Environment) (file : Layer) : Layer :=
  (ofCommandLine line).above (withoutCommandLine env file)

/-! ### The steps lay one layer over another -/

variable {a b : Layer} {line : CommandLine} {env : Environment}

theorem apply_complete : line.apply b.complete = ((ofCommandLine line).above b).complete := by
  cases hflag : line.oneshot <;>
    simp [CommandLine.apply, ofCommandLine, above, complete, General.complete, Metrics.complete,
      Delivery.complete, SystemState.complete, Option.getD_or, hflag]

theorem or_or_or {α : Type} (x y z : Option α) : x.or (y.or (x.or z)) = x.or (y.or z) := by
  cases x <;> rfl

/-- What is seen does not change when a layer is laid in below once more. -/
theorem above_above_above (a b c : Layer) :
    a.above (b.above (a.above c)) = a.above (b.above c) := by
  simp only [above, or_or_or]

/-- Files that differ in nothing but what the command line hides are seen alike. -/
theorem effective_congr {file file' : Layer}
    (h : (ofCommandLine line).above file' = (ofCommandLine line).above file) :
    effective line env file' = effective line env file := by
  rw [effective, withoutCommandLine, ← above_above_above, h, above_above_above, effective,
    withoutCommandLine]

theorem withEnvironment_complete :
    b.complete.withEnvironment env = (withoutCommandLine env b).complete := by
  simp [withEnvironment, withoutCommandLine, ofEnvironment, above, complete, General.complete,
    Metrics.complete, Delivery.complete, SystemState.complete, Option.getD_or, Environment.text,
    Environment.flag, Environment.number]

/-- Settings that are read in two ways with one result come to the same, default and all. -/
theorem setting?_eq_map {α β : Type} {read : Toml → Option α} {read' : Toml → Option β}
    {default : α} {default' : β} (f : α → β) (hread : ∀ v, read' v = (read v).map f)
    (hdefault : default' = f default) (l : Lookup) (place : Nat) (name : String) :
    setting? l place name read' default' = (setting? l place name read default).map f := by
  simp only [setting?]
  split
  · exact congrArg some hdefault
  · exact hread _

theorem setting?_eq_given? {α : Type} (l : Lookup) (place : Nat) (name : String)
    (read : Toml → Option α) (default : α) :
    setting? l place name read default = (given? l place name read).map (·.getD default) := by
  simp only [setting?, given?]
  split
  · rfl
  · rw [Option.map_map]
    exact Option.map_id'.symm

theorem general_read? (v : Toml) :
    Config.General.read? v = (General.read? v).map General.complete := by
  simp only [Config.General.read?, General.read?, setting?_eq_given?, Option.bind_eq_bind,
    Option.bind_map, Option.map_bind, Function.comp_def]
  rfl

theorem metrics_read? (v : Toml) :
    Config.Metrics.read? v = (Metrics.read? v).map Metrics.complete := by
  simp only [Config.Metrics.read?, Metrics.read?, setting?_eq_given?, Option.bind_eq_bind,
    Option.bind_map, Option.map_bind, Function.comp_def]
  rfl

theorem delivery_read? (v : Toml) :
    Config.Delivery.read? v = (Delivery.read? v).map Delivery.complete := by
  simp only [Config.Delivery.read?, Delivery.read?, setting?_eq_given?, Option.bind_eq_bind,
    Option.bind_map, Option.map_bind, Function.comp_def]
  rfl

theorem systemState_read? (v : Toml) :
    Config.SystemState.read? v = (SystemState.read? v).map SystemState.complete := by
  simp only [Config.SystemState.read?, SystemState.read?, setting?_eq_given?, Option.bind_eq_bind,
    Option.bind_map, Option.map_bind, Function.comp_def]
  rfl

/-- A table is read as what it says, with the defaults. -/
theorem ofEntries?_eq (es : Toml.Entries) :
    Config.ofEntries? es = (ofEntries? es).map complete := by
  have hgeneral (l : Lookup) : setting? l 0 "general" Config.General.read? {} =
      (setting? l 0 "general" General.read? {}).map General.complete :=
    setting?_eq_map _ general_read? (by rfl) l 0 _
  have hmetrics (l : Lookup) : setting? l 1 "metrics" Config.Metrics.read? {} =
      (setting? l 1 "metrics" Metrics.read? {}).map Metrics.complete :=
    setting?_eq_map _ metrics_read? (by rfl) l 1 _
  have hdelivery (l : Lookup) : setting? l 2 "delivery" Config.Delivery.read? {} =
      (setting? l 2 "delivery" Delivery.read? {}).map Delivery.complete :=
    setting?_eq_map _ delivery_read? (by rfl) l 2 _
  have hstate (l : Lookup) : setting? l 3 "system_state" Config.SystemState.read? {} =
      (setting? l 3 "system_state" SystemState.read? {}).map SystemState.complete :=
    setting?_eq_map _ systemState_read? (by rfl) l 3 _
  simp only [Config.ofEntries?, ofEntries?, hgeneral, hmetrics, hdelivery, hstate,
    setting?_eq_given? _ 4 "monitors", Option.bind_eq_bind, Option.bind_map, Option.map_bind,
    Function.comp_def]
  rfl

/-- A file that can be read is read as what it says, with the defaults. -/
theorem ofFile_of_ofFile? {path : String} {content : Option Bytes} {file : Layer}
    (h : ofFile? content = some file) : Config.ofFile path content = .ok file.complete := by
  obtain ⟨es, htext, hentries⟩ := Option.bind_eq_some_iff.mp h
  obtain ⟨text, hdecode, hread⟩ := Option.bind_eq_some_iff.mp htext
  obtain ⟨octets, rfl, hoctets⟩ := Option.bind_eq_some_iff.mp hdecode
  have hparse : Config.parse text = .ok file.complete := by
    rw [Config.parse, hread, Option.bind_some, ofEntries?_eq, hentries]
    rfl
  rw [Config.ofFile, hoctets]
  exact congrArg (Except.mapError Fault.config) hparse

/-- **The files that can be read** as a configuration are those that say something, and what they
are read as is what they say. -/
theorem ofFile_eq_ok_iff {path : String} {content : Option Bytes} {c : Config} :
    Config.ofFile path content = .ok c ↔
      ∃ file, ofFile? content = some file ∧ c = file.complete := by
  constructor
  · intro h
    rw [Config.ofFile.eq_def] at h
    split at h
    · cases h
    · split at h
      · cases h
      · next octets text hdecode =>
        replace h := eq_ok_of_mapError h
        rw [Config.parse] at h
        split at h
        · next c' hread =>
          obtain rfl := Except.ok.inj h
          obtain ⟨es, hes, hentries⟩ := Option.bind_eq_some_iff.mp hread
          rw [ofEntries?_eq] at hentries
          obtain ⟨file, hfile, rfl⟩ := Option.map_eq_some_iff.mp hentries
          refine ⟨file, ?_, rfl⟩
          rw [ofFile?, Option.bind_some, hdecode, Option.bind_some, hes, Option.bind_some, hfile]
        · cases h
  · rintro ⟨file, hfile, rfl⟩
    exact ofFile_of_ofFile? hfile

end Layer

/-! ### Checks -/

variable {c : Config} {g : General}

/-- The checks of all but the general settings. -/
def checkOthers (c : Config) : Except ConfigFault Unit := do
  c.metrics.check
  c.delivery.check
  checkMonitors 0 [] c.monitors

theorem validate_eq_bind : c.validate = c.general.check.bind fun _ => c.checkOthers := rfl

theorem validate_eq_ok_iff :
    c.validate = .ok () ↔ c.general.check = .ok () ∧ c.checkOthers = .ok () := by
  rw [validate_eq_bind]
  cases c.general.check with
  | error e => exact ⟨nofun, fun h => nomatch h.1⟩
  | ok => exact ⟨fun h => ⟨rfl, h⟩, fun h => h.2⟩

theorem validate_of_check (h : c.general.check = .ok ()) : c.validate = c.checkOthers := by
  rw [validate_eq_bind, h]
  rfl

theorem validate_of_check_error {e : ConfigFault} (h : c.general.check = .error e) :
    c.validate = .error e := by
  rw [validate_eq_bind, h]
  rfl

theorem requireOneOf_eq_ok_iff {allowed : List String} {value field : String} :
    requireOneOf allowed value field = .ok () ↔ value ∈ allowed := by
  rw [requireOneOf, refuseIf]
  split
  · next h => exact ⟨nofun, fun hmem => by simp [hmem] at h⟩
  · next h => exact ⟨fun _ => by simpa using h, fun _ => rfl⟩

/-- **What is allowed** for the program's own log. -/
structure General.IsAllowed (g : General) : Prop where
  /-- The level is one of the list. -/
  logLevel : g.logLevel ∈ logLevels
  /-- The format is one of the list. -/
  logFormat : g.logFormat ∈ logFormats

theorem general_check_eq_ok_iff : g.check = .ok () ↔ g.IsAllowed := by
  constructor
  · intro h
    obtain ⟨⟨⟩, hlevel, hformat⟩ := exists_of_bind_eq_ok h
    exact ⟨requireOneOf_eq_ok_iff.mp hlevel, requireOneOf_eq_ok_iff.mp hformat⟩
  · rintro ⟨hlevel, hformat⟩
    rw [General.check, requireOneOf_eq_ok_iff.mpr hlevel]
    exact requireOneOf_eq_ok_iff.mpr hformat

end Config

namespace Launch

open Config

variable {line : CommandLine} {env : Environment} {files : FileTree} {file : Layer}

/-- The command line sets nothing else that is checked. -/
theorem checkOthers_effective (line : CommandLine) (env : Environment) (file : Layer) :
    (Layer.effective line env file).complete.checkOthers =
      (Layer.withoutCommandLine env file).complete.checkOthers := by
  rw [Layer.effective, ← Layer.apply_complete]
  rfl

/-- **How a configuration is loaded**: it is checked without the command line and with it. -/
theorem configOf_eq
    (hfile : Layer.ofFile? (files.read? (FilePath.ofString line.config)) = some file) :
    configOf line env files =
      match (Layer.withoutCommandLine env file).complete.validate with
      | .error e => .error s!"failed to load {line.config}: {(Fault.config e).message}"
      | .ok () =>
        match (Layer.effective line env file).complete.validate with
        | .error e => .error (StartFault.config e).message
        | .ok () => .ok (Layer.effective line env file).complete := by
  have hload : Config.load line.config (files.read? (FilePath.ofString line.config)) env =
      match (Layer.withoutCommandLine env file).complete.validate with
      | .error e => .error (.config e)
      | .ok () => .ok (Layer.withoutCommandLine env file).complete := by
    rw [Config.load, Layer.ofFile_of_ofFile? hfile, ← Layer.withEnvironment_complete]
    generalize hc : file.complete.withEnvironment env = c
    change (do
      ((file.complete.withEnvironment env).validate).mapError Fault.config
      return file.complete.withEnvironment env) = _
    rw [hc]
    cases c.validate <;> rfl
  rw [configOf, hload, Layer.effective, ← Layer.apply_complete]
  generalize (Layer.withoutCommandLine env file).complete = c
  cases c.validate with
  | error e => rfl
  | ok =>
    change (do
      (Daemon.check (line.apply c)).mapError StartFault.message
      return line.apply c) = _
    rw [Daemon.check]
    cases (line.apply c).validate <;> rfl

/-- A configuration is loaded if it is what is seen of the layers, and allowed without the command
line as well. -/
theorem configOf_eq_ok_iff
    (hfile : Layer.ofFile? (files.read? (FilePath.ofString line.config)) = some file) {c : Config} :
    configOf line env files = .ok c ↔
      c = (Layer.effective line env file).complete ∧ c.validate = .ok () ∧
        (Layer.withoutCommandLine env file).complete.general.IsAllowed := by
  rw [configOf_eq hfile]
  constructor
  · intro h
    split at h
    · cases h
    · next hlower =>
      split at h
      · cases h
      · next hvalid =>
        obtain rfl := Except.ok.inj h
        exact ⟨rfl, hvalid, general_check_eq_ok_iff.mp (validate_eq_ok_iff.mp hlower).1⟩
  · rintro ⟨rfl, hvalid, hallowed⟩
    have hlower := validate_eq_ok_iff.mpr ⟨general_check_eq_ok_iff.mpr hallowed,
      (checkOthers_effective line env file).symm.trans (validate_eq_ok_iff.mp hvalid).2⟩
    rw [hlower, hvalid]

/-- What is allowed where the command line says nothing of the log is allowed without it. -/
theorem isAllowed_withoutCommandLine (hlevel : line.logLevel = none)
    (hformat : line.logFormat = none)
    (hvalid : (Layer.effective line env file).complete.validate = .ok ()) :
    (Layer.withoutCommandLine env file).complete.general.IsAllowed := by
  have hallowed := general_check_eq_ok_iff.mp (validate_eq_ok_iff.mp hvalid).1
  rw [Layer.effective, ← Layer.apply_complete, CommandLine.apply, hlevel, hformat] at hallowed
  exact ⟨hallowed.logLevel, hallowed.logFormat⟩

/-- Files that are seen alike are loaded alike, if what is hidden is allowed. -/
theorem configOf_congr {files' : FileTree} {file' : Layer}
    (hfile : Layer.ofFile? (files.read? (FilePath.ofString line.config)) = some file)
    (hfile' : Layer.ofFile? (files'.read? (FilePath.ofString line.config)) = some file')
    (hover : (Layer.ofCommandLine line).above file' = (Layer.ofCommandLine line).above file)
    (hallowed : (Layer.withoutCommandLine env file).complete.general.IsAllowed)
    (hallowed' : (Layer.withoutCommandLine env file').complete.general.IsAllowed) :
    configOf line env files' = configOf line env files := by
  rw [configOf_eq hfile, configOf_eq hfile', Layer.effective_congr hover,
    validate_of_check (general_check_eq_ok_iff.mpr hallowed),
    validate_of_check (general_check_eq_ok_iff.mpr hallowed'),
    ← checkOthers_effective line env file, ← checkOthers_effective line env file',
    Layer.effective_congr hover]

/-- **The outcome is decided by what is seen of the layers**, but for a level or a format of the log
that is not allowed and hidden by the command line. -/
theorem configOf_of_layers
    (hfile : Layer.ofFile? (files.read? (FilePath.ofString line.config)) = some file) :
    (∀ c, configOf line env files = .ok c ↔
      c = (Layer.effective line env file).complete ∧ c.validate = .ok () ∧
        (Layer.withoutCommandLine env file).complete.general.IsAllowed) ∧
      -- the last condition says nothing new where the command line hides no level and no format
      (line.logLevel = none → line.logFormat = none →
        (Layer.effective line env file).complete.validate = .ok () →
        (Layer.withoutCommandLine env file).complete.general.IsAllowed) ∧
      -- where it fails, the file is blamed
      (∀ e, (Layer.withoutCommandLine env file).complete.general.check = .error e →
        configOf line env files =
          .error s!"failed to load {line.config}: {(Fault.config e).message}") ∧
      -- files that differ in nothing but what the command line hides
      ∀ (files' : FileTree) (file' : Layer),
        Layer.ofFile? (files'.read? (FilePath.ofString line.config)) = some file' →
        (Layer.ofCommandLine line).above file' = (Layer.ofCommandLine line).above file →
        (Layer.withoutCommandLine env file).complete.general.IsAllowed →
        (Layer.withoutCommandLine env file').complete.general.IsAllowed →
        configOf line env files' = configOf line env files := by
  refine ⟨fun c => configOf_eq_ok_iff hfile, isAllowed_withoutCommandLine, fun e he => ?_,
    fun files' file' => configOf_congr hfile⟩
  rw [configOf_eq hfile, validate_of_check_error he]

/-! #### A hidden level -/

/-- A command line that names a level, and a file of the configuration. -/
def debugging : CommandLine := { config := "a", logLevel := some "debug" }

/-- Files that are nothing but a configuration with a level of the log. -/
def filesWithLevel (level : String) : FileTree :=
  ⟨[(["a"], .file 0 FileTree.fileMode)],
    [(0, Bytes.ofString ("[general]\nlog_level = '" ++ level ++ "'\n"))], 1⟩

theorem read?_filesWithLevel (level : String) :
    (filesWithLevel level).read? (FilePath.ofString debugging.config) =
      some (Bytes.ofString ("[general]\nlog_level = '" ++ level ++ "'\n")) := by
  have hsplit : "a".splitOn "/" = ["a"] := by
    rw [String.splitOn, String.splitOnAux, String.splitOnAux]
    decide +kernel
  rw [debugging, FilePath.ofString, hsplit]
  rfl

theorem ofFile?_warn :
    Layer.ofFile? ((filesWithLevel "warn").read? (FilePath.ofString debugging.config)) =
      some { general := { logLevel := some "warn" } } := by
  rw [read?_filesWithLevel]
  decide +kernel

theorem ofFile?_verbose :
    Layer.ofFile? ((filesWithLevel "verbose").read? (FilePath.ofString debugging.config)) =
      some { general := { logLevel := some "verbose" } } := by
  rw [read?_filesWithLevel]
  decide +kernel

/-- A level that is not allowed stops the program, though the command line hides it; one that is
allowed gives way to that of the command line. -/
theorem configOf_of_layers_hidden_level :
    configOf debugging [] (filesWithLevel "warn") = .ok { general := { logLevel := "debug" } } ∧
      configOf debugging [] (filesWithLevel "verbose") =
        .error ("failed to load a: config error: invalid config value for 'general.log_level': " ++
          "must be one of: trace, debug, info, warn, error") := by
  constructor
  · exact ((configOf_of_layers ofFile?_warn).1 _).mpr
      ⟨rfl, rfl, by decide +kernel, by decide +kernel⟩
  · exact ((configOf_of_layers ofFile?_verbose).2.2.1 _ rfl).trans
      (congrArg Except.error (by decide +kernel))

/-- **What is hidden decides**: of two files that differ in nothing but the level that the command
line replaces, one is loaded and the other is not. -/
theorem exists_refused_for_hidden_level :
    ∃ (line : CommandLine) (files files' : FileTree) (file file' : Layer) (c : Config),
      Layer.ofFile? (files.read? (FilePath.ofString line.config)) = some file ∧
      Layer.ofFile? (files'.read? (FilePath.ofString line.config)) = some file' ∧
      (Layer.ofCommandLine line).above file' = (Layer.ofCommandLine line).above file ∧
      (Layer.effective line [] file').complete = c ∧ c.validate = .ok () ∧
      configOf line [] files = .ok c ∧ ∀ c', configOf line [] files' ≠ .ok c' := by
  have hvalid : Config.validate { general := { logLevel := "debug" } } = .ok () := rfl
  refine ⟨debugging, filesWithLevel "warn", filesWithLevel "verbose", _, _,
    { general := { logLevel := "debug" } }, ofFile?_warn, ofFile?_verbose, rfl, rfl, hvalid, ?_,
    fun c' hc' => ?_⟩
  · rw [configOf_eq ofFile?_warn]
    rfl
  · rw [configOf_eq ofFile?_verbose] at hc'
    cases hc'

end Launch

end LogWatch
