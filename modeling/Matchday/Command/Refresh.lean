import Matchday.Command.Arguments
import Matchday.Command.Basic
import Matchday.Config.Check
import Matchday.Config.Read
import Matchday.Decimal.Read
import Matchday.Feed.Client
import Matchday.Refresh.Run
import Matchday.Storage.Folder
import Matchday.Storage.Memory
import Matchday.Text.Quoted

/-!
# Refreshing a site

The settings are read from a file, changed by the options on the command line and checked.  Then a
refresh run writes to the output folder, or to memory only when the run is a trial.

## Main definitions

* `RefreshOptions.ofWords`: the options on a command line.
* `RefreshOptions.override`: settings changed by options.
* `World`: what the command needs from outside.
* `refreshSite`: the whole command.
-/

namespace Matchday

/-- What the words of the command ask for. -/
structure RefreshOptions where
  configFile : String := "football-site.toml"
  verbose : Bool := false
  monitor : Bool := false
  minSuccessRate : Option Float := none
  output : Option String := none
  /-- Whether files are written to memory only. -/
  dryRun : Bool := false
  /-- Whether the report is printed as JSON. -/
  json : Bool := false
deriving Repr, Inhabited

namespace RefreshOptions

/-! ### The command line -/

/-- The share that a word writes. -/
def rate (s : String) : Except UsageError Float :=
  match Decimal.read? s with
  | some x => .ok x
  | none => .error .malformedValue

/-- The arguments of the command. -/
def arguments : List (Argument RefreshOptions) := [
  { name := "config", letter := some 'c'
    action := .value fun o s => return { o with configFile := s } },
  { name := "verbose", letter := some 'v', action := .flag fun o => { o with verbose := true } },
  { name := "monitor", action := .flag fun o => { o with monitor := true } },
  { name := "min-success-rate"
    action := .value fun o s => return { o with minSuccessRate := some (← rate s) } },
  { name := "output", letter := some 'o'
    action := .value fun o s => return { o with output := some s } },
  { name := "dry-run", action := .flag fun o => { o with dryRun := true } },
  { name := "json", action := .flag fun o => { o with json := true } },
  .help]

/-- The options on a command line. -/
def ofWords (words : List String) : Except UsageError RefreshOptions :=
  Argument.readAll arguments {} words

/-! ### Settings -/

/-- Settings changed by options. -/
def override (o : RefreshOptions) (c : Config) : Config where
  site := c.site
  api := c.api
  fetch := { c.fetch with minSuccessRate := o.minSuccessRate.getD c.fetch.minSuccessRate }
  output := { c.output with path := o.output.getD c.output.path }
  monitoring := if o.monitor then some { enabled := true } else c.monitoring

/-- What is logged about settings that the command line replaces. -/
def overrideLog (o : RefreshOptions) : List LogLine :=
  o.minSuccessRate.toList.map
    (fun x => ⟨.info, s!"🔧 min_success_rate overridden to: {Decimal.plain x}"⟩) ++
  o.output.toList.map fun path => ⟨.info, s!"🔧 output path overridden to: {path}"⟩

/-! ### The log -/

/-- What is logged at the start. -/
def startLog (o : RefreshOptions) : List LogLine :=
  [⟨.info, "🚀 Starting football-site refresh"⟩,
    ⟨.info, s!"📁 Loading configuration from: {o.configFile}"⟩]

/-- An optional value as the log shows it. -/
def shown (text : α → String) : Option α → String
  | some x => "Some(" ++ text x ++ ")"
  | none => "None"

/-- The options as the log shows them. -/
def text (o : RefreshOptions) : String :=
  let fields := [
    ("config", Text.quote o.configFile), ("verbose", toString o.verbose),
    ("monitor", toString o.monitor),
    ("min_success_rate", shown Decimal.withBarePower o.minSuccessRate),
    ("output", shown Text.quote o.output), ("dry_run", toString o.dryRun),
    ("json", toString o.json)]
  "CliConfig \x7b " ++ ", ".intercalate (fields.map fun (name, value) => name ++ ": " ++ value) ++
    " \x7d"

/-- What is logged about the settings of a run. -/
def configLog (o : RefreshOptions) (c : Config) : List LogLine :=
  [⟨.info, "✅ Configuration loaded and validated successfully"⟩,
    ⟨.info, s!"📋 Site: {c.site.name}"⟩, ⟨.info, s!"📡 API: {c.api.baseUrl}"⟩,
    ⟨.info, s!"⚽ Season {c.seasonLabel}: {c.fetch.countries.length} countries, {c.leaguesRequested} leagues, min success rate {Decimal.fixed 2 c.fetch.minSuccessRate}"⟩,
    ⟨.info, s!"📁 Output: {c.output.path}/{c.output.siteDir}"⟩] ++
  (if c.monitoringEnabled then [⟨.info, "🔍 System monitoring enabled"⟩] else []) ++
  [⟨.debug, s!"CLI args: {o.text}"⟩]

end RefreshOptions

/-! ### Results -/

/-- The result of a command that cannot start. -/
def SiteError.startupFailure (step : String) (e : SiteError) : CommandResult where
  exitCode := 1
  complaints := ["❌ " ++ e.userMessage, "💡 " ++ e.suggestion]
  log := [
    ⟨.error, s!"❌ {step}: {e.message} (Category: {e.category.name}, Severity: {e.severity.name})"⟩,
    ⟨.error, s!"💡 Suggestion: {e.suggestion}"⟩]

/-- What is printed at the end of a run. -/
def RefreshResult.output (r : RefreshResult) (json : Bool) : List String :=
  if json then [(Json.object r.members).pretty]
  else [(if r.isSuccess then "✅" else "❌") ++ " Refresh finished", r.summary]

/-- The result of a command whose run has ended. -/
def RefreshRun.commandResult (r : RefreshRun) (o : RefreshOptions) : CommandResult where
  exitCode := r.result.outcome.exitCode
  output := r.result.output o.json
  log := r.log

/-- A result with log lines before its own. -/
def CommandResult.after (log : List LogLine) (r : CommandResult) : CommandResult :=
  { r with log := log ++ r.log }

/-! ### The command -/

/-- What the command needs from outside. -/
structure World (m : Type → Type) where
  files : FileSystem m
  /-- The value of a variable of the environment. -/
  lookUp : String → m (Option String)
  /-- Sends a call to the provider. -/
  send : Feed.Call → m Feed.Exchange

section Run

variable {m : Type → Type} [Monad m]

/-- The variables that the placeholders of a text ask for. -/
def World.environment (w : World m) (text : String) : m (String → Option String) := do
  let values ← (Placeholder.names text).mapM fun name => return (name, ← w.lookUp name)
  return fun name => (values.lookup name).join

/-- The text of a file. -/
def World.readText (w : World m) (path : String) : m (Except OsError String) := do
  match ← w.files.readFile path with
  | .error e => return .error e
  | .ok bytes =>
    match String.fromUTF8? bytes with
    | some text => return .ok text
    | none => return .error (.other "stream did not contain valid UTF-8")

/-- The settings in a file. -/
def World.readConfig (w : World m) (path : String) : m (Except SiteError Config) := do
  match ← w.readText path with
  | .error e => return .error (.config s!"cannot read {path}: {e.message}")
  | .ok text => return Config.ofText (← w.environment text) text

/-- A run that writes to a memory, with the paths that it leaves there. -/
def trialRun (client : FixtureClient m) (config : Config) : m (RefreshRun × List String) := do
  let client : FixtureClient (StateT Memory m) := fun request => liftM (client request)
  let (run, memory) ← (refresh .standard client Memory.storage config).run .empty
  return (run, memory.keys)

/-- Runs with settings that are checked. -/
def runRefresh [UrlReader] (w : World m) (o : RefreshOptions) (config : Config) : m CommandResult := do
  let client := Feed.client w.send config.api
  if o.dryRun then
    let (run, paths) ← trialRun client config
    let result := (run.commandResult o).after
      [⟨.info, "🔍 DRY RUN MODE - files are kept in memory"⟩]
    return { result with
      log := result.log ++ paths.map fun path => ⟨.info, s!"🔍 would write: {path}"⟩ }
  else
    let storage := Storage.folder w.files config.output.path
    return (← refresh .standard client storage config).commandResult o

/-- Refreshes a site. -/
def refreshSite [UrlReader] (w : World m) (o : RefreshOptions) : m CommandResult := do
  match ← w.readConfig o.configFile with
  | .error e =>
    return (e.startupFailure s!"Failed to load config '{o.configFile}'").after o.startLog
  | .ok config =>
    let config := o.override config
    let log := o.startLog ++ o.overrideLog
    match config.validate with
    | .error e => return (e.startupFailure "Configuration validation failed").after log
    | .ok () => return (← runRefresh w o config).after (log ++ o.configLog config)

end Run

end Matchday
