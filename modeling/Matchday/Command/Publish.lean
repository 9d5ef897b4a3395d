import Matchday.Command.Arguments
import Matchday.Command.Basic
import Matchday.Page.Compile
import Matchday.Page.Written
import Matchday.Storage.Folder

/-!
# Publishing documents

Documents are read from files, checked against the rules and written as pages to a folder.  A
single document has to be valid: whatever is wrong with it ends the command.  Of several documents,
or of those in a folder, the ones with faults are skipped.

## Main definitions

* `PublishOptions.ofWords`: the options on a command line.
* `publishDocument`: reads, checks and writes one document.
* `publish`: the whole command.
-/

namespace Matchday

/-- Where documents come from. -/
inductive DocumentSource where
  /-- One document that has to be valid. -/
  | single (path : String)
  | several (paths : List String)
  /-- The documents in a folder. -/
  | folder (path : String)
deriving DecidableEq, Repr, Inhabited

/-- What the words of the command ask for. -/
structure PublishOptions where
  source : DocumentSource
  output : String
  /-- Whether the model text is written beside the pages. -/
  emitModel : Bool
  verbose : Bool
deriving DecidableEq, Repr, Inhabited

/-! ### The command line -/

/-- The options given so far. -/
structure PublishDraft where
  single : Option String := none
  several : List String := []
  folder : Option String := none
  output : Option String := none
  emitModel : Bool := false
  verbose : Bool := false

namespace PublishDraft

/-- A path must not be empty. -/
def path (s : String) : Except UsageError String :=
  if s.isEmpty then .error .missingValue else .ok s

/-- The arguments of the command. -/
def arguments : List (Argument PublishDraft) := [
  { name := "model"
    action := .value fun d s => return { d with single := some (← path s) } },
  { name := "models"
    action := .values fun d s => return { d with several := d.several ++ [← path s] } },
  { name := "models-dir"
    action := .value fun d s => return { d with folder := some (← path s) } },
  { name := "output"
    action := .value fun d s => return { d with output := some (← path s) } },
  { name := "emit-fb", action := .flag fun d => { d with emitModel := true } },
  { name := "verbose", letter := some 'v', action := .flag fun d => { d with verbose := true } },
  .help]

/-- Exactly one source has to be given. -/
def source (d : PublishDraft) : Except UsageError DocumentSource :=
  match d.single, d.several, d.folder with
  | some path, [], none => .ok (.single path)
  | none, path :: paths, none => .ok (.several (path :: paths))
  | none, [], some path => .ok (.folder path)
  | none, [], none => .error .missingArgument
  | _, _, _ => .error .repeatedArgument

/-- The options of a complete draft. -/
def options (d : PublishDraft) : Except UsageError PublishOptions := do
  let source ← d.source
  match d.output with
  | some output => return { source, output, emitModel := d.emitModel, verbose := d.verbose }
  | none => throw .missingArgument

end PublishDraft

/-- The options on a command line. -/
def PublishOptions.ofWords (words : List String) : Except UsageError PublishOptions :=
  (Argument.readAll PublishDraft.arguments {} words).bind PublishDraft.options

/-! ### One document -/

/-- What became of a document. -/
inductive DocumentFate where
  | unreadable (failure : Failure)
  | invalid (site : Site) (diagnostics : List Diagnostic)
  /-- The rules are kept, and the site is written as far as that went well. -/
  | generated (site : Site) (written : Written)
deriving Inhabited

/-- A document and what became of it. -/
structure DocumentRun where
  path : String
  fate : DocumentFate
deriving Inhabited

section Run

variable {m : Type → Type} [Monad m]

/-- Writes the pages of a site, and its model text when all pages are written. -/
def generate (storage : Storage m) (emitModel : Bool) (site : Site) : m Written := do
  let pages ← writePages storage "" site.pages
  if emitModel && (WriteReport.ofAttempts pages).isSuccess then
    return { pages, model := some (← writeModel storage site (site.name ++ ".fb")) }
  else return { pages }

/-- Reads, checks and writes a document. -/
def publishDocument (fs : FileSystem m) (options : PublishOptions) (path : String) :
    m DocumentRun := do
  match ← (Storage.folder fs "").loadSite path with
  | .error e =>
    return { path, fate := .unreadable (.ofError s!"Failed to read document {path}" e) }
  | .ok site =>
    match RuleSet.standard.evaluate site with
    | [] =>
      let written ← generate (Storage.folder fs options.output) options.emitModel site
      return { path, fate := .generated site written }
    | diagnostics => return { path, fate := .invalid site diagnostics }

/-- The documents in a folder, in ascending order. -/
def listDocuments (fs : FileSystem m) (folder : String) : m (Except Failure (List String)) := do
  if !(← fs.isDir folder) then
    return .error { message := s!"--models-dir is not a directory: {folder}" }
  match ← fs.listDir folder with
  | .error e => return .error { message := s!"Cannot list {folder}", causes := [e.message] }
  | .ok names =>
    let names := (names.filter (Path.hasExtension "json")).mergeSort (· ≤ ·)
    return .ok (names.map (Path.join folder))

end Run

namespace Written

/-- Why a site is not written, if it is not. -/
def failure? (w : Written) : Option Failure :=
  if w.pageReport.isSuccess then
    w.model.bind fun model =>
      match model.result with
      | .ok _ => none
      | .error e => some (.ofError s!"Failed to write {model.path}" e)
  else
    some { message := "Failed to write pages: " ++ "; ".intercalate w.pageReport.failures }

/-- What is logged about the writing of a site. -/
def log (w : Written) (site : Site) : List LogLine :=
  w.pages.map WriteAttempt.log ++
  (if w.pageReport.isSuccess then
    [⟨.info, s!"✅ Wrote {w.pages.length} page(s) for '{site.name}'"⟩]
  else []) ++
  (w.model.bind WriteAttempt.written?).toList.map fun path => ⟨.info, s!"✅ Wrote model {path}"⟩

end Written

namespace DocumentRun

/-- The line of the log about a site that was read. -/
def siteLog (site : Site) : LogLine :=
  ⟨.info, s!"  Site '{site.name}': {site.countries.length} countries, {site.totalMatches} matches"⟩

/-- What is logged about a document wherever it comes from. -/
def log (d : DocumentRun) : List LogLine :=
  match d.fate with
  | .unreadable _ => []
  | .invalid site _ => [siteLog site]
  | .generated site written => siteLog site :: written.log site

/-- Whether all files of the document are written. -/
def succeeded (d : DocumentRun) : Bool :=
  match d.fate with
  | .generated _ written => written.failure?.isNone
  | _ => false

/-- Warnings about a document that is skipped. -/
def warnings (d : DocumentRun) : List String :=
  match d.fate with
  | .unreadable failure => [s!"⚠️ Skipping {d.path}: {failure.chain}"]
  | .invalid _ diagnostics =>
    diagnostics.map Diagnostic.text ++
      [s!"⚠️ {diagnostics.length} rule violation(s) in {d.path}, skipping"]
  | .generated _ written =>
    written.failure?.toList.map fun failure => s!"⚠️ {d.path}: {failure.chain}"

end DocumentRun

/-! ### The command -/

namespace PublishOptions

/-- The end of a command that went well. -/
def done (o : PublishOptions) (log : List LogLine) : CommandResult where
  output := [s!"✅ Done. Output in: {o.output}"]
  log

/-- The result when the document has to be valid. -/
def singleResult (o : PublishOptions) (d : DocumentRun) : CommandResult :=
  let log := ⟨.info, s!"🏭 Production mode: {d.path}"⟩ :: d.log
  match d.fate with
  | .unreadable failure => { failure.result with log }
  | .invalid _ diagnostics =>
    let failure : Failure :=
      { message := s!"{diagnostics.length} rule violation(s) in {d.path}, aborting" }
    { exitCode := 1
      complaints := diagnostics.map Diagnostic.text ++ [failure.report]
      log }
  | .generated _ written =>
    match written.failure? with
    | some failure => { failure.result with log }
    | none => o.done log

/-- The result when documents with faults are skipped. -/
def severalResult (o : PublishOptions) (ds : List DocumentRun) : CommandResult :=
  o.done <|
    [⟨.info, s!"🛠️ Dev mode: {ds.length} document(s)"⟩] ++
    ds.flatMap (fun d => d.log ++ d.warnings.map (LogLine.mk .warning)) ++
    [⟨.info, s!"📊 Generated {ds.countP DocumentRun.succeeded}/{ds.length} document(s)"⟩]

/-- The log line about a folder without documents. -/
def emptyLog (folder : String) (paths : List String) : List LogLine :=
  if paths.isEmpty then [⟨.warning, s!"No .json documents found in {folder}"⟩] else []

end PublishOptions

/-- Publishes documents. -/
def publish {m : Type → Type} [Monad m] (fs : FileSystem m) (options : PublishOptions) :
    m CommandResult := do
  match options.source with
  | .single path => return options.singleResult (← publishDocument fs options path)
  | .several paths => return options.severalResult (← paths.mapM (publishDocument fs options))
  | .folder folder =>
    match ← listDocuments fs folder with
    | .error failure => return failure.result
    | .ok paths =>
      let result := options.severalResult (← paths.mapM (publishDocument fs options))
      return { result with log := PublishOptions.emptyLog folder paths ++ result.log }

end Matchday
