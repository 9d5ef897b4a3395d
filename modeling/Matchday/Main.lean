import Matchday.Command.Publish
import Matchday.Command.Refresh

/-!
# The program

`publish` and `refresh` on the command line start the two commands; the rest of the words are
theirs.

## Main definitions

* `FileSystem.ofHost`: the file system of the host.
* `main`: the program.
-/

namespace Matchday

/-- An error of the host.  An unsuited entry is a folder in the way of a file or the other way
round, which its number tells apart. -/
def OsError.ofHost : IO.Error → OsError
  | .noFileOrDirectory _ _ _ => .noEntry
  | .noSuchThing _ _ _ => .noEntry
  | .alreadyExists _ _ _ => .alreadyExists
  | .inappropriateType _ 20 _ => .notDirectory
  | .inappropriateType _ 21 _ => .isDirectory
  | .inappropriateType _ _ _ => .notDirectory
  | e => .other (toString e)

/-- The answer of an operation of the host. -/
def answerOfHost (operation : IO α) : IO (Except OsError α) := do
  match ← operation.toBaseIO with
  | .ok x => return .ok x
  | .error e => return .error (.ofHost e)

/-- The file system of the host. -/
def FileSystem.ofHost : FileSystem IO where
  readFile path := answerOfHost (IO.FS.readBinFile path)
  writeFile path content := answerOfHost (IO.FS.writeBinFile path content)
  makeDir path := answerOfHost (IO.FS.createDir path)
  isDir path := do
    match ← answerOfHost (IO.FS.realPath path) with
    | .ok path => path.isDir
    | .error _ => return false
  listDir path := answerOfHost do
    return (← (← IO.FS.realPath path).readDir).toList.map (·.fileName)

/-- The host, which has no line to a provider. -/
def World.ofHost : World IO where
  files := .ofHost
  lookUp name := IO.getEnv name
  send _ := return .unreachable

/-- Shows what a command leaves. -/
def CommandResult.print (r : CommandResult) (verbose : Bool) : IO UInt32 := do
  for line in LogLine.shown verbose r.log do
    IO.println line.text
  IO.print r.outputText
  IO.eprint r.complaintText
  return r.exitCode

/-- The end of a program that was not called as it should be. -/
def usage : UsageError → IO UInt32
  | .helpRequested => do
    IO.println "publish (--model FILE | --models FILE... | --models-dir DIR) --output DIR [--emit-fb] [-v]"
    IO.println "refresh [-c FILE] [-o DIR] [--min-success-rate RATE] [--dry-run] [--json] [--monitor] [-v]"
    return 0
  | _ => do
    IO.eprintln "error: unusable arguments, try --help"
    return 2

/-- The command that the first word names, run with the others. -/
def runCommand : List String → IO UInt32
  | "publish" :: words =>
    match PublishOptions.ofWords words with
    | .error e => usage e
    | .ok options => do (← publish .ofHost options).print options.verbose
  | "refresh" :: words =>
    match RefreshOptions.ofWords words with
    | .error e => usage e
    | .ok options => do (← refreshSite .ofHost options).print options.verbose
  | ["--help"] => usage .helpRequested
  | _ => usage .missingArgument

end Matchday

/-- The program: its exit code is that of the command. -/
def main (words : List String) : IO UInt32 :=
  Matchday.runCommand words
