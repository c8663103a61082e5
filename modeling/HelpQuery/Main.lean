import HelpQuery.Command.Run

/-!
# The command line

Takes a snapshot of the settings files a run can read, runs the request on it and prints the output.
-/

namespace HelpQuery.Command

/-- What stands at a path, if there is anything. -/
def entryAt? (path : String) : IO (Option Entry) := do
  try
    let bytes ← IO.FS.readBinFile path
    match String.fromUTF8? bytes with
    | some text => return some (.file (.ok text))
    | none => return some (.file (.error .notText))
  catch
    | .noFileOrDirectory .. => return none
    -- Code 21 tells a directory from a path through a file.
    | .inappropriateType _ code _ => return if code = 21 then some .directory else none
    | .permissionDenied .. => return some (.file (.error .permissionDenied))
    | e => return some (.file (.error (.other e.toString)))

/-- The file system as far as a run looks at it: directories with the settings files in them. -/
def snapshot (directories : List Path) : IO FileSystem :=
  directories.foldlM (fun files directory => do
    let path := directory.join settingsFileName
    let files := (files.makeDirectories directory).toOption.getD files
    let seen? := match ← entryAt? path.toString with
      | none => none
      | some .directory => (files.makeDirectories path).toOption
      | some (.file content) => (files.write path content).toOption
    return seen?.getD files) .empty

/-- Writes a text to a file. -/
def writeFile (path : Path) (text : String) : IO (Except FileError Unit) := do
  try
    IO.FS.writeFile path.toString text
    return .ok ()
  catch
    | .noFileOrDirectory .. => return .error .notFound
    | .permissionDenied .. => return .error .permissionDenied
    | .inappropriateType .. => return .error .isADirectory
    | e => return .error (.other e.toString)

/-- Runs a request where the program stands. -/
def runHere (request : Request) : IO Output := do
  let cwd ← try
      pure (Except.ok (Path.ofString (← IO.currentDir).toString))
    catch
      | .permissionDenied .. => pure (.error .permissionDenied)
      | _ => pure (.error .notFound)
  let home? := (← IO.getEnv "HOME").map Path.ofString
  let files ← snapshot ((cwd.toOption.elim [] Path.ancestors) ++ home?.toList)
  respond writeFile { files, home?, cwd } request

/-- What the program is for and how it is called. -/
def usage : String :=
  String.join
    ["Shows how search strings become index queries.\n\n",
     "Usage: hq explain QUERY [-f FIELD]... [--field-search-only] [--stemmer NAME]\n",
     "                  [--no-stop-words] [--no-improve-ranking] [--json]\n",
     "       hq init [--global] [--force]\n",
     "       hq config\n"]

/-- What is wrong with the arguments. -/
def usageMessage : UsageError → String
  | .unknownArgument => "unexpected argument"
  | .missingArgument => "the query is missing"
  | .unknownCommand => "unknown command"
  | .missingValue => "an option lacks its value"
  | .repeatedOption => "an option is given more than once"
  | .unneededValue => "an option takes no value"
  | .help => "help"
  | .noCommand => "a command is needed"

end HelpQuery.Command

open HelpQuery.Command

/-- Runs the command the arguments name. -/
def main (args : List String) : IO UInt32 := do
  match readRequest args with
  | .error .help =>
    IO.print usage
    return 0
  | .error e =>
    IO.eprint ("error: " ++ usageMessage e ++ "\n\n" ++ usage)
    return e.exitCode.toUInt32
  | .ok request =>
    let output ← runHere request
    IO.print output.stdout
    IO.eprint output.stderr
    return if output.failed then 1 else 0
