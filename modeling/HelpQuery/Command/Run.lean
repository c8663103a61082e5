import HelpQuery.Analysis.Pipeline
import HelpQuery.Command.Arguments
import HelpQuery.Files.Config
import HelpQuery.Query.ReportJson
import HelpQuery.Settings.Printer
import HelpQuery.Settings.Template
import HelpQuery.Settings.Warning

/-!
# Running commands

A run reads the file system and gives its output.  Only `init` writes, and only one file.  What
writes it is an argument: `run` writes to the file system it has read.
-/

namespace HelpQuery.Command

/-- Why a command fails. -/
inductive Failure where
  | noCurrentDirectory (cause : FileError)
  | notLoaded (cause : ConfigError)
  | invalidSettings (cause : ConfigError)
  | unknownLanguage (cause : UnknownLanguage)
  | alreadyExists (path : Path)
  | notWritten (path : Path) (cause : FileError)

namespace Failure

def message : Failure → String
  | noCurrentDirectory cause => "could not determine current directory: " ++ cause.message
  | notLoaded cause => "failed to load configuration: " ++ cause.message
  | invalidSettings cause => cause.message
  | unknownLanguage cause => cause.message
  | alreadyExists path =>
    "configuration file already exists: " ++ path.toString ++ "\nuse --force to overwrite"
  | notWritten path cause => "failed to write " ++ path.toString ++ ": " ++ cause.message

end Failure

/-- What a run prints, and whether it failed. -/
structure Output where
  failed : Bool
  stdout : String
  stderr : String
  deriving DecidableEq, Repr

/-- The output of a run that succeeds, warnings on lines of their own. -/
def Output.success (stdout : String) (warnings : List String) : Output where
  failed := false
  stdout := stdout
  stderr := String.join (warnings.map fun w => "warning: " ++ w ++ "\n")

def Output.failure (e : Failure) : Output := ⟨true, "", "error: " ++ e.message ++ "\n"⟩

/-- The output of a run with this result. -/
def Output.ofResult : Except Failure Output → Output
  | .ok out => out
  | .error e => failure e

/-- The surroundings of a run. -/
structure Surroundings where
  files : FileSystem
  home? : Option Path
  /-- The current directory, unless it is gone. -/
  cwd : Except FileError Path
  stemmers : Stemmers := .builtIn

/-! ## Explain -/

/-- The compiler that settings describe. -/
def compilerOf (stemmers : Stemmers) (s : Settings) : Except Failure Compiler := do
  let fields ← s.searchFields.mapError .invalidSettings
  let language ← (Language.ofName s.stemmer).mapError .unknownLanguage
  return ⟨(language.pipeline stemmers s.stopWords).analyzer, fields, s.compileOptions⟩

/-- Warnings about a query. -/
def queryWarnings (q : CompiledQuery) : List String :=
  (if hasUnterminatedQuote q.raw then ["unterminated quote; the text after it is ignored"] else [])
    ++ (uppercaseWildcards q.parts).map fun pattern =>
      "wildcard '" ++ pattern ++ "' is matched case-sensitively against lowercased terms"

/-- Every stage of the compilation of a query under settings. -/
def explain (stemmers : Stemmers) (s : Settings) (query : String) (json : Bool) :
    Except Failure Output := do
  let compiler ← compilerOf stemmers s
  let q := compiler.compile query
  let text :=
    if json then (q.toJson compiler.fields).pretty ++ "\n" else q.report compiler.fields
  return .success text (queryWarnings q)

/-! ## Config -/

/-- The settings and the warnings about them. -/
def showSettings (s : Settings) : Output := .success s.toToml (s.warnings.map Warning.message)

/-! ## Init -/

/-- The file a new settings file is written to: the global one if asked for or in the home
directory, else one in the current directory. -/
def initTarget (home? : Option Path) (cwd : Path) (everywhere : Bool) : Except Failure Path :=
  match home? with
  | some home =>
    let inHome := (globalSettings home).parent?.any cwd.same
    return if everywhere || inHome then globalSettings home else cwd.join settingsFileName
  | none =>
    if everywhere then throw (.invalidSettings .noHomeDirectory)
    else return cwd.join settingsFileName

/-- The file to write, unless it is there already and is not to be replaced. -/
def initPath (files : FileSystem) (home? : Option Path) (cwd : Path) (everywhere force : Bool) :
    Except Failure Path := do
  let path ← initTarget home? cwd everywhere
  if files.exists? path && !force then throw (.alreadyExists path) else return path

/-- The output when a settings file has been written. -/
def created (path : Path) : Output := .success ("Created " ++ path.toString ++ "\n") []

section Writing

variable {m : Type → Type} [Monad m] (write : Path → String → m (Except FileError Unit))

/-- Writes the settings template. -/
def init (files : FileSystem) (home? : Option Path) (cwd : Path) (everywhere force : Bool) :
    ExceptT Failure m Output := do
  let path ← initPath files home? cwd everywhere force
  match ← write path settingsTemplate with
  | .ok () => return created path
  | .error cause => throw (.notWritten path cause)

/-! ## Runs -/

def currentDirectory (env : Surroundings) : Except Failure Path :=
  env.cwd.mapError .noCurrentDirectory

/-- The effective settings in the current directory. -/
def loadSettings (env : Surroundings) : Except Failure Settings := do
  let cwd ← currentDirectory env
  return (← (Config.load env.files env.home? cwd).mapError .notLoaded).settings

/-- What a request prints. -/
def perform (env : Surroundings) : Request → ExceptT Failure m Output
  | .explain query overrides json => do
    let s ← loadSettings env
    explain env.stemmers (overrides.over s) query json
  | .config => do return showSettings (← loadSettings env)
  | .init everywhere force => do
    let cwd ← currentDirectory env
    init write env.files env.home? cwd everywhere force

/-- What a request prints, be it a failure. -/
def respond (env : Surroundings) (request : Request) : m Output := do
  return .ofResult (← (perform write env request).run)

end Writing

/-- Writes a text to a file of a file system, if it can be written there. -/
def writeText (path : Path) (text : String) : StateM FileSystem (Except FileError Unit) :=
  fun files =>
    match files.write path (.ok text) with
    | .ok changed => (.ok (), changed)
    | .error e => (.error e, files)

/-- What a request prints and the file system it leaves. -/
def run (env : Surroundings) (request : Request) : Output × FileSystem :=
  (respond writeText env request).run env.files

end HelpQuery.Command
