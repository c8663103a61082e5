import HelpQuery.Files.FileSystem
import HelpQuery.Settings.Reader

/-!
# Loading settings files

Settings files are named `.hq.toml`.  Every directory from the start up to the root may have one,
and the home directory's is consulted last; a file that calls itself the root ends the search.
Files that cannot be read or parsed are found all the same, and loading them fails.
-/

namespace HelpQuery

/-! ## Discovery -/

/-- The name of settings files. -/
def settingsFileName : String := ".hq.toml"

/-- Whether a file is well-formed and calls itself the root. -/
def isRootFile (fs : FileSystem) (p : Path) : Bool :=
  match fs.read p with
  | .ok text => ((SettingsFile.parse? text).bind SettingsFile.root?) == some true
  | .error _ => false

/-- The settings files of directories in order, up to the first root, and whether there is one. -/
def walk (fs : FileSystem) : List Path → List Path × Bool
  | [] => ([], false)
  | dir :: rest =>
    let candidate := dir.join settingsFileName
    if !fs.isFile candidate then walk fs rest
    else if isRootFile fs candidate then ([candidate], true)
    else
      let (found, stopped) := walk fs rest
      (candidate :: found, stopped)

/-- The path of the global settings file. -/
def globalSettings (home : Path) : Path := home.join settingsFileName

/-- Whether a path is that of the global settings file. -/
def isGlobalSettings (home? : Option Path) (p : Path) : Bool :=
  home?.any fun home => p.same (globalSettings home)

/-- The settings files that apply to a directory, the closest first. -/
def discover (fs : FileSystem) (home? : Option Path) (start : Path) : List Path :=
  let (found, stopped) := walk fs start.ancestors
  match stopped, home? with
  | false, some home =>
    let candidate := globalSettings home
    if fs.isFile candidate && !found.any candidate.same then found ++ [candidate] else found
  | _, _ => found

/-! ## Loading -/

/-- Why settings cannot be loaded. -/
inductive ConfigError where
  | unreadable (path : Path) (cause : FileError)
  | malformed (path : Path)
  | noHomeDirectory
  | invalidFields (cause : FieldError)

namespace ConfigError

/-- What is said in place of the details of a malformed file. -/
def tomlFault : String := "<toml error>"

def message : ConfigError → String
  | unreadable path cause =>
    "failed to read config file " ++ path.toString ++ ": " ++ cause.message
  | malformed path => "failed to parse config file " ++ path.toString ++ ": " ++ tomlFault
  | noHomeDirectory => "could not determine home directory"
  | invalidFields cause => "invalid search fields: " ++ cause.message

end ConfigError

/-- Effective settings and the directory of the closest file they come from. -/
structure Config where
  settings : Settings
  root? : Option Path

/-- A settings file at its path. -/
structure LoadedFile where
  path : Path
  file : SettingsFile

/-- The file of a text. -/
def LoadedFile.parse (path : Path) (text : String) : Except ConfigError LoadedFile :=
  match SettingsFile.parse? text with
  | some file => .ok ⟨path, file⟩
  | none => .error (.malformed path)

/-- Reads a settings file. -/
def LoadedFile.read (fs : FileSystem) (path : Path) : Except ConfigError LoadedFile :=
  match fs.read path with
  | .ok text => LoadedFile.parse path text
  | .error cause => .error (.unreadable path cause)

namespace Config

/-- The effective settings of files, the closest first. -/
def merge (files : List LoadedFile) : Config where
  settings := Settings.ofLayers (files.filterMap (·.file.search?))
  root? := files.head?.bind (·.path.parent?)

/-- Loads files, the closest first; the first that cannot be loaded is reported. -/
def loadFiles (fs : FileSystem) (paths : List Path) : Except ConfigError Config :=
  (paths.mapM (LoadedFile.read fs)).map merge

/-- Loads the files that apply to a directory. -/
def load (fs : FileSystem) (home? : Option Path) (start : Path) : Except ConfigError Config :=
  loadFiles fs (discover fs home? start)

end Config

/-- The fields the settings name. -/
def Settings.searchFields (s : Settings) : Except ConfigError FieldSet :=
  s.fieldSet.mapError .invalidFields

end HelpQuery
