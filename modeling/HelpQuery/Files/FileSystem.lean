import HelpQuery.Files.Path

/-!
# File systems

A file system maps locations, lists of names from the root, to files and directories.  A path is
followed part by part: whatever stands before another part has to be a directory.  Names have at
most 255 bytes, whole paths at most 4095, and neither has a NUL character.
-/

namespace HelpQuery

/-- Why a file cannot be read or written. -/
inductive FileError where
  | notFound
  | permissionDenied
  | notADirectory
  | isADirectory
  | nameTooLong
  /-- A name has a NUL character. -/
  | nulInName
  /-- The content is not UTF-8. -/
  | notText
  | other (message : String)
  deriving DecidableEq, Repr

namespace FileError

def message : FileError → String
  | notFound => "No such file or directory (os error 2)"
  | permissionDenied => "Permission denied (os error 13)"
  | notADirectory => "Not a directory (os error 20)"
  | isADirectory => "Is a directory (os error 21)"
  | nameTooLong => "File name too long (os error 36)"
  | nulInName => "file name contained an unexpected NUL byte"
  | notText => "stream did not contain valid UTF-8"
  | other message => message

end FileError

/-- What stands at a location. -/
inductive Entry where
  /-- A file and what reading it gives. -/
  | file (content : Except FileError String)
  | directory

/-- The names from the root to a file or directory. -/
abbrev Location := List String

/-- Files and directories by their locations; the root is always there. -/
structure FileSystem where
  entries : List (Location × Entry)

namespace FileSystem

/-- Nothing but the root. -/
def empty : FileSystem := ⟨[]⟩

/-! ## Looking up -/

/-- What stands at a location. -/
def at? (fs : FileSystem) (loc : Location) : Option Entry :=
  if loc = [] then some .directory else fs.entries.lookup loc

/-- The greatest number of bytes of a name. -/
def nameLimit : Nat := 255

/-- The location reached from a directory by following parts. -/
def follow (fs : FileSystem) (loc : Location) : List String → Except FileError Location
  | [] => .ok loc
  | part :: rest =>
    match fs.at? loc with
    | none => .error .notFound
    | some (.file _) => .error .notADirectory
    | some .directory =>
      if part = "" ∨ part = "." then follow fs loc rest
      else if part = ".." then follow fs loc.dropLast rest
      else if nameLimit < part.utf8ByteSize then .error .nameTooLong
      else follow fs (loc ++ [part]) rest

/-- The greatest number of bytes of a path. -/
def pathLimit : Nat := 4095

/-- Whether a path can be asked for at all. -/
def checkPath (p : Path) : Except FileError Unit :=
  if p.parts.any (·.toList.contains '\x00') then .error .nulInName
  else if pathLimit < p.toString.utf8ByteSize then .error .nameTooLong
  else .ok ()

/-- The location a path leads to. -/
def locate (fs : FileSystem) (p : Path) : Except FileError Location := do
  checkPath p
  fs.follow [] p.parts

/-- What stands at a path. -/
def entry? (fs : FileSystem) (p : Path) : Except FileError Entry := do
  match fs.at? (← fs.locate p) with
  | some e => return e
  | none => throw .notFound

def isFile (fs : FileSystem) (p : Path) : Bool :=
  match fs.entry? p with
  | .ok (.file _) => true
  | _ => false

def exists? (fs : FileSystem) (p : Path) : Bool :=
  match fs.entry? p with
  | .ok _ => true
  | .error _ => false

/-- The text of a file. -/
def read (fs : FileSystem) (p : Path) : Except FileError String := do
  match ← fs.entry? p with
  | .file content => content
  | .directory => throw .isADirectory

/-! ## Changing -/

/-- Puts an entry at a location. -/
def put (fs : FileSystem) (loc : Location) (e : Entry) : FileSystem :=
  ⟨(loc, e) :: fs.entries.filter (·.1 ≠ loc)⟩

/-- Writes a file in a directory that is there, whether or not the file was. -/
def write (fs : FileSystem) (p : Path) (content : Except FileError String) :
    Except FileError FileSystem := do
  let loc ← fs.locate p
  match fs.at? loc with
  | some .directory => throw .isADirectory
  | _ => return fs.put loc (.file content)

/-- Makes the directories on the way along parts from a directory. -/
def makeDirectoriesFrom (fs : FileSystem) (loc : Location) :
    List String → Except FileError FileSystem
  | [] => .ok fs
  | part :: rest =>
    if part = "" ∨ part = "." then makeDirectoriesFrom fs loc rest
    else if part = ".." then makeDirectoriesFrom fs loc.dropLast rest
    else if nameLimit < part.utf8ByteSize then .error .nameTooLong
    else
      match fs.at? (loc ++ [part]) with
      | none => makeDirectoriesFrom (fs.put (loc ++ [part]) .directory) (loc ++ [part]) rest
      | some .directory => makeDirectoriesFrom fs (loc ++ [part]) rest
      | some (.file _) => .error .notADirectory

/-- Makes a directory and those above it. -/
def makeDirectories (fs : FileSystem) (p : Path) : Except FileError FileSystem := do
  checkPath p
  fs.makeDirectoriesFrom [] p.parts

/-- Removes a file, or a directory with all in it. -/
def remove (fs : FileSystem) (p : Path) : Except FileError FileSystem := do
  let loc ← fs.locate p
  match fs.at? loc with
  | none => throw .notFound
  | some _ => return ⟨fs.entries.filter (! loc.isPrefixOf ·.1)⟩

end FileSystem

end HelpQuery
