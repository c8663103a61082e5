import HelpQuery.Settings.Overrides

/-!
# Arguments

The commands and their options.  An option's value is its own argument or attached to it, with an
equals sign after a long name; switches can be joined behind one dash; after a double dash
everything is positional.  A value that is still to come is settled by the next argument that is
understood, so an argument that is not is reported first.
-/

namespace HelpQuery.Command

/-! ## Commands -/

/-- What a run is asked to do. -/
inductive Request where
  /-- Show a query after each stage of compilation. -/
  | explain (query : String) (overrides : Overrides) (json : Bool)
  /-- Write a new settings file. -/
  | init (everywhere : Bool) (force : Bool)
  /-- Show the effective settings. -/
  | config
  deriving DecidableEq, Repr

/-- Why the arguments ask for nothing that can be done. -/
inductive UsageError where
  | unknownArgument
  | missingArgument
  | unknownCommand
  | missingValue
  /-- An option that can be given once is given again. -/
  | repeatedOption
  /-- A switch is given a value. -/
  | unneededValue
  /-- Help is asked for. -/
  | help
  /-- There are no arguments at all. -/
  | noCommand
  deriving DecidableEq, Repr

/-- The exit code of a run that ends with the arguments. -/
def UsageError.exitCode : UsageError → Nat
  | help => 0
  | _ => 2

/-! ## Options -/

/-- What an option takes. -/
inductive OptionKind where
  /-- Nothing; given once. -/
  | switch
  /-- Nothing; ends the run. -/
  | help
  /-- A value; given once. -/
  | single
  /-- A value; given any number of times. -/
  | repeated
  deriving DecidableEq, Repr

structure OptionSpec where
  long : String
  short? : Option Char
  kind : OptionKind
  deriving DecidableEq, Repr

def OptionSpec.takesValue (spec : OptionSpec) : Bool :=
  spec.kind == .single || spec.kind == .repeated

/-- The options of a command, and whether it takes a positional argument. -/
structure CommandSpec where
  options : List OptionSpec
  positional : Bool

def helpOption : OptionSpec := ⟨"help", some 'h', .help⟩

def explainSpec : CommandSpec where
  options :=
    [⟨"field", some 'f', .repeated⟩, ⟨"field-search-only", none, .switch⟩,
     ⟨"stemmer", none, .single⟩, ⟨"no-stop-words", none, .switch⟩,
     ⟨"no-improve-ranking", none, .switch⟩, ⟨"json", none, .switch⟩, helpOption]
  positional := true

def initSpec : CommandSpec where
  options := [⟨"global", none, .switch⟩, ⟨"force", none, .switch⟩, helpOption]
  positional := false

def configSpec : CommandSpec where
  options := [helpOption]
  positional := false

/-! ## Reading options -/

/-- The arguments read so far. -/
structure Parsed where
  /-- The options given, each with its value, if it takes one. -/
  given : List (String × Option String)
  /-- The last option, if it takes a value, and the value once there is one. -/
  pending? : Option (OptionSpec × Option String)
  positional? : Option String
  /-- Whether a double dash was passed. -/
  trailing : Bool

namespace Parsed

def start : Parsed := ⟨[], none, none, false⟩

def has (p : Parsed) (long : String) : Bool := (p.given.lookup long).isSome

/-- Adds an option, once only unless it may be repeated. -/
def add (spec : OptionSpec) (value? : Option String) (p : Parsed) : Except UsageError Parsed :=
  if spec.kind ≠ .repeated ∧ p.has spec.long then throw .repeatedOption
  else return { p with given := p.given ++ [(spec.long, value?)] }

/-- Settles the option whose value was still to come. -/
def settle (p : Parsed) : Except UsageError Parsed :=
  match p.pending? with
  | none => return p
  | some (_, none) => throw .missingValue
  | some (spec, some v) => add spec (some v) { p with pending? := none }

/-- Adds a switch. -/
def switch (spec : OptionSpec) (p : Parsed) : Except UsageError Parsed := do
  let p ← p.settle
  if spec.kind = .help then throw .help else p.add spec none

/-- Adds an option with an attached value, or waits for its value. -/
def option (spec : OptionSpec) (attached? : Option String) (p : Parsed) :
    Except UsageError Parsed := do
  let p ← p.settle
  match attached? with
  | some v => p.add spec (some v)
  | none => return { p with pending? := some (spec, none) }

/-- Reads a long option, its dashes taken off. -/
def long (spec : CommandSpec) (name : List Char) (p : Parsed) : Except UsageError Parsed :=
  let key := String.ofList (name.takeWhile (· != '='))
  let attached? := match name.dropWhile (· != '=') with
    | [] => none
    | _ :: v => some (String.ofList v)
  match spec.options.find? (·.long == key) with
  | none => throw .unknownArgument
  | some o =>
    if o.takesValue then p.option o attached?
    else if attached?.isSome then throw .unneededValue
    else p.switch o

/-- Reads options joined behind one dash; the first that takes a value takes what is left. -/
def shorts (spec : CommandSpec) : List Char → Parsed → Except UsageError Parsed
  | [], p => return p
  | c :: rest, p =>
    match spec.options.find? (·.short? == some c) with
    | none => throw .unknownArgument
    | some o =>
      if o.takesValue then
        match rest with
        | [] => p.option o none
        | '=' :: v => p.option o (some (String.ofList v))
        | v => p.option o (some (String.ofList v))
      else do shorts spec rest (← p.switch o)

/-- Takes a positional argument. -/
def place (spec : CommandSpec) (arg : String) (p : Parsed) : Except UsageError Parsed := do
  if spec.positional ∧ p.positional? = none then
    return { ← p.settle with positional? := some arg }
  else throw .unknownArgument

/-- Reads one argument. -/
def step (p : Parsed) (spec : CommandSpec) (arg : String) : Except UsageError Parsed :=
  if p.trailing then p.place spec arg
  else match arg.toList with
    | ['-', '-'] => return { p with trailing := true }
    | '-' :: '-' :: name => p.long spec name
    | '-' :: c :: rest => p.shorts spec (c :: rest)
    | _ =>
      match p.pending? with
      | some (o, none) => return { p with pending? := some (o, some arg) }
      | _ => p.place spec arg

/-- The values of an option, in order. -/
def values (p : Parsed) (long : String) : List String :=
  p.given.filterMap fun (name, value?) => if name = long then value? else none

end Parsed

/-- Reads the arguments of a command. -/
def readOptions (spec : CommandSpec) (args : List String) : Except UsageError Parsed := do
  (← args.foldlM (fun p arg => p.step spec arg) Parsed.start).settle

/-! ## Reading commands -/

/-- The specification of a command. -/
def specOf? (name : String) : Option CommandSpec :=
  match name with
  | "explain" => some explainSpec
  | "init" => some initSpec
  | "config" => some configSpec
  | _ => none

/-- A name in the place of a command; help counts as one. -/
def isCommandName (name : String) : Bool := (specOf? name).isSome || name == "help"

/-- The request of a command with its options. -/
def requestOf (name : String) (p : Parsed) : Except UsageError Request :=
  match name with
  | "explain" =>
    match p.positional? with
    | none => throw .missingArgument
    | some query =>
      let overrides : Overrides :=
        { fields := p.values "field"
          namedOnly := p.has "field-search-only"
          stemmer? := (p.values "stemmer").head?
          keepStopWords := p.has "no-stop-words"
          plainRanking := p.has "no-improve-ranking" }
      return .explain query overrides (p.has "json")
  | "init" => return .init (p.has "global") (p.has "force")
  | _ => return .config

/-- Help about a command: no more than one command, or help itself, can be named. -/
def helpAbout (args : List String) : UsageError :=
  match args with
  | [] => .help
  | [name] => if isCommandName name then .help else .unknownCommand
  | _ => .unknownCommand

/-- What the arguments of a run ask for. -/
def readRequest (args : List String) : Except UsageError Request :=
  match args with
  | [] => throw .noCommand
  | "help" :: rest => throw (helpAbout rest)
  | ["--"] => throw .noCommand
  | "--" :: name :: _ => throw (if isCommandName name then .unknownArgument else .unknownCommand)
  | name :: rest =>
    match specOf? name with
    | some spec => do requestOf name (← readOptions spec rest)
    | none =>
      match name.toList with
      | '-' :: _ :: _ => do
        -- Before a command help is the only option.
        discard (Parsed.start.step ⟨[helpOption], false⟩ name)
        throw .unknownArgument
      | _ => throw .unknownCommand

end HelpQuery.Command
