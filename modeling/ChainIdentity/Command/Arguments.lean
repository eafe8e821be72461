import ChainIdentity.Logging.Settings

/-!
# The command line

The command line is a command, perhaps with options in front of it and a name behind it.  The
options say where events go, and each may be given once.  Everything else is a misuse, and only
that it is one matters.

Arguments are read from left to right.  The first thing that settles the outcome does so, which
may also be a question for the version or for help.
-/

namespace ChainIdentity

open Text

/-- What is to be done. -/
inductive Command where
  /-- List the identifiers of all networks. -/
  | networks
  /-- Show the options advertised for a network. -/
  | options
  /-- Show the facts of a network. -/
  | describe (name : String)
  /-- Show the defaults for a transfer on a network. -/
  | workflow (name : String)
  /-- Verify the configured node. -/
  | verify
deriving DecidableEq, Repr

/-- What the options say about the log; nothing is said by an option that is absent. -/
structure LogOptions where
  /-- Events go to a file. -/
  toFile : Bool
  /-- The name of the least level that is written. -/
  level : Option String
  /-- The directory of log files. -/
  directory : Option String
  /-- The size above which a log file is full. -/
  maxSize : Option Nat
deriving DecidableEq, Repr

namespace LogOptions

/-- Nothing is said. -/
def none : LogOptions := ⟨false, .none, .none, .none⟩

/-- The settings with what the options say in place of what they said before. -/
def adjust (options : LogOptions) (settings : LogSettings) : LogSettings where
  output := if options.toFile then .file else settings.output
  level := (options.level.map Level.ofName).getD settings.level
  directory := options.directory.getD settings.directory
  maxSize := options.maxSize.getD settings.maxSize

end LogOptions

/-- What a command line asks for. -/
inductive Invocation where
  /-- To run a command. -/
  | run (options : LogOptions) (command : Command)
  /-- To show the version. -/
  | version
  /-- To show what can be asked for. -/
  | help
  /-- Nothing that can be understood. -/
  | misuse
deriving DecidableEq, Repr

/-- An argument by its form. -/
inductive Argument where
  /-- Two hyphens and nothing else: what follows is no option. -/
  | terminator
  /-- A name behind two hyphens, with the value behind its equals sign. -/
  | long (name : String) (value : Option String)
  /-- Letters behind one hyphen. -/
  | short (letters : List Char)
  /-- Anything else, a single hyphen included. -/
  | word (text : String)
deriving DecidableEq, Repr

/-- The form of an argument. -/
def Argument.ofText (text : String) : Argument :=
  match text.toList with
  | ['-', '-'] => .terminator
  | '-' :: '-' :: rest =>
    .long (String.ofList (rest.takeWhile (· != '=')))
      (match rest.dropWhile (· != '=') with
       | [] => none
       | _ :: value => some (String.ofList value))
  | '-' :: letter :: rest => .short (letter :: rest)
  | _ => .word text

/-- An option with a value. -/
inductive ValueOption where
  | level
  | directory
  | maxSize
deriving DecidableEq, Repr

namespace ValueOption

/-- The option of a name. -/
def ofName? : String → Option ValueOption
  | "log-level" => some level
  | "log-path" => some directory
  | "log-max-size" => some maxSize
  | _ => none

/-- Adds an option to those before it; it must not be one of them. -/
def enter? (option : ValueOption) (value : String) (options : LogOptions) : Option LogOptions :=
  match option with
  | level =>
    if options.level.isSome then none else some { options with level := some value }
  | directory =>
    if options.directory.isSome then none else some { options with directory := some value }
  | maxSize =>
    if options.maxSize.isSome then none
    else (LogSettings.size? value).map fun size => { options with maxSize := some size }

end ValueOption

namespace Invocation

/-- Reads what follows a command: as many words as it needs, here none or one.  `finish` gives
the command from the words read. -/
def readOperands (finish : List String → Option Command) (limit : Nat) (options : LogOptions) :
    List String → List String → Invocation
  | read, [] =>
    match finish read with
    | some command => run options command
    | none => misuse
  | read, text :: rest =>
    match Argument.ofText text with
    | .terminator =>
      match finish (read ++ rest) with
      | some command => run options command
      | none => misuse
    | .word word =>
      if read.length < limit then readOperands finish limit options (read ++ [word]) rest
      else misuse
    | .long "help" none => help
    | .short ('h' :: _) => help
    | _ => misuse

/-- The command without operands. -/
def bare (command : Command) : List String → Option Command
  | [] => some command
  | _ => none

/-- The command with one operand. -/
def named (command : String → Command) : List String → Option Command
  | [name] => some (command name)
  | _ => none

/-- The names of the commands, the one that asks for help included. -/
def commandNames : List String :=
  ["networks", "options", "describe", "workflow", "verify", "help"]

/-- Reads a command and what follows it. -/
def readCommand (options : LogOptions) (name : String) (rest : List String) : Invocation :=
  match name with
  | "networks" => readOperands (bare .networks) 0 options [] rest
  | "options" => readOperands (bare .options) 0 options [] rest
  | "verify" => readOperands (bare .verify) 0 options [] rest
  | "describe" => readOperands (named .describe) 1 options [] rest
  | "workflow" => readOperands (named .workflow) 1 options [] rest
  | "help" =>
    match rest with
    | [] => help
    | [topic] => if commandNames.contains topic then help else misuse
    | _ => misuse
  | _ => misuse

/-- Reads options up to the command. -/
def readOptions (options : LogOptions) : List String → Invocation
  | [] => misuse
  | text :: rest =>
    match Argument.ofText text with
    | .word name => readCommand options name rest
    | .short ('V' :: _) => version
    | .short ('h' :: _) => help
    | .short _ => misuse
    | .terminator => misuse
    | .long "version" none => version
    | .long "help" none => help
    | .long "log-file" none =>
      if options.toFile then misuse else readOptions { options with toFile := true } rest
    | .long name attached =>
      match ValueOption.ofName? name, attached, rest with
      | some option, some value, rest =>
        match option.enter? value options with
        | some options => readOptions options rest
        | none => misuse
      | some option, none, text :: rest =>
        match Argument.ofText text with
        | .word value =>
          match option.enter? value options with
          | some options => readOptions options rest
          | none => misuse
        | _ => misuse
      | _, _, _ => misuse

/-- What a command line asks for. -/
def ofArguments (arguments : List String) : Invocation :=
  readOptions .none arguments

end Invocation

end ChainIdentity
