import ChainIdentity.Journal
import ChainIdentity.Text.Numeral
import ChainIdentity.Variables

/-!
# Where the journal goes

Four variables say where events are written and which of them.  None of them is ever an error:
a value that cannot be understood is as good as none.
-/

namespace ChainIdentity

open Text

/-- What events are written to. -/
inductive LogOutput where
  /-- The standard output. -/
  | stdout
  /-- A file. -/
  | file
deriving DecidableEq, Repr

/-- Where events are written and which of them. -/
structure LogSettings where
  /-- What they are written to. -/
  output : LogOutput
  /-- The least level that is written. -/
  level : Level
  /-- The directory of log files. -/
  directory : String
  /-- The size in bytes above which a log file is full. -/
  maxSize : Nat
deriving DecidableEq, Repr

/-- The level of a name in any mixture of case; any other name means `INFO`. -/
def Level.ofName (name : String) : Level :=
  match name.toLower with
  | "trace" => .trace
  | "debug" => .debug
  | "info" => .info
  | "warn" => .warn
  | "error" => .error
  | _ => .info

namespace LogSettings

/-- The settings where nothing else is said. -/
def standard : LogSettings := ⟨.stdout, .info, "logs/", 1073741824⟩

/-- The greatest size that can be given. -/
def sizeLimit : Nat := 0xFFFFFFFFFFFFFFFF

/-- The size that a text gives. -/
def size? (text : String) : Option Nat :=
  match Numeral.readUnsigned 10 sizeLimit text.toList with
  | .ok size => some size
  | .error _ => none

/-- The settings that the variables describe. -/
def read (values : Variables) : LogSettings where
  output :=
    match (values "LOG_MODE").map String.toLower with
    | some "file" => .file
    | _ => .stdout
  level := ((values "LOG_LEVEL").map Level.ofName).getD standard.level
  directory := (values "LOG_DATA_DIR").getD standard.directory
  maxSize := ((values "LOG_MAX_SIZE").bind size?).getD standard.maxSize

end LogSettings

end ChainIdentity
