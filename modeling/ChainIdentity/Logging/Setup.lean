import ChainIdentity.FileTree
import ChainIdentity.Journal
import ChainIdentity.Logging.Rotation
import ChainIdentity.Logging.Settings

/-!
# Opening the log

Where events go to a file, its directory is made first, with everything above it, and the file
is the first one of the day that is not full.  The file is then there, even if nothing is ever
written to it.

Where the directory cannot be made, events go nowhere; the program goes on without them.
-/

namespace ChainIdentity.Logging

/-- The name of log files, before day and place are put in. -/
def fileName : String := "corechain-registry.log"

/-- The directory of log files with one slash at its end. -/
def directoryText (directory : String) : String :=
  String.ofList (directory.toList.reverse.dropWhile (· == '/')).reverse ++ "/"

/-- A log file that was opened. -/
structure OpenFile where
  /-- Its path as it was put together. -/
  path : String
  /-- Where it is, unless outside the working directory. -/
  location : Option Location
deriving DecidableEq, Repr

/-- Opens the log file of a day. -/
def openFile {α : Type} (tree : FileTree α) (sizeOf : α → Nat) (first : α)
    (settings : LogSettings) (date : String) : Except FileError (FileTree α × OpenFile) := do
  let directory := directoryText settings.directory
  let base := directory ++ fileName
  let start := Rotation.path base date 1
  let tree ← tree.makeAll (FilePath.ofText start).parent
  let size? := fun file => tree.size? sizeOf (FilePath.ofText file)
  let path := Rotation.search size? settings.maxSize base date (tree.nodes.length + 2) 1 start
  let (tree, location) := tree.openAppend (FilePath.ofText path) first
  return (tree, ⟨path, location⟩)

/-- Where events go. -/
inductive Sink where
  /-- To the standard output. -/
  | stdout
  /-- To a file. -/
  | file (file : OpenFile)
  /-- Nowhere. -/
  | nowhere
deriving DecidableEq, Repr

/-- Opens what the settings ask for. -/
def openSink (tree : FileTree String) (settings : LogSettings) (date : String) :
    Except FileError (FileTree String × Sink) :=
  match settings.output with
  | .stdout => .ok (tree, .stdout)
  | .file => do
    let (tree, file) ← openFile tree String.utf8ByteSize "" settings date
    return (tree, .file file)

/-- The part of the program that reports on the log. -/
def target : String := "corechain_registry::utils::logging"

/-- Writes to the journal where events go. -/
def announce (settings : LogSettings) : Sink → Journaled Unit
  | .nowhere => return ()
  | .stdout => configured
  | .file file => do
    Journaled.emit .info target "Logging to file" [("path", .shown file.path)]
    configured
where
  configured : Journaled Unit :=
    Journaled.emit .info target "Logging is successfully configured"
      [("level", .shown settings.level.name)]

end ChainIdentity.Logging
