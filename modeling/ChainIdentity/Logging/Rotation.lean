import ChainIdentity.Text.Numeral

/-!
# Rotation of log files

A log file is named for its day and its place among the files of that day.  Where a file is
full, the next place is tried, and the first file that is absent or not yet full is the one to
write.

`choose` searches a finite collection of files, given as paths with sizes.  Every full file it
passes is one of the collection, and no two places have the same name, so it needs no more steps
than there are files.
-/

namespace ChainIdentity.Rotation

open ChainIdentity.Text

/-- The ending of a log file. -/
def ending : List Char := ['.', 'l', 'o', 'g']

/-- A path without its ending, if it has it. -/
def withoutEnding (cs : List Char) : List Char :=
  if cs.drop (cs.length - 4) = ending then cs.take (cs.length - 4) else cs

/-- The path of the file at a place of a day. -/
def path (base date : String) (index : Nat) : String :=
  String.ofList
    (withoutEnding base.toList ++ '-' :: date.toList ++ '.' :: Numeral.write 10 index ++ ending)

/-- Whether a file may still be written: it is absent or not larger than the limit. -/
def isUsable (size? : String → Option Nat) (maxSize : Nat) (file : String) : Bool :=
  match size? file with
  | none => true
  | some size => size ≤ maxSize

/-- Goes on from a file at the given place until one may be written, for at most `steps` full
files. -/
def search (size? : String → Option Nat) (maxSize : Nat) (base date : String) :
    Nat → Nat → String → String
  | 0, _, file => file
  | steps + 1, index, file =>
    if isUsable size? maxSize file then file
    else search size? maxSize base date steps (index + 1) (path base date (index + 1))

/-- The file to write among files of known size, starting with the given one. -/
def choose (files : List (String × Nat)) (start base date : String) (maxSize : Nat) : String :=
  search (fun file => files.lookup file) maxSize base date (files.length + 1) 1 start

end ChainIdentity.Rotation
