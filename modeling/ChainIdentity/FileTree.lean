import ChainIdentity.Text.Parts

/-!
# File trees

The files below a working directory: a finite map from locations to directories and files.  The
contents of a file are of any type, so the same tree serves where only sizes count and where
texts do.

A path is followed name by name, as the file system does it: each name but the last has to be
a directory, one dot stands for the directory itself and two for the one above.  A path that
leaves the working directory leads outside, where everything is allowed and nothing is recorded.
-/

namespace ChainIdentity

/-- Why a file or directory cannot be reached or made. -/
inductive FileError where
  /-- A directory on the way does not exist. -/
  | notFound
  /-- There is something of that name already. -/
  | alreadyExists
  /-- Something on the way is no directory. -/
  | notDirectory
  /-- A name is too long. -/
  | nameTooLong
  /-- The path holds a null character. -/
  | nullCharacter
deriving DecidableEq, Repr

/-- The wording of a file error. -/
def FileError.message : FileError → String
  | .notFound => "No such file or directory (os error 2)"
  | .alreadyExists => "File exists (os error 17)"
  | .notDirectory => "Not a directory (os error 20)"
  | .nameTooLong => "File name too long (os error 36)"
  | .nullCharacter => "file name contained an unexpected NUL byte"

/-- What there is at a location. -/
inductive FileNode (α : Type) where
  /-- A file. -/
  | file (content : α)
  /-- A directory. -/
  | directory
deriving Repr

/-- The names that lead from the working directory to a file or directory. -/
abbrev Location := List String

/-- The files and directories below a working directory. -/
structure FileTree (α : Type) where
  /-- What there is, the working directory itself apart. -/
  nodes : List (Location × FileNode α)

/-- A path, taken apart. -/
structure FilePath where
  /-- Whether it starts at the root of the file system. -/
  isAbsolute : Bool
  /-- Its names in order; names that say nothing are left out. -/
  names : List String
deriving DecidableEq, Repr

namespace FilePath

/-- The path that a text is. -/
def ofText (s : String) : FilePath where
  isAbsolute := s.toList.head? == some '/'
  names := (Text.parts '/' s.toList).filterMap fun part =>
    if part.isEmpty || part == ['.'] then none else some (String.ofList part)

/-- The path of the directory that holds the file. -/
def parent (path : FilePath) : FilePath :=
  { path with names := path.names.dropLast }

end FilePath

/-- Where a path leads. -/
inductive Place where
  /-- To a location below the working directory. -/
  | inside (location : Location)
  /-- Anywhere else. -/
  | outside
deriving DecidableEq, Repr

namespace FileTree

variable {α : Type}

/-- Nothing but the working directory. -/
def empty : FileTree α := ⟨[]⟩

/-- What there is at a location; the working directory is a directory. -/
def find? (tree : FileTree α) (location : Location) : Option (FileNode α) :=
  if location.isEmpty then some .directory
  else (tree.nodes.find? fun node => node.1 == location).map (·.2)

/-- Whether a location is that of a directory. -/
def isDirectory (tree : FileTree α) (location : Location) : Bool :=
  match tree.find? location with
  | some .directory => true
  | _ => false

/-- The most bytes that a name may have. -/
def nameLimit : Nat := 255

/-- Follows names from a directory on.  The last one leads to whatever there is. -/
def follow (tree : FileTree α) : Location → List String → Except FileError Place
  | location, [] => .ok (.inside location)
  | location, name :: rest =>
    if !tree.isDirectory location then .error .notDirectory
    else if name = ".." then
      if location.isEmpty then .ok .outside else follow tree location.dropLast rest
    else if nameLimit < name.utf8ByteSize then .error .nameTooLong
    else
      match tree.find? (location ++ [name]) with
      | none => .error .notFound
      | some _ => follow tree (location ++ [name]) rest

/-- Where a path leads. -/
def resolve (tree : FileTree α) (path : FilePath) : Except FileError Place :=
  if path.isAbsolute then .ok .outside else tree.follow [] path.names

/-- Puts something at a location in place of what there was. -/
def put (tree : FileTree α) (location : Location) (node : FileNode α) : FileTree α :=
  ⟨tree.nodes.filter (·.1 != location) ++ [(location, node)]⟩

/-- Takes away what there is at a location. -/
def remove (tree : FileTree α) (location : Location) : FileTree α :=
  ⟨tree.nodes.filter (·.1 != location)⟩

/-- Puts a file at a location, with the directories on the way. -/
def putFile (tree : FileTree α) (location : Location) (content : α) : FileTree α :=
  let directories := (List.range location.length).drop 1
  let withParents := directories.foldl
    (fun tree count =>
      let above := location.take count
      if (tree.find? above).isSome then tree else tree.put above .directory)
    tree
  withParents.put location (.file content)

/-- The files with their locations. -/
def files (tree : FileTree α) : List (Location × α) :=
  tree.nodes.filterMap fun node =>
    match node.2 with
    | .file content => some (node.1, content)
    | .directory => none

/-- Makes one directory; the one above it has to be there. -/
def makeDirectory (tree : FileTree α) (names : List String) : Except FileError (FileTree α) := do
  match names.getLast? with
  | none => throw .alreadyExists
  | some name =>
    match ← tree.follow [] names.dropLast with
    | .outside => return tree
    | .inside location =>
      if !tree.isDirectory location then throw .notDirectory
      else if name = ".." then throw .alreadyExists
      else if nameLimit < name.utf8ByteSize then throw .nameTooLong
      else if (tree.find? (location ++ [name])).isSome then throw .alreadyExists
      else return tree.put (location ++ [name]) .directory

/-- Whether the names lead to a directory. -/
def leadsToDirectory (tree : FileTree α) (names : List String) : Bool :=
  match tree.follow [] names with
  | .ok (.inside location) => tree.isDirectory location
  | .ok .outside => true
  | .error _ => false

/-- Makes a directory with all directories above it that are missing.  One that is there
already is as good as made. -/
def makeDirectories (tree : FileTree α) (names : List String) :
    Except FileError (FileTree α) :=
  match _h : names with
  | [] => .ok tree
  | name :: rest =>
    match tree.makeDirectory (name :: rest) with
    | .ok tree => .ok tree
    | .error error =>
      if error = .notFound then
        match tree.makeDirectories (name :: rest).dropLast with
        | .error error => .error error
        | .ok tree =>
          match tree.makeDirectory (name :: rest) with
          | .ok tree => .ok tree
          | .error error =>
            if tree.leadsToDirectory (name :: rest) then .ok tree else .error error
      else if tree.leadsToDirectory (name :: rest) then .ok tree
      else .error error
termination_by names.length
decreasing_by simp [List.length_dropLast]

/-- Makes the directory of a path with all directories above it that are missing. -/
def makeAll (tree : FileTree α) (path : FilePath) : Except FileError (FileTree α) :=
  if path.names.any fun name => name.toList.contains '\x00' then .error .nullCharacter
  else if path.isAbsolute then .ok tree
  else tree.makeDirectories path.names

/-- The size of what a path leads to, if it leads to anything inside. -/
def size? (tree : FileTree α) (sizeOf : α → Nat) (path : FilePath) : Option Nat :=
  match tree.resolve path with
  | .ok (.inside location) =>
    match tree.find? location with
    | some (.file content) => some (sizeOf content)
    | some .directory => some 4096
    | none => none
  | _ => none

/-- Opens a file for writing at its end: it is there afterwards, with the contents that it had
or the given first ones.  Gives its location, unless it lies outside. -/
def openAppend (tree : FileTree α) (path : FilePath) (first : α) : FileTree α × Option Location :=
  match path.names.getLast? with
  | none => (tree, none)
  | some name =>
    match tree.resolve path.parent with
    | .ok (.inside location) =>
      let location := location ++ [name]
      if (tree.find? location).isSome then (tree, some location)
      else (tree.put location (.file first), some location)
    | _ => (tree, none)

/-- Changes the contents of a file. -/
def modify (tree : FileTree α) (location : Location) (change : α → α) : FileTree α :=
  ⟨tree.nodes.map fun node =>
    match node with
    | (place, .file content) =>
      if place == location then (place, .file (change content)) else (place, .file content)
    | other => other⟩

end FileTree

end ChainIdentity
