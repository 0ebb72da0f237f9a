import Questionnaire.Files.Basic

/-! # Directories in memory

A `Directory` is a tree of files that exists nowhere but in memory, and `Directory.fileSystem` gives
access to it by paths that start at its root. -/

namespace Questionnaire

/-- What stands at a place of a directory. -/
inductive FileEntry where
  | file (content : FileContent)
  | directory

/-- A directory: what stands at the places below it, each given by the names that lead there. -/
structure Directory where
  entries : Table (List String) FileEntry

namespace Directory

/-- An empty directory. -/
def empty : Directory := ⟨Table.empty⟩

/-- What stands at a place. -/
def find? (directory : Directory) (place : List String) : Option FileEntry :=
  if place.isEmpty then some .directory else directory.entries.get? place

/-- Puts something at a place. -/
def put (directory : Directory) (place : List String) (entry : FileEntry) : Directory :=
  ⟨directory.entries.insert place entry⟩

/-- The names of a path, except those that lead nowhere. -/
def names (path : String) : List String :=
  ((Path.components path).filter (· != ['.'])).map .ofList

/-- The place that a name leads to from a place. -/
def enter (place : List String) (name : String) : List String :=
  if name = ".." then place.dropLast else place ++ [name]

/-- Follows names from a place that has to be a directory, as does every place on the way. -/
def follow (directory : Directory) (place : List String) :
    List String → Except FileError (List String)
  | [] => .ok place
  | name :: rest =>
    match directory.find? place with
    | some .directory => directory.follow (enter place name) rest
    | some (.file _) => .error .notDirectory
    | none => .error .notFound

/-- Reads the file at a path. -/
def contentAt (directory : Directory) (path : String) : Except FileError FileContent := do
  match directory.find? (← directory.follow [] (names path)) with
  | none => throw .notFound
  | some .directory => throw .isDirectory
  | some (.file content) => if path.endsWith "/" then throw .notDirectory else return content

/-- Whether something stands at a path. -/
def isThere (directory : Directory) (path : String) : Bool :=
  match directory.follow [] (names path) with
  | .ok place => (directory.find? place).isSome
  | .error _ => false

/-- Makes the directories that the names lead through from a place, as far as they are missing.
If one cannot be made, those before it stay. -/
def makeBelow (directory : Directory) (place : List String) :
    List String → Except FileError Unit × Directory
  | [] => (.ok (), directory)
  | name :: rest =>
    let next := enter place name
    match directory.find? next with
    | some .directory => directory.makeBelow next rest
    | some (.file _) =>
      (.error (if rest.isEmpty then .alreadyExists else .notDirectory), directory)
    | none => (directory.put next .directory).makeBelow next rest

/-- Makes a directory and those that it lies in. -/
def makeDirectories (directory : Directory) (path : String) : Except FileError Unit × Directory :=
  directory.makeBelow [] (names path)

/-- Writes a text to the file at a path, whose directory has to exist. -/
def writeFile (directory : Directory) (path content : String) : Except FileError Directory := do
  let place ← directory.follow [] (names path)
  match directory.find? place with
  | some .directory => throw .isDirectory
  | some (.file _) =>
    if path.endsWith "/" then throw .notDirectory
    else return directory.put place (.file (.text content))
  | none =>
    if path.endsWith "/" then throw .isDirectory
    else return directory.put place (.file (.text content))

/-- Access to a directory in memory. -/
def fileSystem : FileSystem (StateM Directory) where
  read path := return (← get).contentAt path
  isThere path := return (← get).isThere path
  makeDirectories path := modifyGet (·.makeDirectories path)
  write path content := modifyGet fun directory =>
    match directory.writeFile path content with
    | .ok next => (.ok (), next)
    | .error error => (.error error, directory)

end Directory

end Questionnaire
