import Questionnaire.Json.Reader
import Questionnaire.Text.Blank

/-! # Files

What a program does with files is written against a `FileSystem`: the four operations that it needs,
in any monad. Failures are values (`FileError`).

A path is a row of names between slashes. Names that are empty or a single dot do not count, except
for a dot in front. `Path.stem?` and `Path.extension?` cut the last name at its last dot, unless
that stands in front. -/

namespace Questionnaire

/-! ### Paths -/

namespace Path

/-- The names of a path. -/
def components (path : String) : List (List Char) :=
  match Text.splitAt (· == '/') path.toList with
  | ['.'] :: rest => ['.'] :: rest.filter fun name => !name.isEmpty && name != ['.']
  | names => names.filter fun name => !name.isEmpty && name != ['.']

/-- The last name of a path, unless it stands for a directory. -/
def fileName? (path : String) : Option (List Char) :=
  match (components path).getLast? with
  | none => none
  | some name => if name = ['.'] || name = ['.', '.'] then none else some name

/-- The parts of a name before and after its last dot, unless that stands in front. -/
def cutAtDot? (name : List Char) : Option (List Char × List Char) :=
  let after := (name.reverse.takeWhile (· != '.')).reverse
  let before := name.take (name.length - after.length - 1)
  if after.length < name.length && !before.isEmpty then some (before, after) else none

/-- The last name of a path without its extension. -/
def stem? (path : String) : Option (List Char) :=
  (fileName? path).map fun name => ((cutAtDot? name).map (·.1)).getD name

/-- The extension of the last name of a path. -/
def extension? (path : String) : Option (List Char) :=
  ((fileName? path).bind cutAtDot?).map (·.2)

/-- A path without the slashes at its end. -/
def withoutSlashes (path : List Char) : List Char :=
  (path.reverse.dropWhile (· == '/')).reverse

/-- The path of the directory that a path lies in; empty for a bare name. -/
def parent (path : String) : String :=
  let start := (withoutSlashes path.toList).reverse.dropWhile (· != '/')
  .ofList (withoutSlashes start.reverse)

/-- The path of a name in a directory. -/
def join (directory name : String) : String :=
  if directory.endsWith "/" then directory ++ name else directory ++ "/" ++ name

end Path

/-! ### Contents -/

/-- Why a file operation fails. -/
inductive FileError where
  | notFound
  | notDirectory
  | isDirectory
  | alreadyExists
  /-- The bytes are no text. -/
  | notText
  | other (description : String)
  deriving DecidableEq, Repr

/-- What is reported about a file operation that fails. -/
def FileError.message : FileError → String
  | .notFound => "No such file or directory (os error 2)"
  | .notDirectory => "Not a directory (os error 20)"
  | .isDirectory => "Is a directory (os error 21)"
  | .alreadyExists => "File exists (os error 17)"
  | .notText => "stream did not contain valid UTF-8"
  | .other description => description

/-- What a file holds. -/
inductive FileContent where
  | text (content : String)
  /-- Bytes that are no text. -/
  | binary (bytes : List UInt8)
  deriving DecidableEq

namespace FileContent

/-- The size in bytes. -/
def size : FileContent → Nat
  | text content => content.utf8ByteSize
  | binary bytes => bytes.length

/-- The content as it is read for JSON. -/
def source : FileContent → Json.Source
  | text content => Json.readText content
  | binary bytes => Json.readBytes bytes

/-- The content, provided that it is a text. -/
def asText : FileContent → Except FileError String
  | text content => .ok content
  | binary _ => .error .notText

end FileContent

/-! ### Access -/

/-- Access to files by their paths. -/
structure FileSystem (m : Type → Type) where
  read : String → m (Except FileError FileContent)
  /-- Whether there is a file or directory at a path. -/
  isThere : String → m Bool
  /-- Makes a directory and those that it lies in, as far as they are missing. -/
  makeDirectories : String → m (Except FileError Unit)
  write : String → String → m (Except FileError Unit)

end Questionnaire
