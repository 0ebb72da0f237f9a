import Questionnaire.Program.Run
import Std.Time.DateTime.Timestamp

/-! # The program

`main` carries out what the arguments ask for, on the files of the machine. Refused arguments end
the program with status two, an error ends it with status one, and when it stops its status is
101. -/

namespace Questionnaire.Main

/-- What went wrong, by the number that the machine gives. -/
def errorOfCode (code : Nat) (text : String) : FileError :=
  match code with
  | 2 => .notFound
  | 17 => .alreadyExists
  | 20 => .notDirectory
  | 21 => .isDirectory
  | _ => .other text

/-- What went wrong. -/
def fileError (error : IO.Error) : FileError :=
  match error with
  | .noFileOrDirectory .. => .notFound
  | .inappropriateType _ code _ => errorOfCode code.toNat error.toString
  | .alreadyExists _ code _ => errorOfCode code.toNat error.toString
  | _ => .other error.toString

/-- The result of an attempt. -/
def attempt {α : Type} (action : IO α) : IO (Except FileError α) := do
  try
    return .ok (← action)
  catch error => return .error (fileError error)

/-- What some bytes hold. -/
def content (bytes : ByteArray) : FileContent :=
  match String.fromUTF8? bytes with
  | some text => .text text
  | none => .binary bytes.toList

/-- Access to the files of the machine. -/
def fileSystem : FileSystem IO where
  read path := attempt do return content (← IO.FS.readBinFile path)
  isThere path := do
    match ← attempt (IO.FS.Handle.mk path .read) with
    | .ok _ => return true
    | .error error => return error == .isDirectory
  makeDirectories path := attempt (IO.FS.createDirAll path)
  write path text := attempt (IO.FS.writeFile path text)

/-- The present time. -/
def now : IO String := do
  let time ← Std.Time.Timestamp.now
  return Clock.print time.toNanosecondsSinceUnixEpoch.val.toNat

/-- Writes a piece of output. -/
def write : Output → IO Unit
  | .standard text => IO.println text
  | .diagnostic text => IO.eprintln text

/-- Answers the lines that are typed into the shell, and gives back what stops the program, if
anything does. -/
partial def converse (session : Session) : IO (Option Overflow) := do
  let line ← (← IO.getStdin).getLine
  if line.isEmpty then return none
  match Command.ofLine? line.toList with
  | none => converse session
  | some .quit => return none
  | some command =>
    match command.run session (← now) with
    | .error overflow => return some overflow
    | .ok (next, replies) =>
      replies.forM IO.println
      converse next

/-- Runs the shell on the document and the answers in two files. -/
def preview (document : String) (answers : Option String) : IO (Option ProgramError) := do
  match ← (Program.loadSession fileSystem document answers).run.run [] with
  | (.ok session, _) =>
    IO.println (Shell.greeting session)
    return (← converse session).map .stopped
  | (.error error, _) => return some error

/-- Carries out an invocation. -/
def carryOut (invocation : Invocation) : IO (Option ProgramError) := do
  match invocation with
  | .preview document answers => preview document answers
  | invocation =>
    let outputDirectory ← IO.getEnv "FORM_CLONE_OUTPUT_DIR"
    let world : World := { now := ← now, outputDirectory, input := "" }
    let (output, error) ← Program.run fileSystem world invocation
    output.forM write
    return error

/-- How the program is used. -/
def usage : String :=
  "usage: form-clone [--verbose] <inspect|schema|export|validate|submit|preview> [options]"

end Questionnaire.Main

open Questionnaire Questionnaire.Main in
/-- Carries out what the arguments ask for. -/
def main (arguments : List String) : IO UInt32 := do
  match Invocation.ofArguments? arguments with
  | none =>
    IO.eprintln usage
    return 2
  | some invocation =>
    match ← carryOut invocation with
    | none => return 0
    | some (.stopped overflow) =>
      IO.eprintln overflow.message
      return 101
    | some error =>
      IO.eprintln ("Error: " ++ error.message)
      return 1
