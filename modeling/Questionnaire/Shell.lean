import Questionnaire.Session

/-! # Filling in a form line by line

The shell takes one `Command` a line, changes the session and answers in text. `Command.ofLine?`
reads a line, `Command.run` says what a command does, and `Shell.transcript` is everything that is
written while a person types some lines. -/

namespace Questionnaire

/-- A line typed into the shell. -/
inductive Command where
  | quit
  | help
  | show
  | set (key value : String)
  | clear (key : String)
  | add (group : String)
  | remove (group : String) (index : Option Nat)
  | validate
  | submit
  | reset
  /-- A command whose arguments are missing, with its usage. -/
  | incomplete (usage : String)
  | unknown (name : String)
  deriving DecidableEq

namespace Command

/-- Reads the arguments of the command that answers a question. -/
def ofSetArguments (arguments : List Char) : Command :=
  match Text.cutAtBlank arguments with
  | some (key, value) => .set (.ofList key) (.ofList (Text.trim value))
  | none => .incomplete "set <key> <value>"

/-- Reads the arguments of the command that removes an instance. -/
def ofRemoveArguments (arguments : List Char) : Command :=
  match Text.words arguments with
  | [] => .incomplete "remove <group> <index>"
  | [group] => .remove (.ofList group) none
  | group :: index :: _ => .remove (.ofList group) (Decimal.readLoose? index)

/-- Reads a command with its arguments. -/
def ofWords (name : String) (arguments : List Char) : Command :=
  match name with
  | "quit" => .quit
  | "exit" => .quit
  | "help" => .help
  | "show" => .show
  | "set" => ofSetArguments arguments
  | "clear" => .clear (.ofList arguments)
  | "add" => .add (.ofList arguments)
  | "remove" => ofRemoveArguments arguments
  | "validate" => .validate
  | "submit" => .submit
  | "reset" => .reset
  | name => .unknown name

/-- Reads a line; a blank one is no command. -/
def ofLine? (line : List Char) : Option Command :=
  match Text.trim line with
  | [] => none
  | text =>
    match Text.cutAtBlank text with
    | some (name, arguments) => some (ofWords (.ofList name) (Text.trim arguments))
    | none => some (ofWords (.ofList text) [])

end Command

namespace Shell

/-- What is written for help. -/
def helpLines : List String := [
  "commands:",
  "  show                     list visible questions with their answers",
  "  set <key> <value>        answer a question (JSON arrays/objects accepted)",
  "  clear <key>              remove an answer",
  "  add <group>              add an instance to a repeatable group",
  "  remove <group> <index>   remove an instance",
  "  validate                 run validation",
  "  submit                   print the submission",
  "  reset                    clear every answer",
  "  quit                     leave the preview"]

/-! ### Keys and values -/

/-- Whether a text is one of the two words that extend a key, and digits. -/
def isExtension (rest : String) : Bool :=
  let digits := rest.toList.drop 4
  (rest.startsWith "_sub" || rest.startsWith "_opt")
    && !digits.isEmpty && digits.all Decimal.isDigit

/-- Refuses a text that is neither a field key nor one that a sub-question or option extends. -/
def checkKey (key : String) : Except KeyError Unit :=
  match FieldKey.split? key with
  | some (_, rest) =>
    if rest = "" || isExtension rest then .ok () else (FieldKey.parse key).map fun _ => ()
  | none => (FieldKey.parse key).map fun _ => ()

/-- Whether a typed answer may be JSON. -/
def looksLikeJson (text : String) : Bool := text.startsWith "[" || text.startsWith "\x7b"

/-- A typed answer: a list or object in JSON, or else a text. -/
def readValue (text : String) : AnswerValue :=
  if looksLikeJson text then
    match AnswerValue.decode.ofText text with
    | .ok value => value
    | .error _ => .text text
  else .text text

/-! ### Replies -/

/-- What is written about an error. -/
def errorLine (message : String) : String := "error: " ++ message

/-- What is written about a field that is shown. -/
def fieldLine (session : Session) (key : FieldKey) (question : Question) : String :=
  let answer := match session.state.answers.field? key with
    | some answer => answer.submitted.compact
    | none => "-"
  key.text ++ " [" ++ question.answerType.name ++ "] " ++ question.text
    ++ (if question.required then "*" else "") ++ " = " ++ answer

/-- What is written about the fields that are shown. -/
def fieldLines (session : Session) : List String :=
  session.visibility.toList.filterMap fun (key, visible) =>
    if visible then (session.document.question? key.coords).map (fieldLine session key) else none

/-- What is written about an entry of a report. -/
def reportLine (entry : String × String) : String := "  " ++ entry.1 ++ " - " ++ entry.2

/-- What is written about a report. -/
def reportLines (report : ValidationReport) : List String :=
  if report.isValid then ["valid"]
  else report.map reportLine ++ [s!"{report.length} error(s)"]

end Shell

namespace Command

open Shell

/-- Adds an instance of the group with the key. -/
def runAdd (session : Session) (key : String) : Except Overflow (Session × List String) :=
  match GroupKey.parse key with
  | .error error => .ok (session, [errorLine error.message])
  | .ok group =>
    match session.addInstance group with
    | .error (.refused error) => .ok (session, [errorLine error.message])
    | .error (.stopped overflow) => .error overflow
    | .ok (count, next) => .ok (next, [s!"{group} now has {count} instances"])

/-- Removes an instance of a group. -/
def runRemoveAt (session : Session) (group : GroupKey) (index : Nat) : Session × List String :=
  match session.removeInstance group index with
  | .error error => (session, [errorLine error.message])
  | .ok none => (session, ["nothing removed"])
  | .ok (some next) => (next, [s!"removed instance {index} of {group}"])

/-- Removes an instance of the group with the key. -/
def runRemove (session : Session) (key : String) (index : Option Nat) : Session × List String :=
  match GroupKey.parse key, index with
  | .error error, _ => (session, [errorLine error.message])
  | .ok group, some index => runRemoveAt session group index
  | .ok _, none => (session, [errorLine "usage: remove <group> <index>"])

/-- What a command makes of a session, and what is written, unless it stops the program; `now` is
the time of a submission. -/
def run (session : Session) (now : String) : Command → Except Overflow (Session × List String)
  | quit => .ok (session, [])
  | help => .ok (session, helpLines)
  | .show => .ok (session, fieldLines session)
  | set key value =>
    match checkKey key with
    | .ok () => .ok (session.setAnswer key (readValue value), ["ok"])
    | .error error => .ok (session, [errorLine error.message])
  | clear key =>
    .ok (session.clearAnswer key,
      [if (session.answer? key).isSome then "cleared" else "no answer"])
  | add group => runAdd session group
  | remove group index => .ok (runRemove session group index)
  | validate => .ok (session, reportLines session.validate)
  | submit => .ok (session, [(session.submission now).toJson.pretty])
  | reset => .ok (session.reset, ["reset"])
  | incomplete usage => .ok (session, [errorLine ("usage: " ++ usage)])
  | unknown name => .ok (session, [s!"unknown command '{name}', try 'help'"])

end Command

namespace Shell

/-- What is written first. -/
def greeting (session : Session) : String :=
  s!"Previewing '{session.document.sourceName}'. Type 'help' for commands."

/-- What is written while some lines are typed, up to the one that quits or stops the program. -/
def replies (now : String) (session : Session) : List (List Char) → List String × Option Overflow
  | [] => ([], none)
  | line :: rest =>
    match Command.ofLine? line with
    | none => replies now session rest
    | some .quit => ([], none)
    | some command =>
      match command.run session now with
      | .error overflow => ([], some overflow)
      | .ok (next, written) =>
        let (later, stop) := replies now next rest
        (written ++ later, stop)

/-- Everything that is written while a text is typed, piece by piece, and what stops the program, if
anything does; a line break follows each piece. -/
def transcript (session : Session) (now text : String) : List String × Option Overflow :=
  let (written, stop) := replies now session (Text.splitAt (· == '\n') text.toList)
  (greeting session :: written, stop)

end Shell

end Questionnaire
