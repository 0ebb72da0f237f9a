import Questionnaire.Export.Page

/-! # Arguments of the program

The program takes the name of a command and options, each written `--name value` or `--name=value`.
`Invocation.ofArguments?` reads them; arguments that it refuses are answered with the usage of
the program. -/

namespace Questionnaire

/-- The shape of a submission. -/
inductive SubmitFormat where
  | interactive
  | indexed
  deriving DecidableEq, Repr

/-- What the program is asked to do. -/
inductive Invocation where
  | inspect (document : String)
  | schema (out : Option String)
  | exportForm (document : String) (out config : Option String)
      (fidelity : Option InstanceFidelity) (title : Option String) (force : Bool)
  | validate (document : String) (answers : Option String)
  | submit (document answers : String) (format : SubmitFormat) (out : Option String)
  | preview (document : String) (answers : Option String)
  deriving DecidableEq

/-! ### Options -/

/-- The options of a command: those with a value and those without. -/
structure OptionNames where
  valued : List String
  switches : List String

/-- The options that are given, with their values. -/
structure GivenOptions where
  values : List (String × String)
  switches : List String

namespace GivenOptions

/-- No options. -/
def none : GivenOptions := ⟨[], []⟩

/-- Adds an option with a value, unless it has been given. -/
def addValue? (options : GivenOptions) (name value : String) : Option GivenOptions :=
  if (options.values.lookup name).isSome then .none
  else some { options with values := (name, value) :: options.values }

/-- Adds an option without a value, unless it has been given. -/
def addSwitch? (options : GivenOptions) (name : String) : Option GivenOptions :=
  if options.switches.contains name then .none
  else some { options with switches := name :: options.switches }

/-- Whether an argument can be the value of the option before it. -/
def isValue (argument : String) : Bool := argument == "-" || !argument.startsWith "-"

/-- The name of an option and the value written after an equals sign. -/
def cutAtEquals (option : List Char) : String × Option String :=
  match option.dropWhile (· != '=') with
  | [] => (.ofList option, .none)
  | _ :: value => (.ofList (option.takeWhile (· != '=')), some (.ofList value))

/-- Reads options; `-v` is short for `--verbose`, which every command takes. -/
def read? (names : OptionNames) (options : GivenOptions) : List String → Option GivenOptions
  | [] => some options
  | ["--"] => some options
  | argument :: rest =>
    match argument.toList with
    | ['-', 'v'] => do read? names (← options.addSwitch? "verbose") rest
    | '-' :: '-' :: text =>
      match cutAtEquals text with
      | (name, some value) =>
        if names.valued.contains name then do read? names (← options.addValue? name value) rest
        else .none
      | (name, .none) =>
        if name == "verbose" || names.switches.contains name then do
          read? names (← options.addSwitch? name) rest
        else if names.valued.contains name then
          match rest with
          | [] => .none
          | value :: rest =>
            if isValue value then do read? names (← options.addValue? name value) rest
            else .none
        else .none
    | _ => .none

/-- The value of an option that has to be given. -/
def required? (options : GivenOptions) (name : String) : Option String := options.values.lookup name

/-- Refuses an empty path. -/
def path? (path : String) : Option String := if path.isEmpty then .none else some path

/-- The path that an option gives; it has to be given. -/
def requiredPath? (options : GivenOptions) (name : String) : Option String :=
  (options.required? name).bind path?

/-- The path that an option gives, if it is given. -/
def optionalPath? (options : GivenOptions) (name : String) : Option (Option String) :=
  match options.values.lookup name with
  | .none => some .none
  | some path => (path? path).map some

/-- The choice that an option makes by name, if it is given. -/
def choice? {α : Type} (options : GivenOptions) (name : String) (choices : List (String × α)) :
    Option (Option α) :=
  match options.values.lookup name with
  | .none => some .none
  | some value => (choices.lookup value).map some

end GivenOptions

/-! ### Commands -/

namespace Invocation

/-- How fidelities are named on the command line. -/
def fidelityNames : List (String × InstanceFidelity) :=
  [("generic-text", .genericText), ("template", .template)]

/-- How the shapes of submissions are named on the command line. -/
def formatNames : List (String × SubmitFormat) :=
  [("interactive", .interactive), ("indexed", .indexed)]

/-- The options of a command. -/
def optionNames? : String → Option OptionNames
  | "inspect" => some ⟨["document"], []⟩
  | "schema" => some ⟨["out"], []⟩
  | "export" => some ⟨["document", "out", "config", "fidelity", "title"], ["force"]⟩
  | "validate" => some ⟨["document", "answers"], []⟩
  | "submit" => some ⟨["document", "answers", "format", "out"], []⟩
  | "preview" => some ⟨["document", "answers"], []⟩
  | _ => none

/-- The command with the name and some options. -/
def ofOptions? (name : String) (options : GivenOptions) : Option Invocation :=
  match name with
  | "inspect" => do return inspect (← options.requiredPath? "document")
  | "schema" => do return schema (← options.optionalPath? "out")
  | "export" => do
    return exportForm (← options.requiredPath? "document") (← options.optionalPath? "out")
      (← options.optionalPath? "config") (← options.choice? "fidelity" fidelityNames)
      (options.values.lookup "title") (options.switches.contains "force")
  | "validate" => do
    return validate (← options.requiredPath? "document") (← options.optionalPath? "answers")
  | "submit" => do
    return submit (← options.requiredPath? "document") (← options.requiredPath? "answers")
      ((← options.choice? "format" formatNames).getD .interactive)
      (← options.optionalPath? "out")
  | "preview" => do
    return preview (← options.requiredPath? "document") (← options.optionalPath? "answers")
  | _ => none

/-- Reads a command and its options. -/
def ofCommand? : List String → Option Invocation
  | [] => none
  | name :: arguments => do
    ofOptions? name (← GivenOptions.none.read? (← optionNames? name) arguments)

/-- Reads arguments; `--verbose` may also stand before the command. -/
def ofArguments? : List String → Option Invocation
  | "-v" :: arguments => ofCommand? arguments
  | "--verbose" :: arguments => ofCommand? arguments
  | arguments => ofCommand? arguments

end Invocation

end Questionnaire
