import Phrasebook.Text.Fields

/-!
# Arguments of the command line

* `UsageError`, `UsageError.message` — what can be wrong with the arguments.
* `OptionTable`, `scan` — options, and the arguments sorted into options and operands.
* `Request`, `Request.ofArguments` — what the arguments ask for, up to the command.
* `GenerateRequest`, `GenerateRequest.ofArguments` — what the arguments of the command ask for.
-/

namespace Phrasebook.Command

open Phrasebook.Text

/-- What can be wrong with the arguments. -/
inductive UsageError where
  | unknownOption (name : String)
  | missingValue (name : String)
  | unexpectedValue (name : String)
  | missingCommand
  | unknownCommand (name : String)
  | missingProject
  | extraArgument (argument : String)
  | noSuchFolder (path : String)
  | projectIsFile (path : String)
  | outputIsFile (path : String)
  | badProperty (argument : String)
  deriving DecidableEq, Repr

/-- The error in words. -/
def UsageError.message : UsageError → String
  | .unknownOption name => "no such option: " ++ name
  | .missingValue name => "option '" ++ name ++ "' requires an argument"
  | .unexpectedValue name => "option '" ++ name ++ "' does not take a value"
  | .missingCommand => "missing command"
  | .unknownCommand name => "no such command '" ++ name ++ "'"
  | .missingProject => "missing argument 'PROJECT_DIR'"
  | .extraArgument argument => "got unexpected extra argument (" ++ argument ++ ")"
  | .noSuchFolder path => "directory '" ++ path ++ "' does not exist"
  | .projectIsFile path => "directory '" ++ path ++ "' is a file"
  | .outputIsFile path => "directory '" ++ path ++ "' is a file"
  | .badProperty argument => "expected NAME=VALUE, got '" ++ argument ++ "'"

/-! ### Options and operands -/

/-- The options of a command, by their long names and by their letters. -/
structure OptionTable (σ : Type) where
  long : List (String × σ)
  short : List (Char × σ)
  takesValue : σ → Bool

/-- One argument that is an option: options with their values, and perhaps one more whose value
is the next argument.  An option without a value has an empty one. -/
structure Reading (σ : Type) where
  options : List (σ × String)
  pending : Option σ

variable {σ : Type}

/-- Reads letters after a single dash.  A letter that takes a value takes the rest of them. -/
def readLetters (t : OptionTable σ) : List Char → Except UsageError (Reading σ)
  | [] => .ok ⟨[], none⟩
  | c :: rest =>
    match t.short.lookup c with
    | none => .error (.unknownOption ("-" ++ c.toString))
    | some o =>
      if t.takesValue o then
        if rest.isEmpty then .ok ⟨[], some o⟩ else .ok ⟨[(o, String.ofList rest)], none⟩
      else (readLetters t rest).map fun r => ⟨(o, "") :: r.options, r.pending⟩

/-- Reads an argument that starts with a dash: a long name, perhaps with `=` and a value, or
letters after a single dash. -/
def readOption? (t : OptionTable σ) (argument : String) : Except UsageError (Reading σ) :=
  let (name, value) :=
    match cutAt? '=' argument.toList with
    | some (name, value) => (String.ofList name, some (String.ofList value))
    | none => (argument, none)
  match t.long.lookup name with
  | some o =>
    match t.takesValue o, value with
    | true, some value => .ok ⟨[(o, value)], none⟩
    | true, none => .ok ⟨[], some o⟩
    | false, some _ => .error (.unexpectedValue name)
    | false, none => .ok ⟨[(o, "")], none⟩
  | none =>
    if argument.startsWith "--" then .error (.unknownOption name)
    else readLetters t (argument.toList.drop 1)

/-- Arguments sorted into options, with their values, and operands. -/
structure Sorted (σ : Type) where
  options : List (σ × String)
  operands : List String

/-- Whether an argument is read as options: a dash and something after it. -/
def looksLikeOption (argument : String) : Bool :=
  argument.startsWith "-" && argument ≠ "-"

/-- Sorts arguments.  After `--` all of them are operands, and so are all from the first operand
on unless the two kinds may be mixed. -/
def scan (t : OptionTable σ) (mixed : Bool) : List String → Except UsageError (Sorted σ)
  | [] => .ok ⟨[], []⟩
  | argument :: rest =>
    if argument = "--" then .ok ⟨[], rest⟩
    else if looksLikeOption argument then
      match readOption? t argument with
      | .error e => .error e
      | .ok ⟨options, none⟩ =>
        (scan t mixed rest).map fun s => ⟨options ++ s.options, s.operands⟩
      | .ok ⟨options, some o⟩ =>
        match rest with
        | [] => .error (.missingValue argument)
        | value :: rest =>
          (scan t mixed rest).map fun s => ⟨options ++ (o, value) :: s.options, s.operands⟩
    else if mixed then (scan t mixed rest).map fun s => ⟨s.options, argument :: s.operands⟩
    else .ok ⟨[], argument :: rest⟩

/-! ### Requests -/

/-- The options before the command. -/
inductive ToolOption where
  | version
  | logLevel
  | help
  deriving DecidableEq, Repr

/-- The options before the command, by name. -/
def toolOptions : OptionTable ToolOption where
  long := [("--version", .version), ("--log-level", .logLevel), ("--help", .help)]
  short := [('V', .version)]
  takesValue := (· == .logLevel)

/-- The options of the command. -/
inductive GenerateOption where
  | output
  | property
  | failOnError
  | toStdout
  | help
  deriving DecidableEq, Repr

/-- The options of the command, by name. -/
def generateOptions : OptionTable GenerateOption where
  long := [("--output", .output), ("--property", .property), ("--fail-on-error", .failOnError),
    ("--stdout", .toStdout), ("--help", .help)]
  short := [('o', .output), ('p', .property)]
  takesValue o := o == .output || o == .property

/-- A class is asked for.  There should be one operand, the project. -/
structure GenerateRequest where
  operands : List String
  output : Option String
  properties : List String
  failOnError : Bool
  toStdout : Bool
  deriving DecidableEq, Repr

/-- What the arguments ask for, up to the command. -/
inductive Request where
  | showVersion
  | showHelp
  /-- A class is asked for, with these arguments of the command. -/
  | generate (logLevel : Option String) (arguments : List String)
  deriving DecidableEq, Repr

/-- The values of an option, in order. -/
def valuesOf [DecidableEq σ] (o : σ) (options : List (σ × String)) : List String :=
  (options.filter (·.1 = o)).map (·.2)

/-- The request that the arguments of the command make, or `none` if they ask for help. -/
def GenerateRequest.ofArguments (arguments : List String) :
    Except UsageError (Option GenerateRequest) := do
  let s ← scan generateOptions true arguments
  if s.options.any (·.1 = .help) then return none
  return some
    { operands := s.operands
      output := (valuesOf .output s.options).getLast?
      properties := valuesOf .property s.options
      failOnError := s.options.any (·.1 = .failOnError)
      toStdout := s.options.any (·.1 = .toStdout) }

/-- The project of a request. -/
def GenerateRequest.project (r : GenerateRequest) : Except UsageError String :=
  match r.operands with
  | [] => .error .missingProject
  | [project] => .ok project
  | _ :: extra :: _ => .error (.extraArgument extra)

/-- The version or the help, whichever is asked for first, if one is. -/
def announced? (options : List (ToolOption × String)) : Option Request :=
  match options.find? fun p => p.1 = .version || p.1 = .help with
  | some (.version, _) => some .showVersion
  | some _ => some .showHelp
  | none => none

/-- The request when there is an unknown word in place of the command.  If the word looks like an
option, it and what follows it may still ask for the version or the help. -/
def requestWithout (command : String) (rest : List String) : Except UsageError Request := do
  if looksLikeOption command then
    let s ← scan toolOptions false (command :: rest)
    match announced? s.options with
    | some r => return r
    | none => throw (.unknownCommand command)
  else throw (.unknownCommand command)

/-- The request that the arguments make.  To show the version or the help comes first. -/
def Request.ofArguments (arguments : List String) : Except UsageError Request := do
  let s ← scan toolOptions false arguments
  match announced? s.options with
  | some r => return r
  | none =>
    match s.operands with
    | [] => throw .missingCommand
    | command :: rest =>
      if command = "generate" then
        return .generate (valuesOf .logLevel s.options).getLast? rest
      else requestWithout command rest

end Phrasebook.Command
