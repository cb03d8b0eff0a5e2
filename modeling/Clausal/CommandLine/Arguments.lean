import Clausal.Text.Cut

/-! The arguments of the command line.

Options and files may be mixed. An option whose value is missing takes the next argument, and after
a lone double dash everything is a file.
-/

set_option autoImplicit false

namespace Clausal.CommandLine

/-- The stage of compilation that is shown. -/
inductive Stage where
  | units
  | sentences
  deriving DecidableEq

def Stage.ofName? : String → Option Stage
  | "units" => some .units
  | "sentences" => some .sentences
  | _ => none

structure Arguments where
  files : List String := []
  lenient : Bool := false
  rejectUnknown : Bool := false
  jobs : Option Nat := none
  stage : Stage := .units
  deriving DecidableEq

/-- The options that need a value. -/
inductive Valued where
  | jobs
  | emit
  deriving DecidableEq

def Valued.name : Valued → String
  | .jobs => "--jobs"
  | .emit => "--emit"

inductive UsageError where
  | unknownOption (option : String)
  | repeated (option : String)
  | missingValue (option : String)
  | invalidValue (option value : String)
  | unexpectedValue (option : String)
  | loudAndQuiet
  | noFile
  | emptyFile
  deriving DecidableEq

def UsageError.message : UsageError → String
  | .unknownOption option => "unexpected argument " ++ option
  | .repeated option => option ++ " cannot be given that often"
  | .missingValue option => option ++ " needs a value"
  | .invalidValue option value => "invalid value '" ++ value ++ "' for " ++ option
  | .unexpectedValue option => option ++ " takes no value"
  | .loudAndQuiet => "-v cannot be used with -q"
  | .noFile => "no source file given"
  | .emptyFile => "a source file needs a name"

/-- What has been read of the arguments. -/
structure Parsing where
  files : List String := []
  lenient : Bool := false
  rejectUnknown : Bool := false
  jobs : Option Nat := none
  stage : Option Stage := none
  verbose : Nat := 0
  quiet : Nat := 0
  /-- The option whose value comes next. -/
  awaiting : Option Valued := none
  onlyFiles : Bool := false

/-- A natural number below `2 ^ 64`, which a plus sign may lead. -/
def readJobs? (value : String) : Option Nat :=
  let digits :=
    match value.toList with
    | '+' :: rest => rest
    | cs => cs
  if !digits.isEmpty && digits.all Char.isDigit then
    let number := Nat.ofDigitChars 10 digits 0
    if number < Nat.pow 2 64 then some number else none
  else none

namespace Parsing

/-- How often a flag that sets the verbosity may be given. -/
def verbosityLimit : Nat := 2

def addFile (p : Parsing) (path : String) : Except UsageError Parsing :=
  if path.isEmpty then .error .emptyFile else .ok { p with files := path :: p.files }

def setValue (p : Parsing) (value : String) : Valued → Except UsageError Parsing
  | .jobs =>
    if p.jobs.isSome then .error (.repeated Valued.jobs.name)
    else
      match readJobs? value with
      | some jobs => .ok { p with jobs := some jobs, awaiting := none }
      | none => .error (.invalidValue Valued.jobs.name value)
  | .emit =>
    if p.stage.isSome then .error (.repeated Valued.emit.name)
    else
      match Stage.ofName? value with
      | some stage => .ok { p with stage := some stage, awaiting := none }
      | none => .error (.invalidValue Valued.emit.name value)

/-- An option with a value, which is the next argument if none is attached. -/
def valued (p : Parsing) (option : Valued) : Option String → Except UsageError Parsing
  | some value => p.setValue value option
  | none => .ok { p with awaiting := some option }

/-- An option by its long name and the value attached to it. -/
def long (p : Parsing) (name : String) (value : Option String) : Except UsageError Parsing :=
  match name, value with
  | "--jobs", value => p.valued .jobs value
  | "--emit", value => p.valued .emit value
  | "--lenient", none =>
    if p.lenient then .error (.repeated name) else .ok { p with lenient := true }
  | "--reject-unknown", none =>
    if p.rejectUnknown then .error (.repeated name) else .ok { p with rejectUnknown := true }
  | "--lenient", some _ => .error (.unexpectedValue name)
  | "--reject-unknown", some _ => .error (.unexpectedValue name)
  | _, _ => .error (.unknownOption name)

/-- Short options written together. What follows the letter of an option with a value is that value,
an equals sign between them aside. -/
def short (p : Parsing) : List Char → Except UsageError Parsing
  | [] => .ok p
  | 'v' :: rest =>
    if p.verbose < verbosityLimit then { p with verbose := p.verbose + 1 }.short rest
    else .error (.repeated "-v")
  | 'q' :: rest =>
    if p.quiet < verbosityLimit then { p with quiet := p.quiet + 1 }.short rest
    else .error (.repeated "-q")
  | ['j'] => p.valued .jobs none
  | 'j' :: '=' :: value => p.valued .jobs (some (String.ofList value))
  | 'j' :: value => p.valued .jobs (some (String.ofList value))
  | c :: _ => .error (.unknownOption ("-" ++ c.toString))

/-- Read one argument. -/
def step (p : Parsing) (argument : String) : Except UsageError Parsing :=
  if p.onlyFiles then p.addFile argument
  else
    match p.awaiting, argument.toList with
    -- What looks like an option is never the value of another one.
    | some option, '-' :: _ => .error (.missingValue option.name)
    | some option, _ => p.setValue argument option
    | none, ['-', '-'] => .ok { p with onlyFiles := true }
    | none, '-' :: '-' :: name =>
      match Text.cutFirst '=' name with
      | some (name, value) =>
        p.long ("--" ++ String.ofList name) (some (String.ofList value))
      | none => p.long argument none
    | none, ['-'] => p.addFile argument
    | none, '-' :: letters => p.short letters
    | none, _ => p.addFile argument

def finish (p : Parsing) : Except UsageError Arguments :=
  match p.awaiting with
  | some option => .error (.missingValue option.name)
  | none =>
    if 0 < p.verbose ∧ 0 < p.quiet then .error .loudAndQuiet
    else if p.files.isEmpty then .error .noFile
    else
      .ok
        { files := p.files.reverse
          lenient := p.lenient
          rejectUnknown := p.rejectUnknown
          jobs := p.jobs
          stage := p.stage.getD .units }

end Parsing

/-- Read the arguments of the command line. -/
def Arguments.parse (arguments : List String) : Except UsageError Arguments :=
  match arguments.foldlM Parsing.step {} with
  | .ok parsing => parsing.finish
  | .error error => .error error

end Clausal.CommandLine
