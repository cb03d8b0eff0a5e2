import Clausal.CommandLine.Arguments
import Clausal.Compile.Batch

/-! What a run of the command line prints and how it ends. -/

set_option autoImplicit false

namespace Clausal.CommandLine

/-- Counts over all files. -/
structure Totals where
  files : Nat := 0
  failed : Nat := 0
  warnings : Nat := 0
  notes : Nat := 0
  deriving DecidableEq

namespace Totals

def add (totals : Totals) (file : FileOutcome) : Totals :=
  { files := totals.files + 1
    failed := totals.failed + (if file.outcome.isOk then 0 else 1)
    warnings := totals.warnings + file.outcome.warnings.length
    notes := totals.notes + file.outcome.notes.length }

def ofFiles (files : List FileOutcome) : Totals :=
  files.foldl add {}

def render (totals : Totals) : String :=
  "compiled " ++ toString totals.files ++ " file(s): " ++ toString totals.failed ++ " failed, "
    ++ toString totals.warnings ++ " warning(s), " ++ toString totals.notes ++ " note(s)"

/-- The message a run fails with, if a file failed. -/
def failure? (totals : Totals) : Option String :=
  if 0 < totals.failed then
    some (toString totals.failed ++ " of " ++ toString totals.files
      ++ " file(s) failed to compile")
  else none

end Totals

/-- The lines a file adds to the output: a header, then its units or its sentences. -/
def outputLines (stage : Stage) (file : FileOutcome) : List String :=
  ("==> " ++ file.path) ::
    match stage with
    | .units => file.outcome.units.map SemanticUnit.render
    | .sentences => file.outcome.sentences.map Sentence.render

/-- The lines a file adds to the report of what went wrong. -/
def messageLines (file : FileOutcome) : List String :=
  file.outcome.errors.map ("error: " ++ ·)
    ++ file.outcome.warnings.map ("warning: " ++ ·)
    ++ file.outcome.notes.map ("note: " ++ ·)

/-- What a run leaves: the lines on both outputs, the exit code, and why it failed. -/
structure Report where
  output : List String := []
  messages : List String := []
  exitCode : Nat := 0
  failure : Option String := none
  deriving DecidableEq

namespace Report

/-- A run that failed before it compiled anything. -/
def ofSettingsError (error : SettingsError) : Report :=
  { exitCode := 1, failure := some error.message }

def ofFiles (stage : Stage) (files : List FileOutcome) : Report :=
  let totals := Totals.ofFiles files
  { output := files.flatMap (outputLines stage)
    messages := files.flatMap messageLines ++ [totals.render]
    exitCode := if totals.failure?.isSome then 1 else 0
    failure := totals.failure? }

end Report

def Arguments.settings (arguments : Arguments) : Settings :=
  { jobs := arguments.jobs
    options := ({} : Options).setLenient arguments.lenient
      |>.setRejectUnknown arguments.rejectUnknown }

/-- Run the compiler over the files of the arguments. A run that panics leaves no report. -/
def run (host : Host) (arguments : Arguments) (read : FileReader) : Option Report :=
  match arguments.settings.toCompiler with
  | .error error => some (.ofSettingsError error)
  | .ok compiler =>
    (compiler.compileFiles host read arguments.files).map (Report.ofFiles arguments.stage)

end Clausal.CommandLine
