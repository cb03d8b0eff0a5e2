import Clausal.Compile.Outcome

/-! Compiling many files at once.

Files are compiled independently of each other, so they may finish in any order. Each result carries
the position of its path, and the results are put back into the order of the paths.
-/

set_option autoImplicit false

namespace Clausal

/-- A way to read the text of the file at a path. -/
abbrev FileReader := String → Except FileError String

structure FileOutcome where
  path : String
  outcome : Outcome
  deriving DecidableEq

/-- Compile the file at a path. A file that cannot be read fails like a source does. -/
def compileFile (options : Options) (read : FileReader) (path : String) : FileOutcome :=
  match read path with
  | .ok source => ⟨path, compile options source⟩
  | .error error => ⟨path, .ofFailure ⟨.file error, some (.file path)⟩⟩

/-- How a compiler is set up. -/
structure Settings where
  /-- How many files are compiled at once; by default as many as there are processors. -/
  jobs : Option Nat := none
  options : Options := {}
  deriving DecidableEq

inductive SettingsError where
  | zeroJobs
  deriving DecidableEq

def SettingsError.message : SettingsError → String
  | .zeroJobs => "Compilation can't occur if no jobs are allowed"

/-- A compiler that may run at least one job. -/
structure Compiler where
  jobs : Option Nat
  options : Options
  some_job : jobs ≠ some 0
  deriving DecidableEq

def Settings.toCompiler (settings : Settings) : Except SettingsError Compiler :=
  if none_allowed : settings.jobs = some 0 then .error .zeroJobs
  else .ok ⟨settings.jobs, settings.options, none_allowed⟩

/-- What a batch runs on. -/
structure Host where
  processors : Nat
  /-- Whether a semaphore of so many permits can be made. If it cannot, to try it panics. -/
  makesSemaphore : Nat → Bool

namespace Host

/-- A semaphore can have so many permits and no more. -/
def BoundsPermits (host : Host) (limit : Nat) : Prop :=
  ∀ permits, host.makesSemaphore permits = true ↔ permits ≤ limit

/-- A host whose semaphores count their permits up to a limit. -/
def counting (limit processors : Nat) : Host :=
  { processors, makesSemaphore := fun permits => permits ≤ limit }

theorem boundsPermits_counting (limit processors : Nat) :
    (counting limit processors).BoundsPermits limit :=
  fun _ => decide_eq_true_iff

end Host

/-- One result and the position of its path. -/
structure Finished where
  position : Nat
  file : FileOutcome

namespace Finished

/-- Put results into the order of their paths, in whatever order they came. -/
def inOrder (results : List Finished) : List FileOutcome :=
  (results.mergeSort fun first second => first.position ≤ second.position).map Finished.file

end Finished

namespace Compiler

def compileFile (compiler : Compiler) (read : FileReader) (path : String) : FileOutcome :=
  Clausal.compileFile compiler.options read path

/-- The permits of a batch. A file is compiled under one of them. -/
def permits (compiler : Compiler) (host : Host) : Nat :=
  compiler.jobs.getD host.processors

/-- Compile every file, or panic before the first one. No file depends on another, so how many are
compiled at once and which of them finishes first leave no trace in the results. -/
def compileFiles (compiler : Compiler) (host : Host) (read : FileReader)
    (paths : List String) : Option (List FileOutcome) :=
  if host.makesSemaphore (compiler.permits host) then
    some <| Finished.inOrder <| paths.zipIdx.map fun (path, position) =>
      ⟨position, compiler.compileFile read path⟩
  else none

end Compiler

end Clausal
