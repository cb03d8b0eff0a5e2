import Clausal.Compile.Failure
import Clausal.Meaning.Assembly

/-! Compiling one source. -/

set_option autoImplicit false

namespace Clausal

/-- A source that was read to its end. -/
structure Program where
  sentences : List Sentence
  units : List SemanticUnit
  notices : List Notice
  /-- The scopes left open, innermost first. -/
  openScopes : List Scope
  deriving DecidableEq

/-- Read a source, up to the first failure. A rejected sentence is located by its start. -/
def parse (options : Options) (source : String) : Except Failure Program :=
  match scan source with
  | .error error =>
    .error ⟨.stray error, some (.source (Position.locate source error.index))⟩
  | .ok scanned =>
    match assemble options scanned.sentences with
    | .error rejection =>
      .error
        ⟨.rejection rejection,
          scanned.sentences[rejection.index]?.map fun sentence =>
            .source (sentence.span.position source)⟩
    | .ok assembled =>
      .ok
        { sentences := scanned.sentences
          units := assembled.units
          notices := scanned.notices ++ assembled.notices
          openScopes := assembled.openScopes }

/-- All that compiling a source produces. After a failure there is one error and nothing else. -/
structure Outcome where
  sentences : List Sentence := []
  units : List SemanticUnit := []
  errors : List String := []
  warnings : List String := []
  notes : List String := []
  openScopes : List Scope := []
  deriving DecidableEq

namespace Outcome

def isOk (outcome : Outcome) : Bool :=
  outcome.errors.isEmpty

def ofFailure (failure : Failure) : Outcome :=
  { errors := [failure.message] }

/-- The diagnostics of one severity, each at its position. -/
def located (source : String) (diagnostics : List Diagnostic) (severity : Severity) : List String :=
  (diagnostics.filter fun diagnostic => diagnostic.severity == severity).map fun diagnostic =>
    diagnostic.locate source

def ofProgram (source : String) (program : Program) : Outcome :=
  let diagnostics := program.notices.map Notice.diagnostic
  { sentences := program.sentences
    units := program.units
    warnings := located source diagnostics .warning
    notes := located source diagnostics .note
    openScopes := program.openScopes }

end Outcome

/-- Compile a source. -/
def compile (options : Options) (source : String) : Outcome :=
  match parse options source with
  | .ok program => .ofProgram source program
  | .error failure => .ofFailure failure

end Clausal
