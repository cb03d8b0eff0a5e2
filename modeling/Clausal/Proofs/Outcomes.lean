import Clausal.Compile.Outcome
import Clausal.Proofs.Reading
import Clausal.Proofs.Scanning

/-! What a source comes to, read and compiled.

Cutting a source into sentences never fails, so that a source fails at a sentence or not at all, and
the sentence says where. Compiling adds nothing to this but words: those of the failure, or those of
the findings, told apart by how serious they are.
-/

set_option autoImplicit false

namespace Clausal

/-- The words of a diagnostic: its message, behind the line and the column that it starts at. -/
inductive Diagnostic.Worded (source : String) (diagnostic : Diagnostic) : String → Prop where
  | placed {span : Span} {position : Position} : diagnostic.span = some span →
      position = Position.locate source span.start →
      Worded source diagnostic
        (toString position.line ++ ":" ++ toString position.column ++ ": " ++ diagnostic.message)
  | bare : diagnostic.span = none → Worded source diagnostic diagnostic.message

/-- The warnings and the notes among some diagnostics, both in the order they came in. -/
inductive Diagnostic.Sorts (source : String) :
    List Diagnostic → List String → List String → Prop where
  | nil : Sorts source [] [] []
  | warning {diagnostic : Diagnostic} {rest : List Diagnostic} {text : String}
      {warnings notes : List String} : diagnostic.severity = .warning →
      diagnostic.Worded source text → Sorts source rest warnings notes →
      Sorts source (diagnostic :: rest) (text :: warnings) notes
  | note {diagnostic : Diagnostic} {rest : List Diagnostic} {text : String}
      {warnings notes : List String} : diagnostic.severity = .note →
      diagnostic.Worded source text → Sorts source rest warnings notes →
      Sorts source (diagnostic :: rest) warnings (text :: notes)

namespace Diagnostic

theorem worded_locate (source : String) (diagnostic : Diagnostic) :
    diagnostic.Worded source (diagnostic.locate source) := by
  unfold locate
  split
  · next span found => exact .placed found rfl
  · next missing => exact .bare missing

theorem sorts_located (source : String) (diagnostics : List Diagnostic) :
    Sorts source diagnostics (Outcome.located source diagnostics .warning)
      (Outcome.located source diagnostics .note) := by
  induction diagnostics with
  | nil => exact .nil
  | cons diagnostic rest ih =>
    have words := diagnostic.worded_locate source
    cases severity : diagnostic.severity with
    | warning => simpa [Outcome.located, severity] using Sorts.warning severity words ih
    | note => simpa [Outcome.located, severity] using Sorts.note severity words ih

end Diagnostic

theorem scan_isOk (source : String) : ∃ scanned, scan source = .ok scanned := by
  obtain ⟨_, _, scans⟩ := Scanner.exists_scans none {} source.toList
  exact ⟨_, scan_of_scans scans⟩

/-- A rejection names one of the sentences. -/
theorem assemble_error_index {options : Options} {sentences : List Sentence}
    {rejection : Rejection} (rejected : assemble options sentences = .error rejection) :
    rejection.index < sentences.length := by
  obtain ⟨before, sentence, after, _, _, rfl, _, _, rfl⟩ := assemble_eq_error rejected
  simp

section

variable {options : Options} {source : String} {scanned : Scanned}

theorem parse_of_assembled {assembled : Assembled} (cut : scan source = .ok scanned)
    (accepted : assemble options scanned.sentences = .ok assembled) :
    parse options source =
      .ok ⟨scanned.sentences, assembled.units, scanned.notices ++ assembled.notices,
        assembled.openScopes⟩ := by
  rw [parse, cut]
  dsimp only
  rw [accepted]

/-- A source that is rejected is rejected at the start of a sentence. -/
theorem parse_of_rejected {rejection : Rejection} (cut : scan source = .ok scanned)
    (rejected : assemble options scanned.sentences = .error rejection) :
    ∃ inside : rejection.index < scanned.sentences.length,
      parse options source =
        .error ⟨.rejection rejection, some (.source
          (Position.locate source scanned.sentences[rejection.index].span.start))⟩ := by
  refine ⟨assemble_error_index rejected, ?_⟩
  rw [parse, cut]
  dsimp only
  rw [rejected]
  dsimp only
  rw [List.getElem?_eq_getElem (assemble_error_index rejected)]
  rfl

/-- A source that is read to its end was cut into sentences and assembled from them. -/
theorem parse_eq_ok {program : Program} (read : parse options source = .ok program) :
    ∃ scanned reading, scan source = .ok scanned ∧ Reads options {} scanned.sentences reading ∧
      program = ⟨scanned.sentences, reading.units,
        scanned.notices ++ (reading.notices ++ Assembler.endNotices reading.state),
        reading.state.nesting.scopes⟩ := by
  obtain ⟨scanned, cut⟩ := scan_isOk source
  cases assembled : assemble options scanned.sentences with
  | error rejection =>
    obtain ⟨_, failed⟩ := parse_of_rejected cut assembled
    cases read.symm.trans failed
  | ok whole =>
    obtain ⟨reading, run, rfl⟩ := assemble_eq_ok_iff.mp assembled
    cases read.symm.trans (parse_of_assembled cut assembled)
    exact ⟨scanned, reading, cut, run, rfl⟩

theorem compile_of_program {program : Program} (read : parse options source = .ok program) :
    compile options source = .ofProgram source program := by
  rw [compile, read]

theorem compile_of_failure {failure : Failure} (failed : parse options source = .error failure) :
    compile options source = { errors := [failure.message] } := by
  rw [compile, failed]
  rfl

end

/-- Reading and compiling a source agree. Either both succeed, with the same sentences, units and
open scopes and with every finding told as a warning or a note, or the source fails at one of its
sentences, and its failure is the only thing that is told. -/
theorem parse_and_compile_agree (options : Options) (source : String) :
    ∃ scanned, scan source = .ok scanned ∧
      ((∃ failure, parse options source = .error failure) ↔
        (compile options source).errors ≠ []) ∧
      ((∃ program, parse options source = .ok program ∧
        program.sentences = scanned.sentences ∧
        (compile options source).sentences = program.sentences ∧
        (compile options source).units = program.units ∧
        (compile options source).openScopes = program.openScopes ∧
        Diagnostic.Sorts source (program.notices.map Notice.diagnostic)
          (compile options source).warnings (compile options source).notes) ∨
      ∃ (rejection : Rejection) (inside : rejection.index < scanned.sentences.length)
          (failure : Failure), parse options source = .error failure ∧
        failure.cause = .rejection rejection ∧
        failure.location = some (.source
          (Position.locate source scanned.sentences[rejection.index].span.start)) ∧
        compile options source = { errors := [failure.message] }) := by
  obtain ⟨scanned, cut⟩ := scan_isOk source
  refine ⟨scanned, cut, ?_⟩
  cases result : assemble options scanned.sentences with
  | ok assembled =>
    have read := parse_of_assembled cut result
    have compiled := compile_of_program read
    refine ⟨?_, .inl ⟨_, read, rfl, ?_⟩⟩
    · simp [read, compiled, Outcome.ofProgram]
    · rw [compiled]
      exact ⟨rfl, rfl, rfl, Diagnostic.sorts_located source _⟩
  | error rejection =>
    obtain ⟨inside, failed⟩ := parse_of_rejected cut result
    have compiled := compile_of_failure failed
    refine ⟨?_, .inr ⟨rejection, inside, _, failed, rfl, rfl, compiled⟩⟩
    simp [failed, compiled]

end Clausal
