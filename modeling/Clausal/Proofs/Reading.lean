import Clausal.Proofs.Performing

/-! Runs of readings.

An assembler carries its results along in arrays. Here a run over several sentences is described by
what it adds, independent of the assembler it started from, and the assembler is shown to do nothing
but add it.
-/

set_option autoImplicit false

namespace Clausal

namespace Reading

/-- Nothing read yet. -/
def start (state : ScopeState) : Reading :=
  { units := [], state }

/-- One reading followed by another that began where the first one ended. -/
def followedBy (first second : Reading) : Reading :=
  { units := first.units ++ second.units
    state := second.state
    notices := first.notices ++ second.notices }

@[simp] theorem start_followedBy (state : ScopeState) (reading : Reading) :
    (start state).followedBy reading = reading := rfl

@[simp] theorem followedBy_start (reading : Reading) :
    reading.followedBy (start reading.state) = reading := by
  simp [followedBy, start]

theorem followedBy_assoc (first second third : Reading) :
    (first.followedBy second).followedBy third = first.followedBy (second.followedBy third) := by
  simp [followedBy]

theorem endStatement_units (reading : Reading) :
    reading.endStatement.units =
      let ends := reading.state.nesting.splitStatement.1.filterMap Scope.endUnit?
      reading.units ++ if ends.isEmpty then [.closing] else ends := rfl

theorem endStatement_nesting (reading : Reading) :
    reading.endStatement.state.nesting = reading.state.nesting.splitStatement.2 := rfl

theorem punctuate_notices (reading : Reading) (kind : Sentence.Kind) :
    (reading.punctuate kind).notices = reading.notices := by
  unfold punctuate
  split
  · split <;> rfl
  · unfold endElement
    split <;> rfl
  · rfl

theorem punctuate_awaiting (reading : Reading) (kind : Sentence.Kind) :
    (reading.punctuate kind).state.awaiting = reading.state.awaiting := by
  unfold punctuate
  split
  · split <;> rfl
  · unfold endElement
    split <;> rfl
  · rfl

section

variable {α : Type} {select : SemanticUnit → Option α} (closing : select .closing = none)
  (ends : ∀ {scope : Scope} {unit : SemanticUnit}, scope.endUnit? = some unit → select unit = none)

include closing ends

theorem filterMap_endStatement (reading : Reading) :
    reading.endStatement.units.filterMap select = reading.units.filterMap select := by
  rw [endStatement_units, List.filterMap_append, List.append_right_eq_self,
    List.filterMap_eq_nil_iff]
  intro unit member
  split at member
  · rw [List.mem_singleton.mp member]
    exact closing
  · obtain ⟨_, _, ended⟩ := List.mem_filterMap.mp member
    exact ends ended

/-- Punctuation adds nothing to a selection that the units closing a scope are no part of. -/
theorem filterMap_punctuate (reading : Reading) (kind : Sentence.Kind) :
    (reading.punctuate kind).units.filterMap select = reading.units.filterMap select := by
  unfold punctuate
  split
  · split
    · rfl
    · exact reading.filterMap_endStatement closing ends
  · unfold endElement
    split
    · have assignment : select .assignmentEnd = none := @ends .assignment _ rfl
      simp [assignment]
    · rfl
  · rfl

end

end Reading

/-- Sentences that are read in order without a fault. -/
inductive Reads (options : Options) : ScopeState → List Sentence → Reading → Prop where
  | nil {state : ScopeState} : Reads options state [] (.start state)
  | cons {state : ScopeState} {sentence : Sentence} {rest : List Sentence}
      {first others : Reading} : state.read options sentence = .ok first →
      Reads options first.state rest others →
      Reads options state (sentence :: rest) (first.followedBy others)

namespace Reads

variable {options : Options}

theorem append {state : ScopeState} {before after : List Sentence} {first second : Reading}
    (run : Reads options state before first) (rest : Reads options first.state after second) :
    Reads options state (before ++ after) (first.followedBy second) := by
  induction run with
  | nil => exact rest
  | cons read _ ih =>
    rw [Reading.followedBy_assoc]
    exact .cons read (ih rest)

theorem single {state : ScopeState} {sentence : Sentence} {reading : Reading}
    (read : state.read options sentence = .ok reading) :
    Reads options state [sentence] reading := by
  simpa using Reads.cons read .nil

theorem split {state : ScopeState} {before after : List Sentence} {reading : Reading}
    (run : Reads options state (before ++ after) reading) :
    ∃ first second, Reads options state before first ∧ Reads options first.state after second ∧
      reading = first.followedBy second := by
  induction before generalizing state reading with
  | nil => exact ⟨.start state, reading, .nil, run, rfl⟩
  | cons sentence before ih =>
    cases run with
    | cons read rest =>
      obtain ⟨first, second, early, late, rfl⟩ := ih rest
      exact ⟨_, second, .cons read early, late, (Reading.followedBy_assoc _ _ _).symm⟩

end Reads

namespace ScopeState

theorem read_eq (options : Options) (state : ScopeState) (sentence : Sentence) :
    state.read options sentence =
      ((state.enter sentence).perform options sentence (state.situation sentence).move).map
        fun reading => reading.punctuate sentence.kind := rfl

theorem enter_of_ne_opening {state : ScopeState} {sentence : Sentence}
    (kind : sentence.kind ≠ .opening) : state.enter sentence = state := by
  simp [enter, leavesHead, kind]

theorem enter_awaiting (state : ScopeState) (sentence : Sentence) :
    (state.enter sentence).awaiting = state.awaiting := by
  unfold enter
  split <;> rfl

/-- Away from colons, semicolons and commas a sentence is its move and nothing else. -/
theorem read_of_unpunctuated (options : Options) (state : ScopeState) {sentence : Sentence}
    (colon : sentence.kind ≠ .opening) (semicolon : sentence.kind ≠ .closing)
    (comma : sentence.kind ≠ .enumerating) :
    state.read options sentence =
      state.perform options sentence (state.situation sentence).move := by
  have bare (reading : Reading) : reading.punctuate sentence.kind = reading := by
    unfold Reading.punctuate
    split
    · next ends => exact absurd ends semicolon
    · next ends => exact absurd ends comma
    · rfl
  rw [read_eq, enter_of_ne_opening colon]
  simp only [bare]
  cases state.perform options sentence (state.situation sentence).move <;> rfl

theorem read_eq_error {options : Options} {state : ScopeState} {sentence : Sentence}
    {refusal : Refusal} (failed : state.read options sentence = .error refusal) :
    (state.enter sentence).perform options sentence (state.situation sentence).move
      = .error refusal := by
  rw [read_eq] at failed
  cases performed : (state.enter sentence).perform options sentence
      (state.situation sentence).move with
  | error first =>
    rw [performed] at failed
    cases failed
    rfl
  | ok reading =>
    rw [performed] at failed
    cases failed

/-- What a sentence leaves when it is refused: it was entered, and nothing else was done. -/
theorem read_refused {options : Options} {state : ScopeState} {sentence : Sentence}
    {refusal : Refusal} (failed : state.read options sentence = .error refusal) :
    refusal.state = state.enter sentence ∧ refusal.notices = [] :=
  (refuses_of_perform (read_eq_error failed)).leaves

theorem read_eq_ok {options : Options} {state : ScopeState} {sentence : Sentence}
    {reading : Reading} (read : state.read options sentence = .ok reading) :
    ∃ performed, (state.enter sentence).perform options sentence (state.situation sentence).move
        = .ok performed ∧ reading = performed.punctuate sentence.kind := by
  rw [read_eq] at read
  cases performed : (state.enter sentence).perform options sentence
      (state.situation sentence).move with
  | error refusal =>
    rw [performed] at read
    cases read
  | ok first =>
    rw [performed] at read
    cases read
    exact ⟨first, rfl, rfl⟩

/-- The units that each of some sentences adds, up to the first fault. -/
def unitsOfEach (options : Options) (state : ScopeState) :
    List Sentence → List (List SemanticUnit)
  | [] => []
  | sentence :: rest =>
    match state.read options sentence with
    | .ok reading => reading.units :: reading.state.unitsOfEach options rest
    | .error _ => []

theorem unitsOfEach_cons {options : Options} {state : ScopeState} {sentence : Sentence}
    {reading : Reading} (read : state.read options sentence = .ok reading) (rest : List Sentence) :
    state.unitsOfEach options (sentence :: rest) =
      reading.units :: reading.state.unitsOfEach options rest := by
  rw [unitsOfEach, read]

end ScopeState

namespace Reads

variable {options : Options} {state : ScopeState} {sentences : List Sentence} {reading : Reading}

theorem length_unitsOfEach (run : Reads options state sentences reading) :
    (state.unitsOfEach options sentences).length = sentences.length := by
  induction run with
  | nil => rfl
  | cons read _ ih => rw [ScopeState.unitsOfEach_cons read, List.length_cons, ih, List.length_cons]

theorem flatten_unitsOfEach (run : Reads options state sentences reading) :
    (state.unitsOfEach options sentences).flatten = reading.units := by
  induction run with
  | nil => rfl
  | cons read _ ih =>
    rw [ScopeState.unitsOfEach_cons read, List.flatten_cons, ih]
    rfl

end Reads

namespace Assembler

/-- The assembler after a reading. -/
def extend (assembler : Assembler) (reading : Reading) : Assembler :=
  { assembler with
    state := reading.state
    units := assembler.units ++ reading.units
    notices := assembler.notices ++ reading.notices }

theorem extend_followedBy (assembler : Assembler) (first second : Reading) :
    (assembler.extend first).extend second = assembler.extend (first.followedBy second) := by
  simp only [extend, Reading.followedBy, mk.injEq, true_and]
  exact ⟨Array.ext' (by simp), Array.ext' (by simp)⟩

theorem extend_start (assembler : Assembler) :
    assembler.extend (.start assembler.state) = assembler := by
  simp [extend, Reading.start]

theorem add_of_read (assembler : Assembler) (index : Nat) {sentence : Sentence} {reading : Reading}
    (read : assembler.state.read assembler.options sentence = .ok reading) :
    assembler.add index sentence = (assembler.extend reading, .ok reading.units) := by
  rw [add, read]
  rfl

theorem add_of_refusal (assembler : Assembler) (index : Nat) {sentence : Sentence}
    {refusal : Refusal}
    (failed : assembler.state.read assembler.options sentence = .error refusal) :
    assembler.add index sentence =
      ({ assembler with state := assembler.state.enter sentence },
        .error ⟨index, refusal.fault⟩) := by
  obtain ⟨state, notices⟩ := ScopeState.read_refused failed
  rw [add, failed]
  simp [state, notices]

theorem add_eq_ok {assembler : Assembler} {index : Nat} {sentence : Sentence}
    {units : List SemanticUnit} (added : (assembler.add index sentence).2 = .ok units) :
    ∃ reading, assembler.state.read assembler.options sentence = .ok reading ∧
      units = reading.units := by
  cases answer : assembler.state.read assembler.options sentence with
  | ok reading =>
    rw [assembler.add_of_read index answer] at added
    cases added
    exact ⟨reading, rfl, rfl⟩
  | error refusal =>
    rw [assembler.add_of_refusal index answer] at added
    cases added

theorem addAll_append (assembler : Assembler) (index : Nat) (before after : List Sentence) :
    assembler.addAll index (before ++ after) =
      (assembler.addAll index before).bind fun next =>
        next.addAll (index + before.length) after := by
  induction before generalizing assembler index with
  | nil => rfl
  | cons sentence rest ih =>
    rw [List.cons_append, addAll, addAll]
    split
    · rw [ih, List.length_cons, Nat.add_right_comm, Nat.add_assoc]
    · rfl

theorem addAll_cons_of_read (assembler : Assembler) (index : Nat) {sentence : Sentence}
    {reading : Reading} (read : assembler.state.read assembler.options sentence = .ok reading)
    (rest : List Sentence) :
    assembler.addAll index (sentence :: rest) =
      (assembler.extend reading).addAll (index + 1) rest := by
  rw [addAll, assembler.add_of_read index read]

theorem addAll_cons_of_refusal (assembler : Assembler) (index : Nat) {sentence : Sentence}
    {refusal : Refusal}
    (failed : assembler.state.read assembler.options sentence = .error refusal)
    (rest : List Sentence) :
    assembler.addAll index (sentence :: rest) = .error ⟨index, refusal.fault⟩ := by
  rw [addAll, assembler.add_of_refusal index failed]

theorem addAll_of_reads (assembler : Assembler) {sentences : List Sentence} {reading : Reading}
    (run : Reads assembler.options assembler.state sentences reading) (index : Nat) :
    assembler.addAll index sentences = .ok (assembler.extend reading) := by
  induction sentences generalizing assembler reading index with
  | nil =>
    cases run
    rw [addAll, extend_start]
  | cons sentence rest ih =>
    cases run with
    | @cons _ _ _ first others read tail =>
      rw [assembler.addAll_cons_of_read index read, ← extend_followedBy]
      exact ih (assembler.extend first) tail (index + 1)

/-- The first fault of a list of sentences is the fault of one of them, after a run over those in
front of it. -/
theorem addAll_cases (assembler : Assembler) (index : Nat) (sentences : List Sentence) :
    (∃ reading, Reads assembler.options assembler.state sentences reading ∧
      assembler.addAll index sentences = .ok (assembler.extend reading)) ∨
    (∃ before sentence after reading refusal, sentences = before ++ sentence :: after ∧
      Reads assembler.options assembler.state before reading ∧
      reading.state.read assembler.options sentence = .error refusal ∧
      assembler.addAll index sentences = .error ⟨index + before.length, refusal.fault⟩) := by
  induction sentences generalizing assembler index with
  | nil => exact .inl ⟨_, .nil, addAll_of_reads assembler .nil index⟩
  | cons sentence rest ih =>
    cases read : assembler.state.read assembler.options sentence with
    | error refusal =>
      exact .inr ⟨[], sentence, rest, .start assembler.state, refusal, rfl, .nil, read,
        assembler.addAll_cons_of_refusal index read rest⟩
    | ok first =>
      rw [assembler.addAll_cons_of_read index read]
      -- A fault further on comes after one more sentence than the rest sees.
      obtain ⟨others, tail, done⟩ |
          ⟨before, faulty, after, others, refusal, whole, tail, failed, stopped⟩ :=
        ih (assembler.extend first) (index + 1)
      · exact .inl ⟨_, .cons read tail, by rw [done, extend_followedBy]⟩
      · refine .inr ⟨sentence :: before, faulty, after, _, refusal, by rw [whole]; rfl,
          .cons read tail, failed, ?_⟩
        rw [stopped, List.length_cons, Nat.add_right_comm, Nat.add_assoc]

theorem addAll_eq_ok_iff {assembler final : Assembler} {index : Nat} {sentences : List Sentence} :
    assembler.addAll index sentences = .ok final ↔
      ∃ reading, Reads assembler.options assembler.state sentences reading ∧
        final = assembler.extend reading := by
  constructor
  · intro accepted
    obtain ⟨reading, run, done⟩ | ⟨_, _, _, _, _, _, _, _, stopped⟩ :=
      addAll_cases assembler index sentences
    · rw [done] at accepted
      exact ⟨reading, run, (Except.ok.inj accepted).symm⟩
    · rw [stopped] at accepted
      cases accepted
  · rintro ⟨reading, run, rfl⟩
    exact addAll_of_reads assembler run index

theorem addAll_eq_error {assembler : Assembler} {index : Nat} {sentences : List Sentence}
    {rejection : Rejection} (rejected : assembler.addAll index sentences = .error rejection) :
    ∃ before sentence after reading refusal, sentences = before ++ sentence :: after ∧
      Reads assembler.options assembler.state before reading ∧
      reading.state.read assembler.options sentence = .error refusal ∧
      rejection = ⟨index + before.length, refusal.fault⟩ := by
  obtain ⟨reading, run, done⟩ |
      ⟨before, sentence, after, reading, refusal, whole, run, failed, stopped⟩ :=
    addAll_cases assembler index sentences
  · rw [done] at rejected
    cases rejected
  · rw [stopped] at rejected
    cases rejected
    exact ⟨before, sentence, after, reading, refusal, whole, run, failed, rfl⟩

/-- Read sentences, each under its own index, and go on after a fault. -/
def addEach (assembler : Assembler) : List (Nat × Sentence) → Assembler
  | [] => assembler
  | (index, sentence) :: rest => (assembler.add index sentence).1.addEach rest

theorem add_options (assembler : Assembler) (index : Nat) (sentence : Sentence) :
    (assembler.add index sentence).1.options = assembler.options := by
  unfold add
  split <;> rfl

theorem addEach_concat (assembler : Assembler) (calls : List (Nat × Sentence)) (index : Nat)
    (sentence : Sentence) :
    assembler.addEach (calls ++ [(index, sentence)]) =
      ((assembler.addEach calls).add index sentence).1 := by
  induction calls generalizing assembler with
  | nil => rfl
  | cons call rest ih => exact ih _

/-- What entering a sentence keeps, and reading one without a fault, holds after any calls. -/
theorem addEach_keeps {options : Options} (holds : ScopeState → Prop)
    (entered : ∀ {state : ScopeState} (sentence : Sentence), holds state →
      holds (state.enter sentence))
    (read : ∀ {state : ScopeState} {sentence : Sentence} {reading : Reading}, holds state →
      state.read options sentence = .ok reading → holds reading.state)
    (assembler : Assembler) (same : assembler.options = options) (before : holds assembler.state)
    (calls : List (Nat × Sentence)) : holds (assembler.addEach calls).state := by
  induction calls generalizing assembler with
  | nil => exact before
  | cons call rest ih =>
    obtain ⟨index, sentence⟩ := call
    refine ih _ (same ▸ assembler.add_options index sentence) ?_
    cases answer : assembler.state.read assembler.options sentence with
    | ok reading =>
      rw [assembler.add_of_read index answer]
      exact read before (same ▸ answer)
    | error refusal =>
      rw [assembler.add_of_refusal index answer]
      exact entered sentence before

end Assembler

/-- A program is what one run over its sentences adds. -/
theorem assemble_eq_ok_iff {options : Options} {sentences : List Sentence}
    {assembled : Assembled} :
    assemble options sentences = .ok assembled ↔
      ∃ reading, Reads options {} sentences reading ∧
        assembled = ⟨reading.units, reading.notices ++ Assembler.endNotices reading.state,
          reading.state.nesting.scopes⟩ := by
  have finish_extend (reading : Reading) :
      (({ options } : Assembler).extend reading).finish =
        ⟨reading.units, reading.notices ++ Assembler.endNotices reading.state,
          reading.state.nesting.scopes⟩ := by
    simp [Assembler.extend, Assembler.finish]
  constructor
  · intro accepted
    cases run : ({ options } : Assembler).addAll 0 sentences with
    | error rejection =>
      rw [assemble, run] at accepted
      cases accepted
    | ok final =>
      rw [assemble, run] at accepted
      cases accepted
      obtain ⟨reading, reads, rfl⟩ := Assembler.addAll_eq_ok_iff.mp run
      exact ⟨reading, reads, finish_extend reading⟩
  · rintro ⟨reading, reads, rfl⟩
    rw [assemble, Assembler.addAll_of_reads { options } reads 0, ← finish_extend]
    rfl

theorem assemble_of_refusal {options : Options} {before : List Sentence} {sentence : Sentence}
    {reading : Reading} {refusal : Refusal} (run : Reads options {} before reading)
    (failed : reading.state.read options sentence = .error refusal) (after : List Sentence) :
    assemble options (before ++ sentence :: after) = .error ⟨before.length, refusal.fault⟩ := by
  have stopped : ({ options } : Assembler).addAll 0 (before ++ sentence :: after) =
      .error ⟨0 + before.length, refusal.fault⟩ := by
    have fails := (({ options } : Assembler).extend reading).addAll_cons_of_refusal
      (0 + before.length) failed after
    rw [Assembler.addAll_append, Assembler.addAll_of_reads { options } run 0]
    exact fails
  rw [assemble, stopped, Nat.zero_add]
  rfl

theorem assemble_eq_error {options : Options} {sentences : List Sentence} {rejection : Rejection}
    (rejected : assemble options sentences = .error rejection) :
    ∃ before sentence after reading refusal, sentences = before ++ sentence :: after ∧
      Reads options {} before reading ∧
      reading.state.read options sentence = .error refusal ∧
      rejection = ⟨before.length, refusal.fault⟩ := by
  cases run : ({ options } : Assembler).addAll 0 sentences with
  | ok final =>
    rw [assemble, run] at rejected
    cases rejected
  | error first =>
    rw [assemble, run] at rejected
    cases rejected
    simpa using Assembler.addAll_eq_error run

end Clausal
