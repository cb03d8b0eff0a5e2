import Clausal.Proofs.Performing
import Clausal.Proofs.Reading

/-! Relaxing the options.

The options are consulted only where a sentence would be refused otherwise. So relaxing them changes
nothing in a program that is accepted, and turns the refusal of a mismatch into one notice.
-/

set_option autoImplicit false

namespace Clausal

/-- Whatever the first options tolerate, the second tolerate too. -/
structure Options.RelaxTo (options relaxed : Options) : Prop where
  mismatches : options.mismatches = .lenient → relaxed.mismatches = .lenient
  unknown : options.unknown = .degrade → relaxed.unknown = .degrade

theorem Options.RelaxTo.lenient (unknown : UnknownPolicy) :
    RelaxTo ⟨.strict, unknown⟩ ⟨.lenient, unknown⟩ :=
  ⟨fun _ => rfl, id⟩

theorem Options.RelaxTo.degrade (mismatches : MismatchPolicy) :
    RelaxTo ⟨mismatches, .reject⟩ ⟨mismatches, .degrade⟩ :=
  ⟨id, fun _ => rfl⟩

/-- The faults that the lenient policy repairs. -/
def Fault.isMismatch : Fault → Bool
  | .mismatchedEnd _ _ | .misplacedElif _ => true
  | _ => false

namespace ScopeState

variable {options relaxed : Options} {state : ScopeState} {sentence : Sentence} {move : Move}
  {reading : Reading} {refusal : Refusal}

theorem Performs.relax (relaxes : options.RelaxTo relaxed)
    (performs : Performs options state sentence move reading) :
    Performs relaxed state sentence move reading := by
  cases performs with
  | emit => exact .emit
  | opens => exact .opens
  | closes closing top closes => exact .closes closing top closes
  | repairs closing top differs lenient =>
    exact .repairs closing top differs (relaxes.mismatches lenient)
  | elif top => exact .elif top
  | strayElif other lenient => exact .strayElif other (relaxes.mismatches lenient)
  | sharedCase shared => exact .sharedCase shared
  | newCase new => exact .newCase new
  | announces => exact .announces
  | startsBody => exact .startsBody
  | reassigns top => exact .reassigns top
  | assigns other => exact .assigns other
  | blank blank => exact .blank blank
  | degrades worded degrade => exact .degrades worded (relaxes.unknown degrade)

theorem read_relax (relaxes : options.RelaxTo relaxed)
    (read : state.read options sentence = .ok reading) :
    state.read relaxed sentence = .ok reading := by
  obtain ⟨performed, moved, rfl⟩ := read_eq_ok read
  rw [read_eq, ((performs_of_perform moved).relax relaxes).perform]
  rfl

/-- Where everything is tolerated, all that is left to refuse is to close the outermost scope. -/
theorem Refuses.underflow_of_tolerant (refuses : Refuses options state sentence move refusal)
    (lenient : options.mismatches = .lenient) (degrade : options.unknown = .degrade) :
    ∃ requested, refusal.fault = .underflow requested := by
  cases refuses with
  | @underflow _ requested => exact ⟨requested, rfl⟩
  | mismatchedEnd _ _ _ strict => rw [lenient] at strict; cases strict
  | misplacedElif _ strict => rw [lenient] at strict; cases strict
  | unrecognized _ reject => rw [degrade] at reject; cases reject

theorem Refuses.repaired (refuses : Refuses options state sentence move refusal)
    (mismatch : refusal.fault.isMismatch = true) (lenient : relaxed.mismatches = .lenient) :
    ∃ performed notice, Performs relaxed state sentence move performed ∧
      performed.notices = [notice] ∧ notice.finding.severity = .warning ∧
      notice.span = some sentence.span := by
  cases refuses with
  | underflow => cases mismatch
  | mismatchedEnd closing top differs =>
    exact ⟨_, _, .repairs closing top differs lenient, rfl, rfl, rfl⟩
  | misplacedElif other => exact ⟨_, _, .strayElif other lenient, rfl, rfl, rfl⟩
  | unrecognized => cases mismatch

end ScopeState

theorem ScopeState.read_repaired {options : Options} {state : ScopeState} {sentence : Sentence}
    {refusal : Refusal} (failed : state.read options sentence = .error refusal)
    (mismatch : refusal.fault.isMismatch = true) (relaxed : Options)
    (lenient : relaxed.mismatches = .lenient) :
    ∃ reading notice, state.read relaxed sentence = .ok reading ∧ reading.notices = [notice] ∧
      notice.finding.severity = .warning ∧ notice.span = some sentence.span := by
  obtain ⟨performed, notice, performs, one, severity, span⟩ :=
    (refuses_of_perform (read_eq_error failed)).repaired mismatch lenient
  refine ⟨performed.punctuate sentence.kind, notice, ?_, ?_, severity, span⟩
  · rw [read_eq, performs.perform]
    rfl
  · rw [Reading.punctuate_notices, one]

theorem Reads.relax {options relaxed : Options} {state : ScopeState} {sentences : List Sentence}
    {reading : Reading} (relaxes : options.RelaxTo relaxed)
    (run : Reads options state sentences reading) : Reads relaxed state sentences reading := by
  induction run with
  | nil => exact .nil
  | cons read _ ih => exact .cons (ScopeState.read_relax relaxes read) ih

theorem assemble_relax {options relaxed : Options} {sentences : List Sentence}
    {assembled : Assembled} (relaxes : options.RelaxTo relaxed)
    (accepted : assemble options sentences = .ok assembled) :
    assemble relaxed sentences = .ok assembled := by
  obtain ⟨reading, run, whole⟩ := assemble_eq_ok_iff.mp accepted
  exact assemble_eq_ok_iff.mpr ⟨reading, run.relax relaxes, whole⟩

/-- Relaxing an option never changes a program that was accepted. With both options relaxed, a
program is refused only for closing a scope where none is open. A mismatch that the strict policy
refuses is accepted by the lenient one: up to that sentence both have read the same, and the
sentence itself adds one warning. -/
theorem relaxed_options_agree (sentences : List Sentence) :
    (∀ unknown assembled, assemble ⟨.strict, unknown⟩ sentences = .ok assembled →
      assemble ⟨.lenient, unknown⟩ sentences = .ok assembled) ∧
    (∀ mismatches assembled, assemble ⟨mismatches, .reject⟩ sentences = .ok assembled →
      assemble ⟨mismatches, .degrade⟩ sentences = .ok assembled) ∧
    (∀ rejection, assemble ⟨.lenient, .degrade⟩ sentences = .error rejection →
      ∃ requested, rejection.fault = .underflow requested) ∧
    (∀ unknown rejection, assemble ⟨.strict, unknown⟩ sentences = .error rejection →
      rejection.fault.isMismatch = true →
      ∃ before sentence after strict lenient repaired units notice,
        sentences = before ++ sentence :: after ∧ rejection.index = before.length ∧
        ({ options := ⟨.strict, unknown⟩ } : Assembler).addAll 0 before = .ok strict ∧
        (strict.add before.length sentence).2 = .error rejection ∧
        ({ options := ⟨.lenient, unknown⟩ } : Assembler).addAll 0 before = .ok lenient ∧
        lenient.units = strict.units ∧ lenient.notices = strict.notices ∧
        lenient.state = strict.state ∧
        lenient.add before.length sentence = (repaired, .ok units) ∧
        repaired.notices = lenient.notices.push notice ∧
        notice.finding.severity = .warning ∧ notice.span = some sentence.span) := by
  refine ⟨?_, ?_, ?_, ?_⟩
  · intro unknown assembled
    exact assemble_relax (.lenient unknown)
  · intro mismatches assembled
    exact assemble_relax (.degrade mismatches)
  · intro rejection rejected
    obtain ⟨_, _, _, _, _, _, _, failed, rfl⟩ := assemble_eq_error rejected
    have refuses := ScopeState.refuses_of_perform (ScopeState.read_eq_error failed)
    exact refuses.underflow_of_tolerant rfl rfl
  · intro unknown rejection rejected mismatch
    obtain ⟨before, sentence, after, reading, refusal, whole, run, failed, rfl⟩ :=
      assemble_eq_error rejected
    obtain ⟨repair, notice, read, one, severity, span⟩ :=
      ScopeState.read_repaired failed mismatch ⟨.lenient, unknown⟩ rfl
    have reads := Assembler.addAll_of_reads { options := ⟨.strict, unknown⟩ } run 0
    have refused := Assembler.add_of_refusal
      (Assembler.extend { options := ⟨.strict, unknown⟩ } reading) before.length failed
    have relaxed := Assembler.addAll_of_reads { options := ⟨.lenient, unknown⟩ }
      (run.relax (.lenient unknown)) 0
    have repairs := Assembler.add_of_read
      (Assembler.extend { options := ⟨.lenient, unknown⟩ } reading) before.length read
    refine ⟨before, sentence, after, _, _, _, _, notice, whole, rfl, reads, ?_, relaxed,
      rfl, rfl, rfl, repairs, ?_, severity, span⟩
    · rw [refused]
    · simp [Assembler.extend, one]

/-- A loop is accepted under all options alike. Closed as an if block, it is refused by the strict
policy and closed with a warning by the lenient one, and then nothing is left to close. -/
theorem misclosed_loop_relaxed :
    (∃ assembled, assemble ⟨.strict, .reject⟩ [⟨.opening, "do", default⟩] = .ok assembled ∧
      assemble ⟨.lenient, .reject⟩ [⟨.opening, "do", default⟩] = .ok assembled ∧
      assemble ⟨.strict, .degrade⟩ [⟨.opening, "do", default⟩] = .ok assembled) ∧
    (∃ rejection requested, assemble ⟨.lenient, .degrade⟩ [⟨.opening, "do", default⟩,
        ⟨.closing, "end if", default⟩, ⟨.closing, "end if", default⟩] = .error rejection ∧
      rejection.fault = .underflow requested) ∧
    assemble {} [⟨.opening, "do", default⟩, ⟨.closing, "end if", default⟩]
      = .error ⟨1, .mismatchedEnd .ifBlockBody .loopBody⟩ ∧
    ∃ lenient repaired units notice,
      ({ options := ⟨.lenient, .degrade⟩ } : Assembler).addAll 0 [⟨.opening, "do", default⟩]
        = .ok lenient ∧
      lenient.add 1 ⟨.closing, "end if", default⟩ = (repaired, .ok units) ∧
      repaired.notices = lenient.notices.push notice ∧
      notice.finding.severity = .warning ∧ notice.span = some default := by
  have accepted : assemble ⟨.strict, .reject⟩ [⟨.opening, "do", default⟩] = .ok _ := rfl
  have underflow : assemble ⟨.lenient, .degrade⟩ [⟨.opening, "do", default⟩,
      ⟨.closing, "end if", default⟩, ⟨.closing, "end if", default⟩]
        = .error ⟨2, .underflow .ifBlockBody⟩ := rfl
  have refused : assemble {} [⟨.opening, "do", default⟩, ⟨.closing, "end if", default⟩]
      = .error ⟨1, .mismatchedEnd .ifBlockBody .loopBody⟩ := rfl
  obtain ⟨lenient, degrade, _, _⟩ := relaxed_options_agree [⟨.opening, "do", default⟩]
  obtain ⟨_, _, outermost, _⟩ := relaxed_options_agree [⟨.opening, "do", default⟩,
    ⟨.closing, "end if", default⟩, ⟨.closing, "end if", default⟩]
  obtain ⟨requested, fault⟩ := outermost _ underflow
  obtain ⟨_, _, _, repairs⟩ := relaxed_options_agree [⟨.opening, "do", default⟩,
    ⟨.closing, "end if", default⟩]
  obtain ⟨before, sentence, after, _, _, _, _, _, whole, place, _, _, read, _, _, _, added, one,
    severity, span⟩ := repairs _ _ refused rfl
  -- The sentence with index one is the last one.
  have whole : [_] ++ [_] = before ++ sentence :: after := whole
  obtain ⟨rfl, rest⟩ := List.append_inj whole place
  cases rest
  exact ⟨⟨_, accepted, lenient _ _ accepted, degrade _ _ accepted⟩, ⟨_, requested, underflow, fault⟩,
    refused, _, _, _, _, read, added, one, severity, span⟩

end Clausal
