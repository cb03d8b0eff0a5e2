import Clausal.Compile.Outcome
import Clausal.Proofs.Seams

/-! What a source comes to, places aside.

Sentences that differ in their places alone are read alike, to the same units or to the same fault.
So two sources come to the same as soon as their sentences agree in kind and text.
-/

set_option autoImplicit false

namespace Clausal

namespace Assembler

/-- Sentences that differ in their places alone are all read alike, or rejected alike. -/
theorem addAll_outline {a b : Assembler} {xs ys : List Sentence} (options : a.options = b.options)
    (states : a.state.outline = b.state.outline)
    (sentences : xs.map Sentence.outline = ys.map Sentence.outline) (index : Nat) :
    (∃ first second, a.addAll index xs = .ok (a.extend first) ∧
      b.addAll index ys = .ok (b.extend second) ∧ first.outline = second.outline) ∨
    ∃ rejection, a.addAll index xs = .error rejection ∧ b.addAll index ys = .error rejection := by
  induction xs generalizing a b ys index with
  | nil =>
    obtain rfl : ys = [] := by simpa using sentences.symm
    refine .inl ⟨.start a.state, .start b.state, ?_, ?_, ?_⟩
    · rw [extend_start, addAll]
    · rw [extend_start, addAll]
    · simp [Reading.outline, Reading.start, states]
  | cons x rest ih =>
    obtain ⟨y, tail, rfl, head, tails⟩ := List.map_eq_cons_iff.mp sentences.symm
    have same := ScopeState.read_outline a.options states head.symm
    cases here : a.state.read a.options x with
    | error refusal =>
      cases there : b.state.read a.options y with
      | ok reading => rw [here, there] at same; cases same
      | error other =>
        rw [here, there] at same
        have faults : refusal.fault = other.fault := congrArg Prod.fst (Except.error.inj same)
        rw [options] at there
        exact .inr ⟨_, a.addAll_cons_of_refusal index here rest,
          faults ▸ b.addAll_cons_of_refusal index there tail⟩
    | ok reading =>
      cases there : b.state.read a.options y with
      | error refusal => rw [here, there] at same; cases same
      | ok other =>
        rw [here, there] at same
        have firsts : reading.outline = other.outline := Except.ok.inj same
        rw [options] at there
        rw [a.addAll_cons_of_read index here, b.addAll_cons_of_read index there]
        have after : (a.extend reading).state.outline = (b.extend other).state.outline :=
          congrArg (·.2.1) firsts
        obtain ⟨first, second, read, read', lasts⟩ | rejected :=
          ih (a := a.extend reading) (b := b.extend other) options after tails.symm (index + 1)
        · rw [extend_followedBy] at read read'
          exact .inl ⟨_, _, read, read', Reading.followedBy_outline firsts lasts⟩
        · exact .inr rejected

end Assembler

theorem Assembler.endNotices_outline {a b : ScopeState} (states : a.outline = b.outline) :
    (endNotices a).map Notice.finding = (endNotices b).map Notice.finding := by
  obtain rfl | ⟨routine, here, there, awaits, rfl⟩ := ScopeState.outline_eq states
  · rfl
  · simp [endNotices, awaits]

theorem Assembler.finish_units (assembler : Assembler) (reading : Reading) :
    (assembler.extend reading).finish.units = assembler.units.toList ++ reading.units := by
  simp [finish, extend]

/-- The end of a program reports the same after readings that differ in their places alone. -/
theorem Assembler.finish_outline {a b : Assembler} {first second : Reading}
    (notices : a.notices.map Notice.finding = b.notices.map Notice.finding)
    (same : first.outline = second.outline) :
    (a.extend first).finish.notices.map Notice.finding
        = (b.extend second).finish.notices.map Notice.finding ∧
      (a.extend first).finish.openScopes = (b.extend second).finish.openScopes := by
  simp only [Reading.outline, Prod.mk.injEq] at same
  obtain ⟨_, states, findings⟩ := same
  have nestings : first.state.nesting = second.state.nesting := congrArg Prod.fst states
  have before := congrArg Array.toList notices
  simp only [Array.toList_map] at before
  simp [finish, extend, before, findings, endNotices_outline states, nestings]

/-- A program without the places in it. -/
def Program.outline (program : Program) :
    List (Sentence.Kind × String) × List SemanticUnit × List Finding × List Scope :=
  (program.sentences.map Sentence.outline, program.units, program.notices.map Notice.finding,
    program.openScopes)

/-- What a source comes to, places aside: a program, or the cause of its failure. -/
def parseOutline (options : Options) (source : String) :
    Except Cause (List (Sentence.Kind × String) × List SemanticUnit × List Finding × List Scope) :=
  ((parse options source).map Program.outline).mapError Failure.cause

theorem parseOutline_eq (options : Options) {x y : String} {a b : Scanned}
    (here : scan x = .ok a) (there : scan y = .ok b)
    (sentences : a.sentences.map Sentence.outline = b.sentences.map Sentence.outline)
    (findings : a.notices.map Notice.finding = b.notices.map Notice.finding) :
    parseOutline options x = parseOutline options y := by
  unfold parseOutline parse assemble
  rw [here, there]
  obtain ⟨first, second, read, read', same⟩ | ⟨rejection, rejected, rejected'⟩ :=
    Assembler.addAll_outline (a := { options }) (b := { options }) rfl rfl sentences 0
  · have units : first.units = second.units := congrArg Prod.fst same
    obtain ⟨notices, scopes⟩ :=
      Assembler.finish_outline (a := { options }) (b := { options }) rfl same
    simp [read, read', Except.map, Except.mapError, Program.outline, sentences, findings,
      Assembler.finish_units, units, notices, scopes]
  · simp [rejected, rejected', Except.map, Except.mapError]

end Clausal
