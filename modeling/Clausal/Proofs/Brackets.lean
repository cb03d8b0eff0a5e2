import Clausal.Proofs.Moves
import Clausal.Proofs.Performing
import Clausal.Proofs.Reading
import Mathlib.Data.List.TakeWhile

/-! The flat stream of units is a bracket structure.

Every unit that opens a scope is matched by the unit that closes it, kind by kind, and what is left
unmatched is what is left open. The stream is read without looking at the sentences it came from, so
a consumer of units alone can follow the nesting.
-/

set_option autoImplicit false

namespace Clausal

/-- The stacks before and after a bracket, innermost scope first. -/
inductive Bracket.Turns : Bracket → List Scope → List Scope → Prop where
  | opens {scope : Scope} {stack : List Scope} : Turns (.opens scope) stack (scope :: stack)
  | closes {scope : Scope} {stack : List Scope} : Turns (.closes scope) (scope :: stack) stack
  | continues {scope : Scope} {stack : List Scope} :
      Turns (.continues scope) (scope :: stack) (scope :: stack)
  | newCase {stack : List Scope} : Turns .case stack (.caseBody :: stack)
  | sharedCase {stack : List Scope} : Turns .case (.caseBody :: stack) (.caseBody :: stack)
  | plain {stack : List Scope} : Turns .plain stack stack

/-- A stretch of units read from left to right, from one stack to another. -/
inductive Bracketed : List Scope → List SemanticUnit → List Scope → Prop where
  | nil {stack : List Scope} : Bracketed stack [] stack
  | cons {stack middle final : List Scope} {unit : SemanticUnit} {units : List SemanticUnit} :
      unit.bracket.Turns stack middle → Bracketed middle units final →
      Bracketed stack (unit :: units) final

namespace Bracketed

theorem append {stack middle final : List Scope} {first second : List SemanticUnit}
    (before : Bracketed stack first middle) (after : Bracketed middle second final) :
    Bracketed stack (first ++ second) final := by
  induction before with
  | nil => exact after
  | cons turn _ ih => exact .cons turn (ih after)

theorem single {stack final : List Scope} {unit : SemanticUnit}
    (turn : unit.bracket.Turns stack final) : Bracketed stack [unit] final :=
  .cons turn .nil

theorem of_plain {stack : List Scope} {units : List SemanticUnit}
    (plain : ∀ unit ∈ units, unit.bracket = .plain) : Bracketed stack units stack := by
  induction units with
  | nil => exact .nil
  | cons unit rest ih =>
    have turn : unit.bracket.Turns stack stack := by
      rw [plain unit (by simp)]
      exact .plain
    exact .cons turn (ih fun other member => plain other (by simp [member]))

theorem of_endUnits {closed : List Scope} (stack : List Scope)
    (closable : ∀ scope ∈ closed, scope.endUnit?.map SemanticUnit.bracket = some (.closes scope)) :
    Bracketed (closed ++ stack) (closed.filterMap Scope.endUnit?) stack := by
  induction closed with
  | nil => exact .nil
  | cons scope rest ih =>
    obtain ⟨unit, ends, closes⟩ := Option.map_eq_some_iff.mp (closable scope (by simp))
    have turn : unit.bracket.Turns (scope :: (rest ++ stack)) (rest ++ stack) := by
      rw [closes]
      exact .closes
    rw [List.filterMap_cons_some ends]
    exact .cons turn (ih fun other member => closable other (by simp [member]))

end Bracketed

namespace Scope

theorem body_of_endsWithStatement {scope : Scope}
    (ends : scope = .assignment ∨ scope.endsWithStatement = true) : scope.body = scope := by
  cases scope <;> simp_all [endsWithStatement, body]

theorem bracket_endUnit {scope : Scope}
    (ends : scope = .assignment ∨ scope.endsWithStatement = true) :
    scope.endUnit?.map SemanticUnit.bracket = some (.closes scope) := by
  cases scope <;> simp_all [endsWithStatement, endUnit?, SemanticUnit.bracket]

end Scope

namespace Nesting

/-- The open scopes as the units name them: a head counts as its body. -/
def bodies (nesting : Nesting) : List Scope :=
  nesting.scopes.map Scope.body

@[simp] theorem bodies_push (nesting : Nesting) (scope : Scope) :
    (nesting.push scope).bodies = scope.body :: nesting.bodies := rfl

@[simp] theorem bodies_enterBody (nesting : Nesting) :
    nesting.enterBody.bodies = nesting.bodies := by
  obtain ⟨scopes⟩ := nesting
  cases scopes with
  | nil => rfl
  | cons scope outer => simp [enterBody, bodies]

theorem bodies_of_top? {nesting : Nesting} {scope : Scope} (top : nesting.top? = some scope) :
    nesting.bodies = scope.body :: nesting.pop.bodies := by
  obtain ⟨scopes⟩ := nesting
  cases scopes with
  | nil => cases top
  | cons first outer =>
    cases top
    rfl

theorem bodies_of_leave? {nesting outer : Nesting} {scope : Scope}
    (left : nesting.leave? scope = some outer) : nesting.bodies = scope.body :: outer.bodies := by
  rw [leave?_eq_some_iff.mp left]
  rfl

/-- A semicolon closes assignments and scopes that end with their statement, nothing else. -/
theorem mem_splitStatement {nesting : Nesting} {scope : Scope}
    (member : scope ∈ nesting.splitStatement.1) :
    scope = .assignment ∨ scope.endsWithStatement = true := by
  have assignment {scopes : List Scope} (taken : scope ∈ scopes.takeWhile (· == .assignment)) :
      scope = .assignment := by
    simpa using List.mem_takeWhile_imp taken
  unfold splitStatement at member
  split at member
  · exact .inl (assignment member)
  · next inner outer _ =>
    split at member
    · next ends =>
      simp only [List.mem_append, List.mem_cons] at member
      rcases member with taken | rfl | taken
      · exact .inl (assignment taken)
      · exact .inr ends
      · exact .inl (assignment taken)
    · exact .inl (assignment member)

theorem bodies_splitStatement (nesting : Nesting) :
    nesting.bodies = nesting.splitStatement.1 ++ nesting.splitStatement.2.bodies := by
  have closed : nesting.splitStatement.1.map Scope.body = nesting.splitStatement.1 :=
    (List.map_congr_left fun _ member =>
      Scope.body_of_endsWithStatement (mem_splitStatement member)).trans (List.map_id _)
  rw [bodies, bodies, ← closed, ← List.map_append, splitStatement_append]

end Nesting

theorem Opener.bracketed (opener : Opener) (stack : List Scope) :
    Bracketed stack opener.units (opener.scope.body :: stack) := by
  cases opener with
  | loopBody iterator => exact .cons .plain (.single .opens)
  | defaultCase => exact .cons .opens (.single .plain)
  | _ => exact .single .opens

theorem Routine.bracketed (routine : Routine) (returnType : String) (stack : List Scope) :
    Bracketed stack (routine.bodyUnits returnType) (routine.bodyScope.body :: stack) := by
  cases routine <;> exact .cons .plain (.single .opens)

namespace ScopeState

variable {options : Options} {state : ScopeState} {sentence : Sentence} {reading : Reading}

theorem bracket_closing {move : Move} {requested found : Scope} {unit : Scope → SemanticUnit}
    (closing : move.closing? = some (requested, unit)) (closes : found.closesAs requested = true) :
    (unit found.body).bracket = .closes found.body := by
  cases move <;> cases closing
  · cases found <;> simp_all [Scope.closesAs, Scope.body, SemanticUnit.bracket]
  · rfl

/-- Each move shows in its units what it does to the scopes. -/
theorem perform_bracketed (strict : options.mismatches = .strict) {situation : Situation}
    {move : Move} (meant : situation.Means move)
    (performed : state.perform options sentence move = .ok reading) :
    Bracketed state.nesting.bodies reading.units reading.state.nesting.bodies := by
  cases performs_of_perform performed with
  | emit =>
    cases meant with
    | emit simple =>
      exact .of_plain fun unit member => SemanticUnit.bracket_of_isSimple (simple unit member)
  | @opens opener => exact opener.bracketed _
  | closes closing top closes =>
    rw [Nesting.bodies_of_top? top]
    refine .single ?_
    rw [bracket_closing closing closes]
    exact .closes
  | repairs _ _ _ lenient | strayElif _ lenient =>
    -- Only the lenient policy repairs anything.
    rw [strict] at lenient
    cases lenient
  | elif top =>
    rw [Nesting.bodies_of_top? top]
    exact .single .continues
  | sharedCase shared =>
    -- The head is on the stack already; the outermost scope is no head.
    have top : state.nesting.top? = some .caseHead := by
      obtain ⟨⟨scopes⟩, _⟩ := state
      cases scopes with
      | nil => cases shared
      | cons scope outer => exact congrArg some shared
    rw [Nesting.bodies_of_top? top]
    exact .single .sharedCase
  | newCase => exact .single .newCase
  | @announces routine => cases routine <;> exact .single .plain
  | @startsBody routine returnType => exact routine.bracketed returnType _
  | reassigns top =>
    rw [Nesting.bodies_of_top? top]
    exact .cons .closes (.single .opens)
  | assigns => exact .single .opens
  | blank => exact .nil
  | degrades => exact .single .plain

end ScopeState

namespace Reading

variable {stack : List Scope} {reading : Reading}

theorem endStatement_bracketed
    (before : Bracketed stack reading.units reading.state.nesting.bodies) :
    Bracketed stack reading.endStatement.units reading.endStatement.state.nesting.bodies := by
  have closable (scope : Scope) (member : scope ∈ reading.state.nesting.splitStatement.1) :=
    Scope.bracket_endUnit (Nesting.mem_splitStatement member)
  have ends := Bracketed.of_endUnits reading.state.nesting.splitStatement.2.bodies closable
  rw [← Nesting.bodies_splitStatement] at ends
  rw [endStatement_units, endStatement_nesting]
  refine before.append ?_
  split
  · next none_left =>
    -- Where nothing closes, the semicolon is a plain unit.
    rw [List.isEmpty_iff.mp none_left] at ends
    exact ends.append (.single .plain)
  · exact ends

theorem endElement_bracketed
    (before : Bracketed stack reading.units reading.state.nesting.bodies) :
    Bracketed stack reading.endElement.units reading.endElement.state.nesting.bodies := by
  unfold endElement
  split
  · next outer left =>
    rw [Nesting.bodies_of_leave? left] at before
    exact before.append (.single .closes)
  · exact before

theorem punctuate_bracketed (kind : Sentence.Kind)
    (before : Bracketed stack reading.units reading.state.nesting.bodies) :
    Bracketed stack (reading.punctuate kind).units
      (reading.punctuate kind).state.nesting.bodies := by
  unfold punctuate
  split
  · split
    · exact before
    · exact endStatement_bracketed before
  · exact endElement_bracketed before
  · exact before

end Reading

theorem ScopeState.read_bracketed {options : Options} (strict : options.mismatches = .strict)
    {state : ScopeState} {sentence : Sentence} {reading : Reading}
    (read : state.read options sentence = .ok reading) :
    Bracketed state.nesting.bodies reading.units reading.state.nesting.bodies := by
  obtain ⟨performed, moved, rfl⟩ := ScopeState.read_eq_ok read
  -- A head that turns into its body is the same scope to a reader of units.
  have entered : (state.enter sentence).nesting.bodies = state.nesting.bodies := by
    unfold ScopeState.enter
    split
    · exact state.nesting.bodies_enterBody
    · rfl
  rw [← entered]
  exact Reading.punctuate_bracketed _
    (ScopeState.perform_bracketed strict (Situation.move_means _) moved)

theorem Reads.bracketed {options : Options} (strict : options.mismatches = .strict)
    {state : ScopeState} {sentences : List Sentence} {reading : Reading}
    (run : Reads options state sentences reading) :
    Bracketed state.nesting.bodies reading.units reading.state.nesting.bodies := by
  induction run with
  | nil => exact .nil
  | cons read _ ih => exact (ScopeState.read_bracketed strict read).append ih

/-- Under the strict policy the units of a program are well bracketed, and its unmatched openers are
exactly the scopes left open. -/
theorem assembled_units_bracketed (options : Options) (sentences : List Sentence)
    (assembled : Assembled) (strict : options.mismatches = .strict)
    (accepted : assemble options sentences = .ok assembled) :
    Bracketed [] assembled.units (assembled.openScopes.map Scope.body) := by
  obtain ⟨reading, run, rfl⟩ := assemble_eq_ok_iff.mp accepted
  exact run.bracketed strict

/-- Two cases that share a head, which is still a head when the program ends inside a call. -/
theorem shared_case_bracketed :
    Bracketed []
      [.switchHead (some "x"), .caseHead (some "1"), .caseHead (some "2"), .assignmentKey "total",
        .functionCallStart "sum"]
      [.functionCall, .assignment, .caseBody, .switchBody] :=
  let openScopes : List Scope := [.functionCall, .assignment, .caseHead, .switchBody]
  assembled_units_bracketed {}
    [⟨.opening, "switch x", default⟩, ⟨.opening, "case 1", default⟩, ⟨.opening, "case 2", default⟩,
      ⟨.assignmentKey, "total", default⟩, ⟨.opening, "call sum", default⟩]
    ⟨_, [⟨.openScopes openScopes, none⟩], openScopes⟩ rfl (by decide)

end Clausal
