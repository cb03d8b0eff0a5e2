import Clausal.Proofs.Brackets

/-! The depth of the scopes can be read off the units.

Every scope that is opened or left shows as one unit, under either policy and also after a fault: a
repair leaves the wrong scope under the right unit, and the depth does not tell the difference. Two
units open a scope or not, as the scope around their sentence decides.
-/

set_option autoImplicit false

namespace Clausal

/-- Whether a bracket opens a scope in a sentence that is read inside `innermost`. A case opens one
unless it shares a head, and a branch opens one unless it stands in its block. -/
def Bracket.opensIn (innermost : Scope) : Bracket → Bool
  | .opens _ => true
  | .case => innermost != .caseHead
  | .continues scope => innermost != scope
  | .closes _ | .plain => false

def Bracket.isClosing : Bracket → Bool
  | .closes _ => true
  | _ => false

/-- A unit, and the scope inside which its sentence was read. -/
structure Emission where
  innermost : Scope
  unit : SemanticUnit
  deriving DecidableEq

namespace Emission

def opens (emission : Emission) : Bool :=
  emission.unit.bracket.opensIn emission.innermost

def closes (emission : Emission) : Bool :=
  emission.unit.bracket.isClosing

end Emission

/-- What sentences emit when each is read under its own index. A sentence at fault emits nothing. -/
def Assembler.emissions (assembler : Assembler) : List (Nat × Sentence) → List Emission
  | [] => []
  | (index, sentence) :: rest =>
    let (next, answer) := assembler.add index sentence
    let innermost := (assembler.state.enter sentence).nesting.current
    (answer.toOption.getD []).map (Emission.mk innermost) ++ next.emissions rest

/-- The depths before and after some emissions differ by what these open and close. -/
def Accounts (before : Nat) (emissions : List Emission) (after : Nat) : Prop :=
  before + emissions.countP Emission.opens = after + emissions.countP Emission.closes

namespace Accounts

variable {before middle after : Nat} {innermost : Scope} {unit : SemanticUnit}

theorem nil : Accounts before [] before := rfl

theorem append {first second : List Emission} (left : Accounts before first middle)
    (right : Accounts middle second after) : Accounts before (first ++ second) after := by
  unfold Accounts at left right ⊢
  rw [List.countP_append, List.countP_append]
  omega

theorem opened (opens : unit.bracket.opensIn innermost = true) :
    Accounts before [⟨innermost, unit⟩] (before + 1) := by
  have open_only : unit.bracket.isClosing = false := by
    cases shown : unit.bracket with
    | closes =>
      rw [shown] at opens
      cases opens
    | _ => rfl
  simp [Accounts, Emission.opens, Emission.closes, opens, open_only]

theorem closed {scope : Scope} (closes : unit.bracket = .closes scope) :
    Accounts (after + 1) [⟨innermost, unit⟩] after := by
  simp [Accounts, Emission.opens, Emission.closes, closes, Bracket.opensIn, Bracket.isClosing]

theorem kept (opens : unit.bracket.opensIn innermost = false)
    (closes : unit.bracket.isClosing = false) : Accounts before [⟨innermost, unit⟩] before := by
  simp [Accounts, Emission.opens, Emission.closes, opens, closes]

theorem of_plain {units : List SemanticUnit} (plain : ∀ unit ∈ units, unit.bracket = .plain) :
    Accounts before (units.map (.mk innermost)) before := by
  induction units with
  | nil => exact .nil
  | cons unit rest ih =>
    have first : Accounts before [⟨innermost, unit⟩] before := by
      refine kept ?_ ?_ <;>
      · rw [plain unit (by simp)]
        rfl
    exact first.append (ih fun other member => plain other (by simp [member]))

theorem of_endUnits {scopes : List Scope}
    (closable : ∀ scope ∈ scopes, scope.endUnit?.map SemanticUnit.bracket = some (.closes scope)) :
    Accounts (after + scopes.length) ((scopes.filterMap Scope.endUnit?).map (.mk innermost))
      after := by
  induction scopes with
  | nil => exact .nil
  | cons scope rest ih =>
    obtain ⟨unit, ends, closes⟩ := Option.map_eq_some_iff.mp (closable scope (by simp))
    rw [List.filterMap_cons_some ends]
    exact (closed closes).append (ih fun other member => closable other (by simp [member]))

end Accounts

namespace Nesting

theorem depth_of_top? {nesting : Nesting} {scope : Scope} (top : nesting.top? = some scope) :
    nesting.depth = nesting.pop.depth + 1 := by
  rw [← depth_push nesting.pop scope, pop_push_of_top? top]

theorem depth_splitStatement (nesting : Nesting) :
    nesting.depth = nesting.splitStatement.2.depth + nesting.splitStatement.1.length := by
  have whole := congrArg List.length nesting.splitStatement_append
  rw [List.length_append] at whole
  unfold depth
  omega

end Nesting

theorem Move.closing?_bracket {move : Move} {requested : Scope} {unit : Scope → SemanticUnit}
    (closing : move.closing? = some (requested, unit)) (found : Scope) :
    ∃ scope, (unit found).bracket = .closes scope := by
  cases move <;> cases closing
  · exact ⟨.accessor, rfl⟩
  · exact ⟨found, rfl⟩

namespace ScopeState

variable {options : Options} {state : ScopeState} {sentence : Sentence} {reading : Reading}

/-- Each move shows how many scopes it adds and leaves, a repair like any other. -/
theorem perform_accounts {situation : Situation} {move : Move} (meant : situation.Means move)
    (performed : state.perform options sentence move = .ok reading) :
    Accounts state.nesting.depth (reading.units.map (.mk state.nesting.current))
      reading.state.nesting.depth := by
  cases performs_of_perform performed with
  | emit =>
    cases meant with
    | emit simple =>
      exact .of_plain fun unit member => SemanticUnit.bracket_of_isSimple (simple unit member)
  | @opens opener => cases opener <;> rfl
  | @closes _ _ found _ closing top | @repairs _ _ found _ closing top =>
    obtain ⟨_, shown⟩ := Move.closing?_bracket closing found.body
    rw [Nesting.depth_of_top? top]
    exact .closed shown
  | elif top =>
    have inside := (Nesting.current_eq_iff (by decide)).mpr top
    exact .kept (by simp [SemanticUnit.bracket, Bracket.opensIn, inside]) rfl
  | strayElif other =>
    have outside := mt (Nesting.current_eq_iff (by decide)).mp other
    exact .opened (by simpa [SemanticUnit.bracket, Bracket.opensIn] using outside)
  | sharedCase shared =>
    exact .kept (by simp [SemanticUnit.bracket, Bracket.opensIn, shared]) rfl
  | newCase new =>
    exact .opened (by simpa [SemanticUnit.bracket, Bracket.opensIn] using new)
  | @announces routine => cases routine <;> rfl
  | @startsBody routine => cases routine <;> rfl
  | reassigns | assigns | blank | degrades => rfl

end ScopeState

namespace Reading

variable {before : Nat} {innermost : Scope} {reading : Reading}

theorem endStatement_accounts
    (moved : Accounts before (reading.units.map (.mk innermost)) reading.state.nesting.depth) :
    Accounts before (reading.endStatement.units.map (.mk innermost))
      reading.endStatement.state.nesting.depth := by
  have closable (scope : Scope) (member : scope ∈ reading.state.nesting.splitStatement.1) :=
    Scope.bracket_endUnit (Nesting.mem_splitStatement member)
  have ends : Accounts reading.state.nesting.depth
      ((reading.state.nesting.splitStatement.1.filterMap Scope.endUnit?).map (.mk innermost))
      reading.state.nesting.splitStatement.2.depth := by
    rw [Nesting.depth_splitStatement]
    exact .of_endUnits closable
  rw [endStatement_units, endStatement_nesting, List.map_append]
  refine moved.append ?_
  split
  · next none_left =>
    -- Where nothing closes, the semicolon is a plain unit.
    rw [List.isEmpty_iff.mp none_left] at ends
    exact ends.append (.kept rfl rfl)
  · exact ends

theorem punctuate_accounts (kind : Sentence.Kind)
    (moved : Accounts before (reading.units.map (.mk innermost)) reading.state.nesting.depth) :
    Accounts before ((reading.punctuate kind).units.map (.mk innermost))
      (reading.punctuate kind).state.nesting.depth := by
  unfold punctuate
  split
  · split
    · exact moved
    · exact endStatement_accounts moved
  · unfold endElement
    split
    · next outer left =>
      rw [Nesting.leave?_eq_some_iff.mp left] at moved
      rw [List.map_append]
      exact moved.append (.closed rfl)
    · exact moved
  · exact moved

end Reading

namespace ScopeState

theorem depth_enter (state : ScopeState) (sentence : Sentence) :
    (state.enter sentence).nesting.depth = state.nesting.depth := by
  unfold enter
  split
  · exact state.nesting.depth_enterBody
  · rfl

theorem read_accounts {options : Options} {state : ScopeState} {sentence : Sentence}
    {reading : Reading} (read : state.read options sentence = .ok reading) :
    Accounts state.nesting.depth
      (reading.units.map (.mk (state.enter sentence).nesting.current))
      reading.state.nesting.depth := by
  obtain ⟨performed, moved, rfl⟩ := read_eq_ok read
  rw [← state.depth_enter sentence]
  exact Reading.punctuate_accounts _ (perform_accounts (Situation.move_means _) moved)

end ScopeState

namespace Assembler

variable (assembler : Assembler) (index : Nat) {sentence : Sentence} (rest : List (Nat × Sentence))

theorem emissions_of_read {reading : Reading}
    (read : assembler.state.read assembler.options sentence = .ok reading) :
    assembler.emissions ((index, sentence) :: rest) =
      reading.units.map (.mk (assembler.state.enter sentence).nesting.current) ++
        (assembler.extend reading).emissions rest := by
  rw [emissions, assembler.add_of_read index read]
  rfl

theorem emissions_of_refusal {refusal : Refusal}
    (failed : assembler.state.read assembler.options sentence = .error refusal) :
    assembler.emissions ((index, sentence) :: rest) =
      { assembler with state := assembler.state.enter sentence }.emissions rest := by
  rw [emissions, assembler.add_of_refusal index failed]
  rfl

theorem addEach_emissions (calls : List (Nat × Sentence)) :
    (assembler.addEach calls).units.toList =
        assembler.units.toList ++ (assembler.emissions calls).map Emission.unit ∧
      Accounts assembler.state.nesting.depth (assembler.emissions calls)
        (assembler.addEach calls).state.nesting.depth := by
  induction calls generalizing assembler with
  | nil => exact ⟨by simp [addEach, emissions], .nil⟩
  | cons call rest ih =>
    obtain ⟨index, sentence⟩ := call
    rw [addEach]
    cases answer : assembler.state.read assembler.options sentence with
    | ok reading =>
      obtain ⟨units, depth⟩ := ih (assembler.extend reading)
      rw [assembler.emissions_of_read index rest answer, assembler.add_of_read index answer]
      refine ⟨?_, (ScopeState.read_accounts answer).append depth⟩
      rw [units]
      simp [extend, Function.comp_def]
    | error refusal =>
      obtain ⟨units, depth⟩ := ih { assembler with state := assembler.state.enter sentence }
      rw [assembler.emissions_of_refusal index rest answer, assembler.add_of_refusal index answer]
      refine ⟨units, ?_⟩
      rw [← assembler.state.depth_enter sentence]
      exact depth

end Assembler

/-- Nothing opens or leaves a scope without a unit that shows it, under either policy and after any
faults: the units that calls have emitted account for the depth they leave behind. -/
theorem depth_accounts_for_units (options : Options) (calls : List (Nat × Sentence)) :
    let assembler := ({ options } : Assembler).addEach calls
    let emissions := ({ options } : Assembler).emissions calls
    assembler.units.toList = emissions.map Emission.unit ∧
      (assembler.state.nesting.depth : Int) - 1 =
        emissions.countP Emission.opens - emissions.countP Emission.closes := by
  obtain ⟨units, depth⟩ := ({ options } : Assembler).addEach_emissions calls
  refine ⟨units, ?_⟩
  have fresh : ({ options } : Assembler).state.nesting.depth = 1 := rfl
  rw [Accounts, fresh] at depth
  omega

end Clausal
