import Clausal.Meaning.Assembly

/-! What performing a move can come to.

Performing reads the options and the innermost scope, and leaves a scope only to open another one of
its kind or for good. This is written out once, with the reasons for which a move is refused beside
it and what it leaves then, and what a move does to the open scopes follows.
-/

set_option autoImplicit false

namespace Clausal

/-- The scope that a move adds. -/
def Move.pushed? : Move → Option Scope
  | .opens opener => some opener.scope
  | .elif => some .ifBlockBody
  | .caseHead _ => some .caseHead
  | .startsBody routine _ => some routine.bodyScope
  | .assigns _ => some .assignment
  | _ => none

/-- The scopes that a fault tells of. -/
def Fault.scopes : Fault → List Scope
  | .mismatchedEnd requested found => [requested, found]
  | .underflow requested => [requested]
  | .misplacedElif found => [found]
  | .unrecognized _ => []

/-- What a move closes on request, and the unit that shows it. -/
def Move.closing? : Move → Option (Scope × (Scope → SemanticUnit))
  | .closeAccessor => some (.accessor, fun _ => .accessorEnd)
  | .closes requested => some (requested, .endMarker)
  | _ => none

namespace Nesting

theorem mem_pop {nesting : Nesting} {scope : Scope} (member : scope ∈ nesting.pop.scopes) :
    scope ∈ nesting.scopes :=
  List.mem_of_mem_tail member

theorem mem_of_top? {nesting : Nesting} {scope : Scope} (top : nesting.top? = some scope) :
    scope ∈ nesting.scopes :=
  List.mem_of_mem_head? top

theorem leave?_eq_some_iff {nesting outer : Nesting} {scope : Scope} :
    nesting.leave? scope = some outer ↔ nesting = outer.push scope := by
  obtain ⟨scopes⟩ := nesting
  obtain ⟨others⟩ := outer
  cases scopes with
  | nil => simp [leave?, top?, push]
  | cons top rest => simp [leave?, top?, push, pop]

theorem leave?_eq_none_iff {nesting : Nesting} {scope : Scope} :
    nesting.leave? scope = none ↔ nesting.top? ≠ some scope := by
  simp [leave?]

theorem mem_leave? {nesting outer : Nesting} {scope left : Scope}
    (leaves : nesting.leave? left = some outer) (member : scope ∈ outer.scopes) :
    scope ∈ nesting.scopes := by
  rw [leave?_eq_some_iff.mp leaves]
  exact List.mem_cons_of_mem left member

theorem pop_push_of_top? {nesting : Nesting} {scope : Scope} (top : nesting.top? = some scope) :
    nesting.pop.push scope = nesting :=
  (leave?_eq_some_iff.mp (if_pos top)).symm

/-- The outermost scope aside, the innermost scope is the one on top. -/
theorem current_eq_iff {nesting : Nesting} {scope : Scope} (inner : scope ≠ outermost) :
    nesting.current = scope ↔ nesting.top? = some scope := by
  obtain ⟨scopes⟩ := nesting
  cases scopes with
  | nil => simp [current, top?, inner.symm]
  | cons top outer => simp [current, top?]

theorem current_enterBody (nesting : Nesting) :
    nesting.enterBody.current = nesting.current.body := by
  obtain ⟨scopes⟩ := nesting
  cases scopes <;> rfl

end Nesting

namespace ScopeState

/-- What a move can come to when it is performed without a fault. -/
inductive Performs (options : Options) (state : ScopeState) (sentence : Sentence) :
    Move → Reading → Prop where
  | emit {units : List SemanticUnit} :
      Performs options state sentence (.emit units) { units, state }
  | opens {opener : Opener} : Performs options state sentence (.opens opener)
      { units := opener.units, state := state.push opener.scope }
  | closes {move : Move} {requested found : Scope} {unit : Scope → SemanticUnit} :
      move.closing? = some (requested, unit) → state.nesting.top? = some found →
      found.closesAs requested = true →
      Performs options state sentence move { units := [unit found.body], state := state.pop }
  | repairs {move : Move} {requested found : Scope} {unit : Scope → SemanticUnit} :
      move.closing? = some (requested, unit) → state.nesting.top? = some found →
      found.closesAs requested = false → options.mismatches = .lenient →
      Performs options state sentence move
        { units := [unit found.body]
          state := state.pop
          notices := [⟨.mismatchedEnd requested found, some sentence.span⟩] }
  | elif : state.nesting.top? = some .ifBlockBody →
      Performs options state sentence .elif { units := [.elifHead], state }
  | strayElif : state.nesting.top? ≠ some .ifBlockBody → options.mismatches = .lenient →
      Performs options state sentence .elif
        { units := [.elifHead]
          state := state.push .ifBlockBody
          notices := [⟨.misplacedElif state.nesting.current, some sentence.span⟩] }
  | sharedCase {value : Option String} : state.nesting.current = .caseHead →
      Performs options state sentence (.caseHead value) { units := [.caseHead value], state }
  | newCase {value : Option String} : state.nesting.current ≠ .caseHead →
      Performs options state sentence (.caseHead value)
        { units := [.caseHead value], state := state.push .caseHead }
  | announces {routine : Routine} {name : String} :
      Performs options state sentence (.announces routine name)
        { units := [routine.headUnit name]
          state := { state with awaiting := some ⟨routine, sentence.span⟩ } }
  | startsBody {routine : Routine} {returnType : String} :
      Performs options state sentence (.startsBody routine returnType)
        { units := routine.bodyUnits returnType
          state := { nesting := state.nesting.push routine.bodyScope, awaiting := none } }
  | reassigns {key : String} : state.nesting.top? = some .assignment →
      Performs options state sentence (.assigns key)
        { units := [.assignmentEnd, .assignmentKey key], state }
  | assigns {key : String} : state.nesting.top? ≠ some .assignment →
      Performs options state sentence (.assigns key)
        { units := [.assignmentKey key], state := state.push .assignment }
  | blank : sentence.text.isEmpty = true →
      Performs options state sentence .unknown { units := [], state }
  | degrades : sentence.text.isEmpty = false → options.unknown = .degrade →
      Performs options state sentence .unknown
        { units := [.unknown sentence.text]
          state
          notices := [⟨.unknownSentence sentence.kind sentence.text, some sentence.span⟩] }

variable {options : Options} {state : ScopeState} {sentence : Sentence} {move : Move}
  {reading : Reading} {scope : Scope}

theorem performs_of_close {requested : Scope} {unit : Scope → SemanticUnit}
    (closing : move.closing? = some (requested, unit))
    (closed : state.close options sentence requested unit = .ok reading) :
    Performs options state sentence move reading := by
  unfold close at closed
  split at closed
  · cases closed
  · next found top =>
    split at closed
    · next closes =>
      cases closed
      exact .closes closing top closes
    · next differs =>
      split at closed
      · cases closed
      · next lenient =>
        cases closed
        exact .repairs closing top (by simpa using differs) lenient

theorem performs_of_perform (performed : state.perform options sentence move = .ok reading) :
    Performs options state sentence move reading := by
  cases move with
  | emit units => cases performed; exact .emit
  | opens opener => cases performed; exact .opens
  | closeAccessor =>
    simp only [perform] at performed
    exact performs_of_close rfl performed
  | closes requested => exact performs_of_close rfl performed
  | elif =>
    simp only [perform, elif] at performed
    split at performed
    · next outer left =>
      cases performed
      -- Leaving the block for another one of its kind changes nothing.
      have same := Nesting.leave?_eq_some_iff.mp left
      rw [← same]
      exact .elif (by rw [same]; rfl)
    · next kept =>
      split at performed
      · cases performed
      · next lenient =>
        cases performed
        exact .strayElif (Nesting.leave?_eq_none_iff.mp kept) lenient
  | caseHead value =>
    cases performed
    split
    · next shared => exact .sharedCase shared
    · next new => exact .newCase new
  | announces routine name => cases performed; exact .announces
  | startsBody routine returnType => cases performed; exact .startsBody
  | assigns key =>
    simp only [perform] at performed
    split at performed
    · next outer left =>
      cases performed
      have same := Nesting.leave?_eq_some_iff.mp left
      rw [← same]
      exact .reassigns (by rw [same]; rfl)
    · next kept =>
      cases performed
      exact .assigns (Nesting.leave?_eq_none_iff.mp kept)
  | unknown =>
    simp only [perform, unknown] at performed
    split at performed
    · next blank => cases performed; exact .blank blank
    · next worded =>
      split at performed
      · next degrade => cases performed; exact .degrades (by simpa using worded) degrade
      · cases performed

theorem Performs.perform (performs : Performs options state sentence move reading) :
    state.perform options sentence move = .ok reading := by
  cases performs with
  | emit | opens | announces | startsBody => rfl
  | @closes move requested found unit closing top closes =>
    cases move <;> cases closing <;> simp [ScopeState.perform, close, top, closes]
  | @repairs move requested found unit closing top differs lenient =>
    cases move <;> cases closing <;> simp [ScopeState.perform, close, top, differs, lenient]
  | elif top =>
    have left : state.nesting.leave? .ifBlockBody = some state.nesting.pop := if_pos top
    simp [ScopeState.perform, ScopeState.elif, left, Nesting.pop_push_of_top? top]
  | strayElif other lenient =>
    simp [ScopeState.perform, ScopeState.elif, Nesting.leave?_eq_none_iff.mpr other, lenient]
  | sharedCase shared => simp [ScopeState.perform, shared]
  | newCase new => simp [ScopeState.perform, new]
  | reassigns top =>
    have left : state.nesting.leave? .assignment = some state.nesting.pop := if_pos top
    simp [ScopeState.perform, left, Nesting.pop_push_of_top? top]
  | assigns other => simp [ScopeState.perform, Nesting.leave?_eq_none_iff.mpr other]
  | blank blank => simp [ScopeState.perform, unknown, blank]
  | degrades worded degrade => simp [ScopeState.perform, unknown, worded, degrade]

/-- No scope is open after a move but those that were, and the one that the move adds. -/
theorem mem_perform (performed : state.perform options sentence move = .ok reading)
    (member : scope ∈ reading.state.nesting.scopes) :
    scope ∈ state.nesting.scopes ∨ move.pushed? = some scope := by
  have pushed {added : Scope} (member : scope ∈ (state.nesting.push added).scopes) :
      scope ∈ state.nesting.scopes ∨ some added = some scope := by
    rcases List.mem_cons.mp member with rfl | below
    · exact .inr rfl
    · exact .inl below
  cases performs_of_perform performed with
  | emit | elif | sharedCase | announces | reassigns | blank | degrades => exact .inl member
  | closes | repairs => exact .inl (Nesting.mem_pop member)
  | opens | strayElif | newCase | startsBody | assigns => exact pushed member

/-- Why a move can be refused, and what it leaves then. -/
inductive Refuses (options : Options) (state : ScopeState) (sentence : Sentence) :
    Move → Refusal → Prop where
  | underflow {move : Move} {requested : Scope} {unit : Scope → SemanticUnit} :
      move.closing? = some (requested, unit) → state.nesting.top? = none →
      Refuses options state sentence move { fault := .underflow requested, state }
  | mismatchedEnd {move : Move} {requested found : Scope} {unit : Scope → SemanticUnit} :
      move.closing? = some (requested, unit) → state.nesting.top? = some found →
      found.closesAs requested = false → options.mismatches = .strict →
      Refuses options state sentence move { fault := .mismatchedEnd requested found, state }
  | misplacedElif : state.nesting.top? ≠ some .ifBlockBody → options.mismatches = .strict →
      Refuses options state sentence .elif { fault := .misplacedElif state.nesting.current, state }
  | unrecognized : sentence.text.isEmpty = false → options.unknown = .reject →
      Refuses options state sentence .unknown { fault := .unrecognized sentence.text, state }

variable {refusal : Refusal}

theorem refuses_of_close {requested : Scope} {unit : Scope → SemanticUnit}
    (closing : move.closing? = some (requested, unit))
    (failed : state.close options sentence requested unit = .error refusal) :
    Refuses options state sentence move refusal := by
  unfold close at failed
  split at failed
  · next none_open =>
    cases failed
    exact .underflow closing none_open
  · next found top =>
    split at failed
    · cases failed
    · next differs =>
      split at failed
      · next strict =>
        cases failed
        exact .mismatchedEnd closing top (by simpa using differs) strict
      · cases failed

theorem refuses_of_perform (failed : state.perform options sentence move = .error refusal) :
    Refuses options state sentence move refusal := by
  cases move with
  | closeAccessor =>
    simp only [perform] at failed
    exact refuses_of_close rfl failed
  | closes requested => exact refuses_of_close rfl failed
  | elif =>
    simp only [perform, elif] at failed
    split at failed
    · cases failed
    · next kept =>
      split at failed
      · next strict =>
        cases failed
        exact .misplacedElif (Nesting.leave?_eq_none_iff.mp kept) strict
      · cases failed
  | assigns key =>
    simp only [perform] at failed
    split at failed <;> cases failed
  | unknown =>
    simp only [perform, unknown] at failed
    split at failed
    · cases failed
    · next worded =>
      split at failed
      · cases failed
      · next reject =>
        cases failed
        exact .unrecognized (by simpa using worded) reject
  | _ => cases failed

/-- Every way to refuse a move comes before anything is done. -/
theorem Refuses.leaves (refuses : Refuses options state sentence move refusal) :
    refusal.state = state ∧ refusal.notices = [] := by
  cases refuses with
  | underflow | mismatchedEnd | misplacedElif | unrecognized => exact ⟨rfl, rfl⟩

theorem closing?_eq_some {requested : Scope} {unit : Scope → SemanticUnit}
    (closing : move.closing? = some (requested, unit)) :
    move = .closes requested ∨ (move = .closeAccessor ∧ requested = .accessor) := by
  cases move <;> cases closing
  · exact .inr ⟨rfl, rfl⟩
  · exact .inl rfl

/-- A fault tells of the scope that was to be closed and of the innermost one, which may be the
outermost scope of all. -/
theorem perform_fault (failed : state.perform options sentence move = .error refusal)
    (member : scope ∈ refusal.fault.scopes) :
    scope ∈ state.nesting.scopes ∨ scope = Nesting.outermost ∨ move = .closes scope ∨
      (move = .closeAccessor ∧ scope = .accessor) := by
  cases refuses_of_perform failed with
  | underflow closing =>
    rw [List.mem_singleton.mp member]
    exact .inr (.inr (closing?_eq_some closing))
  | mismatchedEnd closing top =>
    rcases List.mem_cons.mp member with rfl | other
    · exact .inr (.inr (closing?_eq_some closing))
    · rw [List.mem_singleton.mp other]
      exact .inl (Nesting.mem_of_top? top)
  | misplacedElif =>
    rw [List.mem_singleton.mp member]
    obtain ⟨⟨scopes⟩, _⟩ := state
    cases scopes with
    | nil => exact .inr (.inl rfl)
    | cons inner outer => exact .inl (List.mem_cons_self ..)
  | unrecognized => cases member

end ScopeState

namespace Nesting

theorem mem_splitStatement_right {nesting : Nesting} {scope : Scope}
    (member : scope ∈ nesting.splitStatement.2.scopes) : scope ∈ nesting.scopes := by
  rw [← nesting.splitStatement_append]
  exact List.mem_append_right _ member

end Nesting

theorem Reading.mem_punctuate {reading : Reading} {kind : Sentence.Kind} {scope : Scope}
    (member : scope ∈ (reading.punctuate kind).state.nesting.scopes) :
    scope ∈ reading.state.nesting.scopes := by
  unfold punctuate at member
  split at member
  · split at member
    · exact member
    · exact Nesting.mem_splitStatement_right member
  · unfold endElement at member
    split at member
    · next left => exact Nesting.mem_leave? left member
    · exact member
  · exact member

end Clausal
