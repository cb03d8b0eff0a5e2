import Clausal.Proofs.Performing
import Clausal.Proofs.Reading

/-! Reading inside an arbitrary nesting.

A sentence looks at the innermost scope only, and closes no more than it needs. So what it does can
be seen in a view, which leaves out what lies below a scope that stays open.
-/

set_option autoImplicit false

namespace Clausal

namespace Nesting

/-- The scopes that a view leaves out, with the scope it ends with on top. Below everything there is
nothing to leave out, and the view ends with the outermost scope, which a nesting does not store. -/
def hanging (hidden : Option (List Scope)) (face : Scope) : List Scope :=
  hidden.elim [] (face :: ·)

/-- A view shows the innermost scopes of a nesting, and leaves out what is hidden. -/
def Shows (hidden : Option (List Scope)) (view nesting : Nesting) : Prop :=
  ∃ inner face, (hidden = none → face = outermost) ∧ view.scopes = inner ++ [face] ∧
    nesting.scopes = inner ++ hanging hidden face

variable {hidden : Option (List Scope)} {view nesting : Nesting}

theorem tail?_enterBody (nesting : Nesting) :
    nesting.enterBody.scopes.tail? = nesting.scopes.tail? := by
  obtain ⟨scopes⟩ := nesting
  cases scopes <;> rfl

theorem shows_current (nesting : Nesting) :
    Shows nesting.scopes.tail? ⟨[nesting.current]⟩ nesting := by
  obtain ⟨scopes⟩ := nesting
  cases scopes with
  | nil => exact ⟨[], outermost, fun _ => rfl, rfl, rfl⟩
  | cons scope outer => exact ⟨[], scope, fun none => by simp at none, rfl, rfl⟩

namespace Shows

theorem current (shows : Shows hidden view nesting) : view.current = nesting.current := by
  obtain ⟨inner, face, bottom, shown, whole⟩ := shows
  unfold Nesting.current
  rw [shown, whole]
  cases inner with
  | cons scope inner => rfl
  | nil => cases hidden with
    | some below => rfl
    | none => exact bottom rfl

theorem eq_append {other : Nesting} {inner : List Scope}
    (shows : Shows nesting.scopes.tail? ⟨inner ++ [nesting.current]⟩ other) :
    other = ⟨inner ++ nesting.scopes⟩ := by
  obtain ⟨shown, face, _, view, whole⟩ := shows
  obtain ⟨rfl, rfl⟩ : inner = shown ∧ nesting.current = face := by simpa using view
  obtain ⟨scopes⟩ := nesting
  obtain ⟨others⟩ := other
  cases whole
  cases scopes <;> rfl

theorem push (shows : Shows hidden view nesting) (scope : Scope) :
    Shows hidden (view.push scope) (nesting.push scope) := by
  obtain ⟨inner, face, bottom, shown, whole⟩ := shows
  exact ⟨scope :: inner, face, bottom, by simp [Nesting.push, shown],
    by simp [Nesting.push, whole]⟩

theorem enterBody (shows : Shows hidden view nesting) :
    Shows hidden view.enterBody nesting.enterBody := by
  obtain ⟨shown⟩ := view
  obtain ⟨whole⟩ := nesting
  obtain ⟨inner, face, bottom, rfl, rfl⟩ := shows
  cases inner with
  | cons scope inner => exact ⟨scope.body :: inner, face, bottom, rfl, rfl⟩
  | nil =>
    refine ⟨[], face.body, ?_, rfl, ?_⟩
    · intro none
      rw [bottom none]
      rfl
    · cases hidden <;> rfl

theorem top? (shows : Shows hidden view nesting) :
    view.top? = nesting.top? ∨ (view.scopes = [outermost] ∧ nesting.scopes = []) := by
  obtain ⟨inner, face, bottom, shown, whole⟩ := shows
  unfold Nesting.top?
  rw [shown, whole]
  cases inner with
  | cons scope inner => exact .inl rfl
  | nil => cases hidden with
    | some below => exact .inl rfl
    -- The outermost scope is shown but not stored.
    | none => exact .inr ⟨by rw [bottom rfl]; rfl, rfl⟩

theorem openHead? (shows : Shows hidden view nesting) : view.openHead? = nesting.openHead? := by
  unfold Nesting.openHead?
  obtain same | ⟨shown, whole⟩ := shows.top?
  · rw [same]
  · unfold Nesting.top?
    rw [shown, whole]
    rfl

theorem pop (shows : Shows hidden view nesting) (stays : view.pop.scopes ≠ []) :
    view.top? = nesting.top? ∧ Shows hidden view.pop nesting.pop := by
  obtain ⟨inner, face, bottom, shown, whole⟩ := shows
  unfold Nesting.pop at stays ⊢
  unfold Nesting.top?
  rw [shown] at stays ⊢
  rw [whole]
  cases inner with
  | nil => exact absurd rfl stays
  | cons scope inner => exact ⟨rfl, inner, face, bottom, rfl, rfl⟩

theorem top?_eq_some_iff (shows : Shows hidden view nesting) (scope : Scope)
    (inner : scope ≠ outermost) : view.top? = some scope ↔ nesting.top? = some scope := by
  obtain same | ⟨shown, whole⟩ := shows.top?
  · rw [same]
  · simp [Nesting.top?, shown, whole, inner.symm]

theorem dropWhile (p : Scope → Bool) {face : Scope} (bottom : hidden = none → face = outermost)
    (inner : List Scope) (stays : (inner ++ [face]).dropWhile p ≠ []) :
    ∃ left, (inner ++ [face]).dropWhile p = left ++ [face] ∧
      (inner ++ hanging hidden face).dropWhile p = left ++ hanging hidden face ∧
      (inner ++ [face]).takeWhile p = (inner ++ hanging hidden face).takeWhile p := by
  induction inner with
  | nil =>
    -- Something stays, so it is the last scope of the view that is not dropped.
    have kept : p face = false := by
      simpa [List.dropWhile_cons] using stays
    refine ⟨[], by simp [kept], ?_, ?_⟩ <;> cases hidden <;> simp [hanging, kept]
  | cons scope inner ih =>
    by_cases dropped : p scope = true
    · simp only [List.cons_append, List.dropWhile_cons_of_pos dropped,
        List.takeWhile_cons_of_pos dropped] at stays ⊢
      obtain ⟨left, shown, whole, taken⟩ := ih stays
      exact ⟨left, shown, whole, by rw [taken]⟩
    · refine ⟨scope :: inner, ?_, ?_, ?_⟩ <;> simp [dropped]

theorem splitStatement (shows : Shows hidden view nesting)
    (stays : view.splitStatement.2.scopes ≠ []) :
    view.splitStatement.1 = nesting.splitStatement.1 ∧
      Shows hidden view.splitStatement.2 nesting.splitStatement.2 := by
  obtain ⟨shown⟩ := view
  obtain ⟨whole⟩ := nesting
  obtain ⟨inner, face, bottom, rfl, rfl⟩ := shows
  have some : (inner ++ [face]).dropWhile (· == .assignment) ≠ [] := by
    intro none
    simp [Nesting.splitStatement, none] at stays
  obtain ⟨left, shown, whole, taken⟩ := dropWhile (· == .assignment) bottom inner some
  unfold Nesting.splitStatement at stays ⊢
  simp only [shown, whole, taken] at stays ⊢
  cases left with
  | nil =>
    -- The scope that the view ends with does not end with its statement, or nothing would stay.
    have stands : face.endsWithStatement = false := by
      rw [Bool.eq_false_iff]
      intro ends
      simp [ends] at stays
    cases hidden with
    | none => exact ⟨by simp [hanging, stands], [], face, bottom, by simp [stands], rfl⟩
    | some below => refine ⟨?_, [], face, bottom, ?_, ?_⟩ <;> simp [hanging, stands]
  | cons scope left =>
    by_cases ends : scope.endsWithStatement = true
    · simp only [List.cons_append, ends, if_true] at stays ⊢
      obtain ⟨rest, shown, whole, taken⟩ := dropWhile (· == .assignment) bottom left stays
      exact ⟨by rw [taken], rest, face, bottom, shown, whole⟩
    · simp only [List.cons_append, ends] at stays ⊢
      exact ⟨rfl, scope :: left, face, bottom, rfl, rfl⟩

end Shows

end Nesting

/-- A view of the nesting, with the same routine awaited. -/
structure ScopeState.Shows (hidden : Option (List Scope)) (view state : ScopeState) : Prop where
  nesting : Nesting.Shows hidden view.nesting state.nesting
  awaiting : view.awaiting = state.awaiting

structure Reading.Shows (hidden : Option (List Scope)) (view reading : Reading) : Prop where
  units : view.units = reading.units
  state : ScopeState.Shows hidden view.state reading.state
  notices : view.notices = reading.notices

namespace ScopeState

variable {options : Options} {hidden : Option (List Scope)} {view state : ScopeState}
  {sentence : Sentence}

-- Of the nesting, the rules look at the innermost scope alone.
theorem move_of_current {first second : ScopeState} (left : Option Scope)
    (current : first.nesting.current = second.nesting.current)
    (awaiting : first.awaiting = second.awaiting) :
    Situation.move ⟨first, sentence, left⟩ = Situation.move ⟨second, sentence, left⟩ := by
  have seen (state : ScopeState) : Situation.move ⟨state, sentence, left⟩ =
      Situation.move ⟨⟨⟨[state.nesting.current]⟩, state.awaiting⟩, sentence, left⟩ := rfl
  rw [seen first, seen second, current, awaiting]

namespace Shows

theorem leavesHead (shows : Shows hidden view state) :
    view.leavesHead sentence = state.leavesHead sentence := by
  simp only [ScopeState.leavesHead, sharesCase, shows.nesting.current]

theorem enter (shows : Shows hidden view state) :
    Shows hidden (view.enter sentence) (state.enter sentence) := by
  unfold ScopeState.enter
  rw [shows.leavesHead]
  split
  · exact ⟨shows.nesting.enterBody, shows.awaiting⟩
  · exact shows

theorem move (shows : Shows hidden view state) :
    (view.situation sentence).move = (state.situation sentence).move := by
  unfold situation
  rw [shows.leavesHead, shows.nesting.openHead?]
  exact move_of_current _ shows.enter.nesting.current shows.enter.awaiting

theorem performs (shows : Shows hidden view state) {move : Move} {reading : Reading}
    (performed : view.Performs options sentence move reading)
    (stays : reading.state.nesting.scopes ≠ []) :
    ∃ other, state.Performs options sentence move other ∧
      Reading.Shows hidden reading other := by
  have pushed (scope : Scope) : Shows hidden (view.push scope) (state.push scope) :=
    ⟨shows.nesting.push scope, shows.awaiting⟩
  have current : view.nesting.current = state.nesting.current := shows.nesting.current
  have ifBlocks := shows.nesting.top?_eq_some_iff .ifBlockBody (by decide)
  have assignments := shows.nesting.top?_eq_some_iff .assignment (by decide)
  cases performed with
  | emit => exact ⟨_, .emit, rfl, shows, rfl⟩
  | opens => exact ⟨_, .opens, rfl, pushed _, rfl⟩
  | closes closing top closes =>
    obtain ⟨same, nesting⟩ := shows.nesting.pop stays
    exact ⟨_, .closes closing (same ▸ top) closes, rfl, ⟨nesting, shows.awaiting⟩, rfl⟩
  | repairs closing top differs lenient =>
    obtain ⟨same, nesting⟩ := shows.nesting.pop stays
    exact ⟨_, .repairs closing (same ▸ top) differs lenient, rfl, ⟨nesting, shows.awaiting⟩, rfl⟩
  | elif top => exact ⟨_, .elif (ifBlocks.mp top), rfl, shows, rfl⟩
  | strayElif other lenient =>
    refine ⟨_, .strayElif (other ∘ ifBlocks.mpr) lenient, rfl, pushed _, ?_⟩
    rw [current]
  | sharedCase shared => exact ⟨_, .sharedCase (current ▸ shared), rfl, shows, rfl⟩
  | newCase new => exact ⟨_, .newCase (current ▸ new), rfl, pushed _, rfl⟩
  | announces => exact ⟨_, .announces, rfl, ⟨shows.nesting, rfl⟩, rfl⟩
  | startsBody => exact ⟨_, .startsBody, rfl, ⟨shows.nesting.push _, rfl⟩, rfl⟩
  | reassigns top => exact ⟨_, .reassigns (assignments.mp top), rfl, shows, rfl⟩
  | assigns other => exact ⟨_, .assigns (other ∘ assignments.mpr), rfl, pushed _, rfl⟩
  | blank blank => exact ⟨_, .blank blank, rfl, shows, rfl⟩
  | degrades worded degrade => exact ⟨_, .degrades worded degrade, rfl, shows, rfl⟩

end Shows

end ScopeState

theorem Reading.Shows.punctuate {hidden : Option (List Scope)} {view reading : Reading}
    (shows : Shows hidden view reading)
    {kind : Sentence.Kind} (stays : (view.punctuate kind).state.nesting.scopes ≠ []) :
    Shows hidden (view.punctuate kind) (reading.punctuate kind) := by
  have marks : view.isEndMarker = reading.isEndMarker := by
    rw [isEndMarker, isEndMarker, shows.units]
  unfold Reading.punctuate at stays ⊢
  split
  · dsimp only at stays
    rw [marks] at stays ⊢
    split
    · exact shows
    · next ends =>
      rw [if_neg ends] at stays
      obtain ⟨closed, nesting⟩ := shows.state.nesting.splitStatement stays
      refine ⟨?_, ⟨nesting, shows.state.awaiting⟩, shows.notices⟩
      rw [endStatement_units, endStatement_units, shows.units, closed]
  · dsimp only at stays
    have tops := shows.state.nesting.top?_eq_some_iff .assignment (by decide)
    unfold endElement Nesting.leave? at stays ⊢
    by_cases top : view.state.nesting.top? = some .assignment
    · rw [if_pos top] at stays
      rw [if_pos top, if_pos (tops.mp top)]
      obtain ⟨_, nesting⟩ := shows.state.nesting.pop stays
      exact ⟨by rw [shows.units], ⟨nesting, shows.state.awaiting⟩, shows.notices⟩
    · rw [if_neg top, if_neg (top ∘ tops.mpr)]
      exact shows
  · exact shows

/-- A sentence that leaves something of a view open is read in every nesting as in the view. -/
theorem ScopeState.Shows.read {options : Options} {hidden : Option (List Scope)}
    {view state : ScopeState} {sentence : Sentence} {reading : Reading}
    (shows : Shows hidden view state) (read : view.read options sentence = .ok reading)
    (stays : reading.state.nesting.scopes ≠ []) :
    ∃ other, state.read options sentence = .ok other ∧ Reading.Shows hidden reading other := by
  obtain ⟨performed, performs, rfl⟩ := read_eq_ok read
  -- Punctuation opens nothing, so what is open after it was open before.
  have stayed : performed.state.nesting.scopes ≠ [] := by
    obtain ⟨scope, left⟩ := List.exists_mem_of_ne_nil _ stays
    exact List.ne_nil_of_mem (Reading.mem_punctuate left)
  rw [shows.move] at performs
  obtain ⟨other, performs, readings⟩ := shows.enter.performs (performs_of_perform performs) stayed
  refine ⟨other.punctuate sentence.kind, ?_, readings.punctuate stays⟩
  rw [read_eq, performs.perform]
  rfl

end Clausal
