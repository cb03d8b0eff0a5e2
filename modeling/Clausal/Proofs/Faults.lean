import Clausal.Proofs.Moves
import Clausal.Proofs.Performing
import Clausal.Proofs.Reading

/-! What a fault leaves behind.

An assembler can be used after a fault. A refusal comes before the scopes are touched or notice is
given, so nothing of the sentence at fault stays, except that the sentence may have turned a head
into its body before it was looked at. The head is gone when the sentence is read again, and the
rules can tell; but they ask for it only where they cannot fail.
-/

set_option autoImplicit false

namespace Clausal

namespace Nesting

theorem enterBody_eq (nesting : Nesting) :
    nesting.enterBody = nesting ∨ ∃ (head : Scope) (outer : Nesting), head.isHead = true ∧
      nesting = outer.push head ∧ nesting.enterBody = outer.push head.body := by
  obtain ⟨scopes⟩ := nesting
  cases scopes with
  | nil => exact .inl rfl
  | cons scope outer =>
    cases head : scope.isHead with
    | true => exact .inr ⟨scope, ⟨outer⟩, head, rfl, rfl⟩
    | false => exact .inl (by simp [enterBody, (Scope.body_eq_self_iff scope).mpr head])

@[simp] theorem enterBody_enterBody (nesting : Nesting) :
    nesting.enterBody.enterBody = nesting.enterBody := by
  obtain ⟨scopes⟩ := nesting
  cases scopes with
  | nil => rfl
  | cons scope outer => simp [enterBody]

end Nesting

namespace Situation

/-- The start of a body tells apart the heads in front of it, and is never refused. -/
theorem move_of_do (s : Situation) (colon : s.kind = .opening) (word : s.text = "do") :
    s.move = .emit [.caseBodyStart] ∨ s.move = .opens .whileBody := by
  have literal : Literal.read? "do" = none := by decide
  by_cases left : s.leftHead = some .caseHead
  · left
    simp [move, rules, contentRule, literalRule, accessorRule, compoundRule, operatorRule,
      closingRule, openingRule, colon, word, literal, left, unit]
  · right
    simp [move, rules, contentRule, literalRule, accessorRule, compoundRule, operatorRule,
      closingRule, openingRule, colon, word, literal, left]

theorem openingRule_of_leftHead {s : Situation} (other : s.kind = .opening → s.text ≠ "do")
    (leftHead : Option Scope) : openingRule { s with leftHead } = openingRule s := by
  by_cases colon : s.kind = .opening
  · have other := other colon
    simp only [openingRule, kind, text] at colon other ⊢
    simp only [colon, ↓reduceIte]
    split
    case h_6 word => exact absurd word other
    all_goals rfl
  · simp only [openingRule, kind] at colon ⊢
    simp only [colon, ↓reduceIte]

/-- No other rule looks at the head that the sentence left. -/
theorem move_of_leftHead (s : Situation) (leftHead : Option Scope) :
    { s with leftHead }.move = s.move ∨ s.move = .emit [.caseBodyStart] ∨
      s.move = .opens .whileBody := by
  by_cases starts : s.kind = .opening ∧ s.text = "do"
  · exact .inr (s.move_of_do starts.1 starts.2)
  · left
    have other : s.kind = .opening → s.text ≠ "do" := fun colon word => starts ⟨colon, word⟩
    simp only [move, rules, List.findSome?_cons, openingRule_of_leftHead other]
    rfl

end Situation

namespace ScopeState

variable {options : Options} {state : ScopeState} {sentence : Sentence} {refusal : Refusal}

theorem leavesHead_enter (state : ScopeState) (sentence : Sentence) :
    (state.enter sentence).leavesHead sentence = state.leavesHead sentence := by
  cases leaves : state.leavesHead sentence with
  | false => rw [enter, leaves, if_neg Bool.false_ne_true, leaves]
  | true =>
    have colon : (sentence.kind == .opening) = true := by
      simp only [leavesHead, Bool.and_eq_true] at leaves
      exact leaves.1
    -- The innermost scope is a body now, so no case head is left to share.
    have body : state.nesting.current.body ≠ .caseHead := by
      cases state.nesting.current <;> decide
    rw [enter, if_pos leaves]
    simp [leavesHead, colon, sharesCase, Nesting.current_enterBody, body]

theorem enter_eq (state : ScopeState) (sentence : Sentence) :
    state.enter sentence = state ∨
      (sentence.kind = .opening ∧
        state.enter sentence = { state with nesting := state.nesting.enterBody }) := by
  unfold enter
  split
  · next leaves =>
    simp only [leavesHead, Bool.and_eq_true, beq_iff_eq] at leaves
    exact .inr ⟨leaves.1, rfl⟩
  · exact .inl rfl

theorem enter_enter (state : ScopeState) (sentence : Sentence) :
    (state.enter sentence).enter sentence = state.enter sentence := by
  rw [enter, leavesHead_enter]
  split
  · next leaves => simp [enter, leaves]
  · rfl

/-- A sentence that is refused is refused again in the state that it left. -/
theorem read_again (failed : state.read options sentence = .error refusal) :
    refusal.state.read options sentence = .error refusal := by
  have refused := read_eq_error failed
  rw [(read_refused failed).1]
  have same :
      ((state.enter sentence).situation sentence).move = (state.situation sentence).move := by
    rcases (state.situation sentence).move_of_leftHead
        ((state.enter sentence).situation sentence).leftHead with same | emits | opens
    · rw [← same, situation, enter_enter]
      rfl
    · rw [emits] at refused
      cases refused
    · rw [opens] at refused
      cases refused
  rw [read_eq, enter_enter, same, refused]
  rfl

end ScopeState

namespace Assembler

variable {assembler next : Assembler} {index : Nat} {sentence : Sentence} {rejection : Rejection}

theorem add_eq_error (failed : assembler.add index sentence = (next, .error rejection)) :
    next = { assembler with state := assembler.state.enter sentence } ∧
      ∃ refusal, assembler.state.read assembler.options sentence = .error refusal ∧
        rejection = ⟨index, refusal.fault⟩ := by
  cases read : assembler.state.read assembler.options sentence with
  | ok reading =>
    rw [assembler.add_of_read index read] at failed
    cases failed
  | error refusal =>
    rw [assembler.add_of_refusal index read] at failed
    cases failed
    exact ⟨rfl, refusal, rfl, rfl⟩

theorem add_again (failed : assembler.add index sentence = (next, .error rejection)) :
    next.add index sentence = (next, .error rejection) := by
  obtain ⟨left, refusal, refused, rfl⟩ := add_eq_error failed
  have state : next.state = refusal.state := by
    rw [left, (ScopeState.read_refused refused).1]
  have options : next.options = assembler.options := by rw [left]
  have settled : next.state.enter sentence = next.state := by
    rw [left, ScopeState.enter_enter]
  have again : next.state.read next.options sentence = .error refusal := by
    rw [state, options]
    exact ScopeState.read_again refused
  rw [next.add_of_refusal index again, settled]

end Assembler

/-- A fault leaves an assembler as it was, except that a sentence in front of a colon may have
turned the innermost head into its body. Reading the sentence again fails in the same way, and then
changes nothing. -/
theorem fault_leaves_assembler {assembler next : Assembler} {index : Nat} {sentence : Sentence}
    {rejection : Rejection} (failed : assembler.add index sentence = (next, .error rejection)) :
    next.options = assembler.options ∧ next.units = assembler.units ∧
      next.notices = assembler.notices ∧ next.state.awaiting = assembler.state.awaiting ∧
      next.state.nesting.depth = assembler.state.nesting.depth ∧
      (next.state.nesting = assembler.state.nesting ∨
        sentence.kind = .opening ∧ ∃ (head : Scope) (outer : Nesting), head.isHead = true ∧
          assembler.state.nesting = outer.push head ∧ next.state.nesting = outer.push head.body) ∧
      next.add index sentence = (next, .error rejection) := by
  have again := Assembler.add_again failed
  have left := (Assembler.add_eq_error failed).1
  rcases assembler.state.enter_eq sentence with same | ⟨colon, entered⟩
  · rw [same] at left
    rw [left] at again ⊢
    exact ⟨rfl, rfl, rfl, rfl, rfl, .inl rfl, again⟩
  · rw [entered] at left
    rw [left] at again ⊢
    refine ⟨rfl, rfl, rfl, rfl, Nesting.depth_enterBody _, ?_, again⟩
    exact assembler.state.nesting.enterBody_eq.imp_right fun turned => ⟨colon, turned⟩

/-- A branch that is out of place enters the body of a case and is refused there, twice. -/
theorem misplaced_branch_refused_twice :
    ∃ next : Assembler,
      ({ state := { nesting := ⟨[.caseHead, .switchBody]⟩ }
         units := #[.switchHead (some "x"), .caseHead none] } : Assembler).add 2
          ⟨.opening, "elif", .between 14 19⟩ = (next, .error ⟨2, .misplacedElif .caseBody⟩) ∧
      next.state.nesting = ⟨[.caseBody, .switchBody]⟩ ∧
      next.units = #[.switchHead (some "x"), .caseHead none] ∧
      next.add 2 ⟨.opening, "elif", .between 14 19⟩ =
        (next, .error ⟨2, .misplacedElif .caseBody⟩) := by
  have failed : ({ state := { nesting := ⟨[.caseHead, .switchBody]⟩ }
                   units := #[.switchHead (some "x"), .caseHead none] } : Assembler).add 2
      ⟨.opening, "elif", .between 14 19⟩ =
        ({ state := { nesting := ⟨[.caseBody, .switchBody]⟩ }
           units := #[.switchHead (some "x"), .caseHead none] },
          .error ⟨2, .misplacedElif .caseBody⟩) := rfl
  obtain ⟨_, units, _, _, _, _, again⟩ := fault_leaves_assembler failed
  exact ⟨_, failed, rfl, units, again⟩

end Clausal
