import Clausal.Proofs.Moves
import Clausal.Proofs.Performing
import Clausal.Proofs.Reading
import Mathlib.Data.List.Chain

/-! Which scopes can lie directly inside one another.

A head waits for its body, an assignment ends before the next one begins, and commands stand where
definitions may. No sentence breaks this, whatever came before it and whether or not it is at fault;
only a call that ends with its own sentence stands on an open head for a moment.
-/

set_option autoImplicit false

namespace Clausal

/-- Whether `inner` may lie directly inside `outer`. -/
def Scope.Admits (outer inner : Scope) : Prop :=
  (inner = .assignment → outer ≠ .assignment) ∧
  (outer = .caseHead → inner = .assignment ∨ inner = .accessor) ∧
  (outer = .switchHead →
    inner = .assignment ∨ inner = .accessor ∨ inner = .caseHead ∨ inner = .caseBody) ∧
  (inner = .commandBody → outer.admitsDefinitions = true)

instance : DecidableRel Scope.Admits := fun _ _ =>
  inferInstanceAs (Decidable (_ ∧ _ ∧ _ ∧ _))

namespace Scope

variable {outer inner : Scope}

theorem admits_body (admits : outer.Admits inner) : outer.Admits inner.body := by
  cases outer <;> revert admits <;> cases inner <;> decide

theorem admits_accessor (outer : Scope) : outer.Admits .accessor := by
  cases outer <;> decide

theorem admits_caseHead (new : outer ≠ .caseHead) : outer.Admits .caseHead :=
  ⟨nofun, fun same => absurd same new, fun _ => .inr (.inr (.inl rfl)), nofun⟩

theorem admits_assignment (other : outer ≠ .assignment) : outer.Admits .assignment :=
  ⟨fun _ => other, fun _ => .inl rfl, fun _ => .inl rfl, nofun⟩

/-- A body admits all that asks for nothing more. -/
theorem admits_of_not_isHead (body : outer.isHead = false) (value : inner ≠ .assignment)
    (commands : inner ≠ .commandBody) : outer.Admits inner := by
  refine ⟨fun same => absurd same value, ?_, ?_, fun same => absurd same commands⟩ <;>
  · rintro rfl
    cases body

theorem admits_of_admitsDefinitions (definitions : outer.admitsDefinitions = true)
    (inner : Scope) : outer.Admits inner := by
  refine ⟨fun _ => ?_, ?_, ?_, fun _ => definitions⟩ <;>
  · rintro rfl
    cases definitions

end Scope

theorem Opener.admits {opener : Opener} {current : Scope} (fits : opener.fitsIn current = true)
    (body : current.isHead = false) : current.Admits opener.scope := by
  cases opener with
  | commands | declaration => exact Scope.admits_of_admitsDefinitions fits _
  | _ => exact Scope.admits_of_not_isHead body nofun nofun

theorem Opener.not_isEndMarker (opener : Opener) (state : ScopeState) :
    ({ units := opener.units, state } : Reading).isEndMarker = false := by
  cases opener <;> rfl

theorem Routine.admits (routine : Routine) {current : Scope} (body : current.isHead = false) :
    current.Admits routine.bodyScope := by
  cases routine <;> exact Scope.admits_of_not_isHead body nofun nofun

namespace Nesting

section Chains

variable {fits : Scope → Scope → Prop} {nesting : Nesting} {scope : Scope}

theorem isChain_iff : nesting.toList.IsChain fits ↔
    (nesting.scopes ++ [outermost]).IsChain fun inner outer => fits outer inner := by
  rw [toList, ← List.reverse_concat, List.isChain_reverse]

theorem isChain_push : (nesting.push scope).toList.IsChain fits ↔
    fits nesting.current scope ∧ nesting.toList.IsChain fits := by
  obtain ⟨scopes⟩ := nesting
  rw [isChain_iff, isChain_iff]
  cases scopes <;> exact List.isChain_cons_cons

/-- What a whole nesting keeps to, its outer part does. -/
theorem isChain_outer {inner : List Scope} {outer : Nesting}
    (whole : inner ++ outer.scopes = nesting.scopes) (shape : nesting.toList.IsChain fits) :
    outer.toList.IsChain fits := by
  rw [isChain_iff, ← whole, List.append_assoc] at shape
  exact isChain_iff.mpr (shape.suffix (List.suffix_append _ _))

theorem isChain_pop (shape : nesting.toList.IsChain fits) : nesting.pop.toList.IsChain fits := by
  obtain ⟨scopes⟩ := nesting
  cases scopes with
  | nil => exact shape
  | cons scope outer => exact (isChain_push.mp shape).2

theorem isChain_enterBody (body : ∀ {outer inner : Scope}, fits outer inner → fits outer inner.body)
    (shape : nesting.toList.IsChain fits) : nesting.enterBody.toList.IsChain fits := by
  obtain ⟨scopes⟩ := nesting
  cases scopes with
  | nil => exact shape
  | cons scope outer =>
    obtain ⟨fitted, below⟩ := isChain_push.mp shape
    exact isChain_push.mpr ⟨body fitted, below⟩

end Chains

/-- Every scope admits the one directly inside it, the outermost scope included. -/
def WellNested (nesting : Nesting) : Prop :=
  nesting.toList.IsChain Scope.Admits

variable {nesting : Nesting} {scope : Scope}

theorem wellNested_empty : empty.WellNested :=
  .singleton _

theorem wellNested_push :
    (nesting.push scope).WellNested ↔ nesting.current.Admits scope ∧ nesting.WellNested :=
  isChain_push

/-- Leave assignments for as long as one is innermost. -/
def leaveAssignments (nesting : Nesting) : List Scope × Nesting :=
  (nesting.scopes.takeWhile (· == .assignment), ⟨nesting.scopes.dropWhile (· == .assignment)⟩)

/-- A semicolon leaves assignments, and once more if a scope under them ends with the statement. -/
theorem splitStatement_eq (nesting : Nesting) :
    nesting.splitStatement =
      let (first, rest) := nesting.leaveAssignments
      if rest.current.endsWithStatement then
        let (second, left) := rest.pop.leaveAssignments
        (first ++ rest.current :: second, left)
      else (first, rest) := by
  unfold splitStatement leaveAssignments
  dsimp only
  split
  · next none_left =>
    rw [none_left]
    rfl
  · next scope outer found =>
    rw [found]
    rfl

theorem leaveAssignments_append (nesting : Nesting) :
    nesting.leaveAssignments.1 ++ nesting.leaveAssignments.2.scopes = nesting.scopes :=
  List.takeWhile_append_dropWhile

namespace WellNested

theorem pop (shape : nesting.WellNested) : nesting.pop.WellNested :=
  isChain_pop shape

theorem leaveAssignments (shape : nesting.WellNested) : nesting.leaveAssignments.2.WellNested :=
  isChain_outer nesting.leaveAssignments_append shape

theorem leaves_at_most_one (shape : nesting.WellNested) :
    nesting.leaveAssignments.1.length ≤ 1 := by
  obtain ⟨scopes⟩ := nesting
  unfold Nesting.leaveAssignments
  match scopes with
  | [] => exact Nat.zero_le 1
  | [scope] => exact (List.takeWhile_prefix _).length_le
  | inner :: outer :: rest =>
    have above : ((⟨outer :: rest⟩ : Nesting).push inner).WellNested := shape
    obtain ⟨admits, -⟩ := wellNested_push.mp above
    by_cases first : inner = .assignment
    · -- Under an assignment lies something else, so the second one is not left.
      have second : outer ≠ .assignment := admits.1 first
      simp [first, second]
    · simp [first]

end WellNested

end Nesting

/-- Punctuation only leaves scopes. -/
theorem Reading.isChain_punctuate {fits : Scope → Scope → Prop} {reading : Reading}
    (kind : Sentence.Kind) (shape : reading.state.nesting.toList.IsChain fits) :
    (reading.punctuate kind).state.nesting.toList.IsChain fits := by
  unfold punctuate
  split
  · split
    · exact shape
    · exact Nesting.isChain_outer (Nesting.splitStatement_append _) shape
  · unfold endElement
    split
    · next left =>
      rw [Nesting.leave?_eq_some_iff.mp left] at shape
      exact (Nesting.isChain_push.mp shape).2
    · exact shape
  · exact shape

/-- A call on top of the scopes that the semicolon of its own sentence is about to end. What lies
under it is well nested, but may be a head. -/
def Reading.EndsCall (reading : Reading) (kind : Sentence.Kind) : Prop :=
  kind = .closing ∧ reading.isEndMarker = false ∧
    ∃ outer : Nesting, outer.WellNested ∧ reading.state.nesting = outer.push .functionCall

theorem Reading.EndsCall.wellNested_punctuate {reading : Reading} {kind : Sentence.Kind}
    (ends : reading.EndsCall kind) : (reading.punctuate kind).state.nesting.WellNested := by
  obtain ⟨rfl, unmarked, outer, shape, same⟩ := ends
  have closed : (reading.punctuate .closing).state.nesting = outer.leaveAssignments.2 := by
    simp only [punctuate, unmarked, Bool.false_eq_true, if_false]
    rw [endStatement_nesting, same, Nesting.splitStatement_eq]
    rfl
  rw [closed]
  exact shape.leaveAssignments

namespace ScopeState

variable {options : Options} {state : ScopeState} {sentence : Sentence} {reading : Reading}

theorem wellNested_enter (sentence : Sentence) (shape : state.nesting.WellNested) :
    (state.enter sentence).nesting.WellNested := by
  unfold enter
  split
  · exact Nesting.isChain_enterBody Scope.admits_body shape
  · exact shape

/-- Whatever an opening sentence does, it does inside a body: only a further case leaves an open
head alone. -/
theorem current_of_opening {move : Move} (chosen : (state.situation sentence).move = move)
    (colon : sentence.kind = .opening) (acts : ∀ units, move ≠ .emit units)
    (new : ∀ value, move ≠ .caseHead value) :
    (state.enter sentence).nesting.current.isHead = false := by
  have alone : state.sharesCase sentence = false := by
    rw [Bool.eq_false_iff]
    intro shares
    have head : sentence.head = "case" := by
      simp only [sharesCase, Bool.and_eq_true, beq_iff_eq] at shares
      exact shares.1
    obtain ⟨unit, same⟩ | same := (state.situation sentence).move_of_case colon head
    · exact acts _ (chosen.symm.trans same)
    · exact new _ (chosen.symm.trans same)
  have leaves : state.leavesHead sentence = true := by
    simp [leavesHead, colon, alone]
  unfold enter
  rw [if_pos leaves, Nesting.current_enterBody, ← Scope.body_eq_self_iff, Scope.body_body]

theorem perform_wellNested (shape : state.nesting.WellNested)
    (performed : (state.enter sentence).perform options sentence (state.situation sentence).move
      = .ok reading) :
    reading.state.nesting.WellNested ∨ reading.EndsCall sentence.kind := by
  have entered := state.wellNested_enter sentence shape
  have means := (state.situation sentence).move_means
  generalize chosen : (state.situation sentence).move = move at performed means
  have body := current_of_opening chosen
  have pushed {scope : Scope} (admits : (state.enter sentence).nesting.current.Admits scope) :
      ((state.enter sentence).nesting.push scope).WellNested :=
    Nesting.wellNested_push.mpr ⟨admits, entered⟩
  cases performs_of_perform performed with
  | emit | elif | sharedCase | announces | reassigns | blank | degrades => exact .inl entered
  | closes | repairs => exact .inl entered.pop
  | newCase new => exact .inl (pushed (Scope.admits_caseHead new))
  | opens =>
    cases means with
    | openAccessor => exact .inl (pushed (Scope.admits_accessor _))
    | opens colon fits => exact .inl (pushed (Opener.admits fits (body colon nofun nofun)))
    | calls semicolon call =>
      exact .inr ⟨semicolon, Opener.not_isEndMarker _ _, _, entered, congrArg (Nesting.push _) call⟩
  | strayElif =>
    cases means with
    | elif colon =>
      exact .inl (pushed (Scope.admits_of_not_isHead (body colon nofun nofun) nofun nofun))
  | startsBody =>
    cases means with
    | startsBody colon => exact .inl (pushed (Routine.admits _ (body colon nofun nofun)))
  | assigns other =>
    have ended := mt (Nesting.current_eq_iff (by decide)).mp other
    exact .inl (pushed (Scope.admits_assignment ended))

theorem wellNested_read (shape : state.nesting.WellNested)
    (read : state.read options sentence = .ok reading) : reading.state.nesting.WellNested := by
  obtain ⟨performed, moved, rfl⟩ := read_eq_ok read
  obtain nested | ends := perform_wellNested shape moved
  · exact Reading.isChain_punctuate _ nested
  · exact ends.wellNested_punctuate

end ScopeState

theorem Assembler.addEach_wellNested (options : Options) (calls : List (Nat × Sentence)) :
    (({ options } : Assembler).addEach calls).state.nesting.WellNested :=
  addEach_keeps (fun state => state.nesting.WellNested) ScopeState.wellNested_enter
    ScopeState.wellNested_read { options } rfl Nesting.wellNested_empty calls

/-- Scopes are well nested after any calls, and a semicolon never finds two assignments in a row:
neither on top, where the sentence left them, nor under a scope that ends with the statement. -/
theorem addEach_keeps_wellNested (options : Options) (calls : List (Nat × Sentence)) :
    let state := (({ options } : Assembler).addEach calls).state
    state.nesting.toList.IsChain Scope.Admits ∧
      ∀ sentence performed,
        (state.enter sentence).perform options sentence (state.situation sentence).move
          = .ok performed →
        let (first, rest) := performed.state.nesting.leaveAssignments
        first.length ≤ 1 ∧ rest.pop.leaveAssignments.1.length ≤ 1 := by
  have shape := Assembler.addEach_wellNested options calls
  refine ⟨shape, fun sentence performed moved => ?_⟩
  obtain nested | ⟨-, -, outer, nested, same⟩ := ScopeState.perform_wellNested shape moved
  · exact ⟨nested.leaves_at_most_one, nested.leaveAssignments.pop.leaves_at_most_one⟩
  · -- Nothing is left in front of the call, and what it stands on is well nested.
    rw [same]
    exact ⟨Nat.zero_le 1, nested.leaves_at_most_one⟩

end Clausal
