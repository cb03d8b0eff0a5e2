import Clausal.Proofs.Moves
import Clausal.Proofs.Performing
import Clausal.Proofs.Reading
import Clausal.Proofs.Stacking
import Mathlib.Data.List.Induction

/-! Heads, return types and bodies of routines.

The head of a routine and the sentence that starts its body may be far apart. All that connects them
is one place in the state for the head that is awaited, which later heads take over and which no
scope keeps. What becomes of the heads, and where the bodies of methods end up, both follow from
that place.
-/

set_option autoImplicit false

namespace Clausal

/-- The units that a routine is announced and resolved by. -/
inductive RoutinePart where
  | head
  | returnType
  deriving DecidableEq

def SemanticUnit.routinePart? : SemanticUnit → Option RoutinePart
  | .functionHead _ | .methodHead _ => some .head
  | .functionReturnType _ => some .returnType
  | _ => none

/-- The routine parts among the units of a program, in order. -/
def routineParts (units : List SemanticUnit) : List RoutinePart :=
  units.filterMap SemanticUnit.routinePart?

/-- Whether the finding says that a head is never followed by its `returns`. -/
def Finding.isMissingReturns : Finding → Bool
  | .missingReturns _ => true
  | _ => false

@[simp] theorem routineParts_append (first second : List SemanticUnit) :
    routineParts (first ++ second) = routineParts first ++ routineParts second :=
  List.filterMap_append

theorem routineParts_eq_nil {units : List SemanticUnit}
    (others : ∀ unit ∈ units, unit.routinePart? = none) : routineParts units = [] :=
  List.filterMap_eq_nil_iff.mpr others

theorem SemanticUnit.routinePart?_of_isSimple {unit : SemanticUnit}
    (simple : unit.isSimple = true) : unit.routinePart? = none := by
  unfold routinePart?
  split
  case h_4 => rfl
  all_goals cases simple

theorem Opener.routineParts_units (opener : Opener) : routineParts opener.units = [] := by
  cases opener <;> rfl

theorem Scope.routinePart?_endUnit {scope : Scope} {unit : SemanticUnit}
    (ends : scope.endUnit? = some unit) : unit.routinePart? = none := by
  cases scope <;> cases ends <;> rfl

theorem Reading.routineParts_punctuate (reading : Reading) (kind : Sentence.Kind) :
    routineParts (reading.punctuate kind).units = routineParts reading.units :=
  reading.filterMap_punctuate rfl Scope.routinePart?_endUnit kind

namespace RoutinePart

/-- How many heads give way to another one before their return type comes. -/
def superseded (parts : List RoutinePart) : Nat :=
  (parts.zip parts.tail).count (.head, .head)

/-- Parts that are read in order. A head is awaited from then on, also in the place of another one;
a return type needs an awaited head. -/
inductive Resolves : Bool → List RoutinePart → Bool → Prop where
  | nil {awaited : Bool} : Resolves awaited [] awaited
  | head {before after : Bool} {rest : List RoutinePart} : Resolves true rest after →
      Resolves before (.head :: rest) after
  | returnType {after : Bool} {rest : List RoutinePart} : Resolves false rest after →
      Resolves true (.returnType :: rest) after

/-- The head that is awaited. -/
def ofAwaited (awaited : Bool) : List RoutinePart :=
  if awaited then [.head] else []

theorem superseded_cons_cons (first second : RoutinePart) (rest : List RoutinePart) :
    superseded (first :: second :: rest) =
      superseded (second :: rest) + if (first, second) = (.head, .head) then 1 else 0 := by
  simp [superseded, List.count_cons]

/-- Nothing else comes between a return type and the parts behind it. -/
theorem superseded_returnType (rest : List RoutinePart) :
    superseded (.returnType :: rest) = superseded rest := by
  cases rest with
  | nil => rfl
  | cons second rest => simp [superseded_cons_cons]

theorem superseded_eq_zero_iff (parts : List RoutinePart) :
    superseded parts = 0 ↔ parts.IsChain fun part next => part = .head → next = .returnType := by
  induction parts with
  | nil => simp [superseded]
  | cons first rest ih =>
    cases rest with
    | nil => simp [superseded]
    | cons second rest =>
      rw [superseded_cons_cons, List.isChain_cons_cons, Nat.add_eq_zero_iff, ih, and_comm]
      cases first <;> cases second <;> simp

namespace Resolves

theorem append {before between after : Bool} {first second : List RoutinePart}
    (early : Resolves before first between) (late : Resolves between second after) :
    Resolves before (first ++ second) after := by
  induction early with
  | nil => exact late
  | head _ ih => exact .head (ih late)
  | returnType _ ih => exact .returnType (ih late)

/-- Every head has its return type, or has given way to another head, or is awaited still. -/
theorem accounts {before after : Bool} {parts : List RoutinePart}
    (resolves : Resolves before parts after) :
    before.toNat + parts.count .head =
      parts.count .returnType + superseded (ofAwaited before ++ parts) + after.toNat := by
  induction resolves with
  | @nil awaited => cases awaited <;> rfl
  | @head before after rest _ ih =>
    have heads : (RoutinePart.head :: rest).count .head = rest.count .head + 1 := List.count_cons_self
    have returns : (RoutinePart.head :: rest).count .returnType = rest.count .returnType :=
      List.count_cons_of_ne (by decide)
    -- An awaited head gives way to this one.
    have pairs : superseded (ofAwaited before ++ .head :: rest) =
        superseded (.head :: rest) + before.toNat := by
      cases before with
      | false => rfl
      | true => exact superseded_cons_cons ..
    have ih : 1 + rest.count .head =
      rest.count .returnType + superseded (.head :: rest) + after.toNat := ih
    omega
  | @returnType after rest _ ih =>
    have heads : (RoutinePart.returnType :: rest).count .head = rest.count .head :=
      List.count_cons_of_ne (by decide)
    have returns : (RoutinePart.returnType :: rest).count .returnType =
        rest.count .returnType + 1 := List.count_cons_self
    have pairs : superseded (ofAwaited true ++ .returnType :: rest) = superseded rest :=
      (superseded_cons_cons ..).trans (superseded_returnType rest)
    have ih : 0 + rest.count .head = rest.count .returnType + superseded rest + after.toNat := ih
    have awaited : true.toNat = 1 := rfl
    omega

end Resolves

end RoutinePart

namespace ScopeState

variable {options : Options} {state : ScopeState} {sentence : Sentence} {reading : Reading}

theorem perform_resolves {s : Situation} {move : Move} (means : s.Means move)
    (performed : s.state.perform options s.sentence move = .ok reading) :
    RoutinePart.Resolves s.state.awaiting.isSome (routineParts reading.units)
      reading.state.awaiting.isSome := by
  cases performs_of_perform performed with
  | emit =>
    cases means with
    | emit simple =>
      have none_left := routineParts_eq_nil fun unit member =>
        SemanticUnit.routinePart?_of_isSimple (simple unit member)
      rw [none_left]
      exact .nil
  | opens =>
    rw [Opener.routineParts_units]
    exact .nil
  | closes closing | repairs closing =>
    obtain rfl | ⟨rfl, _⟩ := closing?_eq_some closing <;> cases closing <;> exact .nil
  | elif | strayElif | sharedCase | newCase | reassigns | assigns | blank | degrades => exact .nil
  | @announces routine => cases routine <;> exact .head .nil
  | startsBody =>
    cases means with
    | @startsBody awaited _ _ awaits =>
      rw [awaits]
      cases awaited.routine <;> exact .returnType .nil

theorem read_resolves (read : state.read options sentence = .ok reading) :
    RoutinePart.Resolves state.awaiting.isSome (routineParts reading.units)
      reading.state.awaiting.isSome := by
  obtain ⟨performed, moved, rfl⟩ := read_eq_ok read
  rw [performed.routineParts_punctuate, performed.punctuate_awaiting,
    ← state.enter_awaiting sentence]
  exact perform_resolves (Situation.move_means (state.situation sentence)) moved

/-- Missing `returns` are left to the end of the program. -/
theorem Performs.notices {move : Move} (performs : Performs options state sentence move reading) :
    ∀ notice ∈ reading.notices, notice.finding.isMissingReturns = false := by
  cases performs <;> simp [Finding.isMissingReturns]

theorem read_notices (read : state.read options sentence = .ok reading) :
    ∀ notice ∈ reading.notices, notice.finding.isMissingReturns = false := by
  obtain ⟨performed, moved, rfl⟩ := read_eq_ok read
  rw [performed.punctuate_notices]
  exact (performs_of_perform moved).notices

end ScopeState

theorem Reads.resolves {options : Options} {state : ScopeState} {sentences : List Sentence}
    {reading : Reading} (run : Reads options state sentences reading) :
    RoutinePart.Resolves state.awaiting.isSome (routineParts reading.units)
      reading.state.awaiting.isSome := by
  induction run with
  | nil => exact .nil
  | cons read _ ih =>
    rw [Reading.followedBy, routineParts_append]
    exact (ScopeState.read_resolves read).append ih

theorem Reads.notices {options : Options} {state : ScopeState} {sentences : List Sentence}
    {reading : Reading} (run : Reads options state sentences reading) :
    ∀ notice ∈ reading.notices, notice.finding.isMissingReturns = false := by
  intro notice member
  induction run with
  | nil => cases member
  | cons read _ ih =>
    rcases List.mem_append.mp member with early | late
    · exact ScopeState.read_notices read notice early
    · exact ih late

theorem Assembler.countP_endNotices (state : ScopeState) :
    (endNotices state).countP (·.finding.isMissingReturns) = state.awaiting.isSome.toNat := by
  unfold endNotices
  dsimp only
  rw [List.countP_append]
  have scopes : (if state.nesting.scopes.isEmpty then []
      else [⟨.openScopes state.nesting.scopes, none⟩] : List Notice).countP
        (·.finding.isMissingReturns) = 0 := by
    split <;> rfl
  rw [scopes]
  cases state.awaiting <;> rfl

/-- Every head is followed by its return type, or reported at the end, or superseded: one that is
followed by the next head is neither. So all heads are accounted for exactly if none is superseded.
-/
theorem heads_resolved_or_superseded {options : Options} {sentences : List Sentence}
    {assembled : Assembled} (accepted : assemble options sentences = .ok assembled) :
    let parts := routineParts assembled.units
    let reported := assembled.notices.countP (·.finding.isMissingReturns)
    parts.count .head = parts.count .returnType + reported + RoutinePart.superseded parts ∧
      (parts.count .head = parts.count .returnType + reported ↔
        parts.IsChain fun part next => part = .head → next = .returnType) := by
  obtain ⟨reading, run, rfl⟩ := assemble_eq_ok_iff.mp accepted
  dsimp only
  have accounts : 0 + (routineParts reading.units).count .head =
      (routineParts reading.units).count .returnType
        + RoutinePart.superseded (routineParts reading.units)
        + reading.state.awaiting.isSome.toNat := run.resolves.accounts
  have quiet : reading.notices.countP (·.finding.isMissingReturns) = 0 := by
    rw [List.countP_eq_zero]
    intro notice member
    simp [run.notices notice member]
  rw [List.countP_append, quiet, Assembler.countP_endNotices,
    ← RoutinePart.superseded_eq_zero_iff]
  omega

/-- The first of three heads gives way to the second, and the last is reported. -/
theorem superseded_head_accounted :
    ∃ assembled, assemble {} [⟨.opening, "function a", default⟩, ⟨.opening, "function b", default⟩,
        ⟨.opening, "returns x", default⟩, ⟨.opening, "function c", default⟩] = .ok assembled ∧
      let parts := routineParts assembled.units
      parts = [.head, .head, .returnType, .head] ∧
        assembled.notices.countP (·.finding.isMissingReturns) = 1 ∧
        parts.count .head = parts.count .returnType + 1 + RoutinePart.superseded parts := by
  have accepted : assemble {} [⟨.opening, "function a", default⟩,
      ⟨.opening, "function b", default⟩, ⟨.opening, "returns x", default⟩,
      ⟨.opening, "function c", default⟩] = .ok
        ⟨[.functionHead "a", .functionHead "b", .functionReturnType "x", .functionBodyStart,
            .functionHead "c"],
          [⟨.missingReturns .function, some default⟩, ⟨.openScopes [.functionBody], none⟩],
          [.functionBody]⟩ := by
    decide
  exact ⟨_, accepted, rfl, rfl, (heads_resolved_or_superseded accepted).1⟩

/-- A head in front of another one has no return type and is not reported either. -/
theorem superseded_head_unreported :
    ∃ assembled, assemble {} [⟨.opening, "function a", default⟩, ⟨.opening, "function b", default⟩,
        ⟨.opening, "returns x", default⟩, ⟨.closing, "end fn", default⟩] = .ok assembled ∧
      (routineParts assembled.units).count .head = 2 ∧
      (routineParts assembled.units).count .returnType = 1 ∧ assembled.notices = [] := by
  refine ⟨⟨[.functionHead "a", .functionHead "b", .functionReturnType "x", .functionBodyStart,
    .endMarker .functionBody], [], []⟩, ?_, rfl, rfl, rfl⟩
  decide

/-- Whether `inner` may lie directly inside `outer`, as far as methods are concerned. Their bodies
belong into classes and structs. -/
def Scope.Houses (outer inner : Scope) : Prop :=
  inner = .methodBody → outer = .classBody ∨ outer = .structBody

instance : DecidableRel Scope.Houses := fun outer inner =>
  inferInstanceAs (Decidable (inner = .methodBody → outer = .classBody ∨ outer = .structBody))

/-- Whether a sentence starts the body of a method with no class or struct directly around it. -/
def ScopeState.Strays (state : ScopeState) (sentence : Sentence) : Prop :=
  sentence.kind = .opening ∧ sentence.head = "returns" ∧ sentence.body ≠ "" ∧
    state.awaiting.map AwaitedReturns.routine = some .method ∧
    ¬ state.nesting.current.Houses .methodBody

instance : DecidableRel ScopeState.Strays := fun _ _ =>
  inferInstanceAs (Decidable (_ ∧ _ ∧ _ ∧ _ ∧ _))

namespace Scope

variable {outer inner : Scope}

theorem houses_of_ne (other : inner ≠ .methodBody) : outer.Houses inner :=
  fun same => absurd same other

theorem houses_body (houses : outer.Houses inner) : outer.Houses inner.body := by
  intro same
  apply houses
  revert same
  cases inner <;> decide

end Scope

namespace ScopeState

variable {options : Options} {state : ScopeState} {sentence : Sentence} {reading : Reading}

theorem houses_enter (sentence : Sentence)
    (shape : state.nesting.toList.IsChain Scope.Houses) :
    (state.enter sentence).nesting.toList.IsChain Scope.Houses := by
  unfold enter
  split
  · exact Nesting.isChain_enterBody Scope.houses_body shape
  · exact shape

/-- Classes and structs have no head of their own, so entering a body leads neither into nor out
of one. -/
theorem houses_current_enter (state : ScopeState) (sentence : Sentence) :
    (state.enter sentence).nesting.current.Houses .methodBody ↔
      state.nesting.current.Houses .methodBody := by
  unfold enter
  split
  · rw [Nesting.current_enterBody]
    cases state.nesting.current <;> decide
  · rfl

theorem perform_houses (shape : state.nesting.toList.IsChain Scope.Houses)
    (kept : ¬ state.Strays sentence)
    (performed : (state.enter sentence).perform options sentence (state.situation sentence).move
      = .ok reading) :
    reading.state.nesting.toList.IsChain Scope.Houses := by
  have entered := state.houses_enter sentence shape
  have means := (state.situation sentence).move_means
  generalize (state.situation sentence).move = move at performed means
  have pushed {scope : Scope} (houses : (state.enter sentence).nesting.current.Houses scope) :
      ((state.enter sentence).nesting.push scope).toList.IsChain Scope.Houses :=
    Nesting.isChain_push.mpr ⟨houses, entered⟩
  cases performs_of_perform performed with
  | emit | elif | sharedCase | announces | reassigns | blank | degrades => exact entered
  | closes | repairs => exact Nesting.isChain_pop entered
  | newCase | strayElif | assigns => exact pushed (Scope.houses_of_ne nofun)
  | @opens opener => exact pushed (Scope.houses_of_ne (by cases opener <;> exact nofun))
  | startsBody =>
    cases means with
    | @startsBody awaited _ colon awaits head body =>
      have awaits : state.awaiting = some awaited := state.enter_awaiting sentence ▸ awaits
      apply pushed
      cases routine : awaited.routine with
      | function => exact Scope.houses_of_ne nofun
      | method =>
        obtain ⟨rfl, worded⟩ := Situation.body?_eq_some_iff.mp body
        have method : state.awaiting.map AwaitedReturns.routine = some .method := by
          rw [awaits, Option.map_some, routine]
        apply (state.houses_current_enter sentence).mpr
        by_contra outside
        exact kept ⟨colon, head, worded, method, outside⟩

theorem read_houses (shape : state.nesting.toList.IsChain Scope.Houses)
    (kept : ¬ state.Strays sentence) (read : state.read options sentence = .ok reading) :
    reading.state.nesting.toList.IsChain Scope.Houses := by
  obtain ⟨performed, moved, rfl⟩ := read_eq_ok read
  exact Reading.isChain_punctuate _ (perform_houses shape kept moved)

/-- Nothing stops a body that strays. -/
theorem Strays.read (strays : state.Strays sentence) (options : Options) :
    ∃ reading, state.read options sentence = .ok reading ∧
      reading.state.nesting = (state.enter sentence).nesting.push .methodBody := by
  obtain ⟨colon, head, worded, awaits, -⟩ := strays
  obtain ⟨awaited, awaits, method⟩ := Option.map_eq_some_iff.mp awaits
  have starts := (state.situation sentence).move_of_returns colon head
    (Situation.body?_eq_some_iff.mpr ⟨rfl, worded⟩) ((state.enter_awaiting sentence).trans awaits)
  refine ⟨{ units := Routine.method.bodyUnits sentence.body
            state := ⟨(state.enter sentence).nesting.push .methodBody, none⟩ }, ?_, rfl⟩
  rw [read_eq, starts, method, colon]
  rfl

end ScopeState

/-- From well housed methods, one call leads to a body that is not exactly if it strays. -/
theorem Assembler.add_houses_iff (assembler : Assembler) (index : Nat) (sentence : Sentence)
    (shape : assembler.state.nesting.toList.IsChain Scope.Houses) :
    (assembler.add index sentence).1.state.nesting.toList.IsChain Scope.Houses ↔
      ¬ assembler.state.Strays sentence := by
  constructor
  · intro housed strays
    obtain ⟨reading, read, pushed⟩ := strays.read assembler.options
    have same : (assembler.add index sentence).1.state.nesting = reading.state.nesting := by
      rw [assembler.add_of_read index read]
      rfl
    rw [same, pushed, Nesting.isChain_push] at housed
    exact strays.2.2.2.2 ((assembler.state.houses_current_enter sentence).mp housed.1)
  · intro kept
    cases answer : assembler.state.read assembler.options sentence with
    | ok reading =>
      rw [assembler.add_of_read index answer]
      exact ScopeState.read_houses shape kept answer
    | error refusal =>
      rw [assembler.add_of_refusal index answer]
      exact ScopeState.houses_enter sentence shape

/-- The bodies of methods lie directly in a class or a struct in every state that is reached,
exactly as long as no body starts elsewhere. The head does not see to that: its class may have ended
before the body starts. -/
theorem methods_housed_iff (options : Options) (calls : List (Nat × Sentence)) :
    let reached := fun calls : List (Nat × Sentence) =>
      (({ options } : Assembler).addEach calls).state
    (∀ before, before <+: calls → (reached before).nesting.toList.IsChain Scope.Houses) ↔
      ∀ before index sentence, before ++ [(index, sentence)] <+: calls →
        ¬ (reached before).Strays sentence := by
  dsimp only
  constructor
  · intro housed before index sentence within
    have next := housed _ within
    rw [Assembler.addEach_concat] at next
    have earlier := housed before ((List.prefix_append _ _).trans within)
    exact (Assembler.add_houses_iff _ index sentence earlier).mp next
  · intro kept before
    induction before using List.reverseRecOn with
    | nil =>
      intro _
      exact .singleton _
    | append_singleton before call ih =>
      intro within
      obtain ⟨index, sentence⟩ := call
      rw [Assembler.addEach_concat]
      have earlier := ih ((List.prefix_append _ _).trans within)
      exact (Assembler.add_houses_iff _ index sentence earlier).mpr (kept _ _ _ within)

/-- The class of a method ends before its body starts, and the body lies outside of it. -/
theorem method_body_outside_class :
    ¬ (({} : Assembler).addEach [(0, ⟨.opening, "class C", default⟩),
        (1, ⟨.opening, "method m", default⟩), (2, ⟨.closing, "end class", default⟩),
        (3, ⟨.opening, "returns x", default⟩)]).state.nesting.toList.IsChain Scope.Houses := by
  decide

end Clausal
