import Clausal.Proofs.Brackets
import Clausal.Proofs.Depth
import Clausal.Proofs.Stacking

/-! What a semicolon ends.

Apart from end markers, a sentence in front of a semicolon stands for one unit, and its own effect
on the scopes is at most a call. The semicolon then leaves assignments, one scope that ends with its
statement, and the assignments whose value that scope was. How many that can be depends on what lies
on top of what, so a bound holds only where the nesting was built up by sentences.
-/

set_option autoImplicit false

namespace Clausal

/-- Whether a sentence calls a function or constructs a value, and names which. -/
def Sentence.isCall (sentence : Sentence) : Bool :=
  (sentence.head == "call" || sentence.head == "new") && !sentence.body.isEmpty

namespace Nesting

/-- The scopes that the end of a statement leaves, innermost first, and those that stay open. A run
of assignments is left as far as it reaches. -/
inductive EndsStatement : Nesting → List Scope → Nesting → Prop where
  | values {count : Nat} {left : Nesting} : left.current ≠ .assignment →
      left.current.endsWithStatement = false →
      EndsStatement ⟨List.replicate count .assignment ++ left.scopes⟩
        (List.replicate count .assignment) left
  | construct {count above : Nat} {scope : Scope} {left : Nesting} :
      scope.endsWithStatement = true → left.current ≠ .assignment →
      EndsStatement
        ⟨List.replicate above .assignment ++
          scope :: (List.replicate count .assignment ++ left.scopes)⟩
        (List.replicate above .assignment ++ scope :: List.replicate count .assignment) left

/-- The scopes that the semicolon of a sentence finds. A call stands on top of those before it. -/
def withCall (nesting : Nesting) (sentence : Sentence) : Nesting :=
  if sentence.isCall then nesting.push .functionCall else nesting

variable {nesting left : Nesting} {removed : List Scope}

theorem leaveAssignments_eq (nesting : Nesting) :
    ∃ count left, nesting.scopes = List.replicate count .assignment ++ left.scopes ∧
      nesting.leaveAssignments = (List.replicate count .assignment, left) ∧
      left.current ≠ .assignment := by
  obtain ⟨scopes⟩ := nesting
  induction scopes with
  | nil => exact ⟨0, ⟨[]⟩, rfl, rfl, by decide⟩
  | cons scope outer ih =>
    by_cases value : scope = .assignment
    · obtain ⟨count, left, whole, leaves, stops⟩ := ih
      refine ⟨count + 1, left, ?_, ?_, stops⟩
      · rw [value, List.replicate_succ, List.cons_append, ← whole]
      · simp only [leaveAssignments, Prod.mk.injEq] at leaves
        simp [leaveAssignments, value, leaves, List.replicate_succ]
    · exact ⟨0, ⟨scope :: outer⟩, rfl, by simp [leaveAssignments, value], value⟩

theorem endsStatement_splitStatement (nesting : Nesting) :
    nesting.EndsStatement nesting.splitStatement.1 nesting.splitStatement.2 := by
  obtain ⟨above, rest, whole, leaves, stops⟩ := nesting.leaveAssignments_eq
  have same : nesting = ⟨List.replicate above .assignment ++ rest.scopes⟩ :=
    congrArg Nesting.mk whole
  rw [splitStatement_eq, leaves, same]
  dsimp only
  split
  · next ends =>
    obtain ⟨scopes⟩ := rest
    cases scopes with
    | nil => cases ends
    | cons scope outer =>
      obtain ⟨count, left, below, leaves, halts⟩ := leaveAssignments_eq ⟨outer⟩
      have popped : (⟨scope :: outer⟩ : Nesting).pop = ⟨outer⟩ := rfl
      rw [popped, leaves]
      obtain rfl : outer = _ := below
      exact .construct ends halts
  · next stays => exact .values stops (by simpa using stays)

theorem EndsStatement.current (ends : nesting.EndsStatement removed left) :
    left.current ≠ .assignment := by
  cases ends with
  | values stops => exact stops
  | construct _ stops => exact stops

/-- Every scope that a semicolon closes has a unit that shows its end. -/
theorem map_endUnit? (nesting : Nesting) :
    (nesting.splitStatement.1.filterMap Scope.endUnit?).map some =
      nesting.splitStatement.1.map Scope.endUnit? := by
  have shown : ∀ unit? ∈ nesting.splitStatement.1.map Scope.endUnit?, unit?.isSome = true := by
    intro unit? member
    obtain ⟨scope, closed, rfl⟩ := List.mem_map.mp member
    rcases mem_splitStatement closed with rfl | statement
    · rfl
    · exact Scope.endUnit?_isSome statement
  rw [List.map_filterMap_some_eq_filter_map_isSome, List.filter_eq_self.mpr shown]

theorem endUnits_eq_nil_iff (nesting : Nesting) :
    nesting.splitStatement.1.filterMap Scope.endUnit? = [] ↔ nesting.splitStatement.1 = [] := by
  rw [← List.map_eq_nil_iff (f := some), map_endUnit?, List.map_eq_nil_iff]

theorem withCall_of_call (nesting : Nesting) {sentence : Sentence}
    (call : sentence.isCall = true) : nesting.withCall sentence = nesting.push .functionCall :=
  if_pos call

theorem withCall_of_plain (nesting : Nesting) {sentence : Sentence}
    (plain : sentence.isCall = false) : nesting.withCall sentence = nesting :=
  if_neg (by simp [plain])

theorem splitStatement_push_call (nesting : Nesting) :
    (nesting.push .functionCall).splitStatement =
      (.functionCall :: nesting.leaveAssignments.1, nesting.leaveAssignments.2) := rfl

/-- What a call opens, its own semicolon closes. -/
theorem depth_splitStatement_withCall (nesting : Nesting) (sentence : Sentence) :
    (nesting.withCall sentence).splitStatement.2.depth ≤ nesting.depth := by
  have depths := (nesting.withCall sentence).depth_splitStatement
  cases call : sentence.isCall with
  | false =>
    rw [withCall_of_plain nesting call] at depths ⊢
    omega
  | true =>
    rw [withCall_of_call nesting call] at depths ⊢
    simp only [depth_push, splitStatement_push_call, List.length_cons] at depths ⊢
    omega

/-- Where no two assignments follow one another, a semicolon meets one of them at most on either
side of the scope that ends with its statement. -/
theorem WellNested.length_splitStatement (shape : nesting.WellNested) (sentence : Sentence) :
    (nesting.withCall sentence).splitStatement.1.length ≤ 3 := by
  have first := shape.leaves_at_most_one
  cases call : sentence.isCall with
  | true =>
    rw [withCall_of_call nesting call, splitStatement_push_call, List.length_cons]
    omega
  | false =>
    have second := shape.leaveAssignments.pop.leaves_at_most_one
    rw [withCall_of_plain nesting call, splitStatement_eq]
    dsimp only
    split
    · rw [List.length_append, List.length_cons]
      omega
    · exact first.trans (by decide)

end Nesting

namespace Situation

/-- The moves of a sentence in front of a semicolon. Each leaves one unit, unless no rule knows the
sentence. -/
inductive Concludes (s : Situation) : Move → Prop where
  | shows {shown : SemanticUnit} : s.sentence.isCall = false → Concludes s (.emit [shown])
  | calls {opener : Opener} {shown : SemanticUnit} : s.sentence.isCall = true →
      opener.scope = .functionCall → opener.units = [shown] → Concludes s (.opens opener)
  | marks {requested : Scope} : Concludes s (.closes requested)
  | unknown : s.sentence.isCall = false → Concludes s .unknown

variable {s : Situation} {move : Move}

theorem isCall_iff : s.sentence.isCall = true ↔
    (s.head = "call" ∨ s.head = "new") ∧ ∃ body, s.body? = some body := by
  simp [Sentence.isCall, body?_eq_some_iff, head]

theorem callRule_of_isCall (semicolon : s.kind = .closing) (call : s.sentence.isCall = true) :
    ∃ opener shown, callRule s = some (.opens opener) ∧ opener.scope = .functionCall ∧
      opener.units = [shown] := by
  obtain ⟨named | named, body, found⟩ := isCall_iff.mp call
  · exact ⟨.call body, _, by simp [callRule, semicolon, named, found], rfl, rfl⟩
  · exact ⟨.construction body, _, by simp [callRule, semicolon, named, found], rfl, rfl⟩

theorem callRule_eq_none (plain : s.sentence.isCall = false) : callRule s = none := by
  unfold callRule
  split
  · cases found : s.body? with
    | none => rfl
    | some body =>
      have unnamed : ¬ (s.head = "call" ∨ s.head = "new") := by
        intro named
        rw [isCall_iff.mpr ⟨named, body, found⟩] at plain
        cases plain
      rw [not_or] at unnamed
      simp [unnamed]
  · rfl

/-- A call is no keyword, since its name follows. -/
theorem closingRule_of_isCall (call : s.sentence.isCall = true) : closingRule s = none := by
  obtain ⟨named, body, found⟩ := isCall_iff.mp call
  have spaced := s.spaced_of_body? found
  unfold closingRule
  split
  · split
    case h_4 => rcases named with named | named <;> simp [found, named]
    all_goals
      next word =>
      rw [word] at spaced
      exact absurd spaced (by decide)
  · rfl

theorem closingRule_emits (chosen : closingRule s = some move) :
    ∃ shown, move = .emit [shown] := by
  unfold closingRule at chosen
  split at chosen
  case isFalse => cases chosen
  split at chosen
  case h_4 =>
    obtain ⟨_, _, named⟩ := Option.bind_eq_some_iff.mp chosen
    split at named
    case h_6 => cases named
    all_goals cases named; exact ⟨_, rfl⟩
  all_goals cases chosen; exact ⟨_, rfl⟩

theorem move_of_isCall (semicolon : s.kind = .closing) (call : s.sentence.isCall = true) :
    callRule s = some s.move := by
  obtain ⟨_, body, found⟩ := isCall_iff.mp call
  have unread := Literal.read?_of_spaced (s.spaced_of_body? found)
  obtain ⟨opener, _, chosen, _, _⟩ := callRule_of_isCall semicolon call
  simp [Situation.move, rules, contentRule, literalRule, accessorRule, compoundRule, operatorRule,
    closingRule_of_isCall call, openingRule, enumeratingRule, assignmentRule, declarationRule,
    semicolon, unread, chosen]

theorem rule_concludes (semicolon : s.kind = .closing) (plain : s.sentence.isCall = false)
    {rule : Rule} (member : rule ∈ rules) (chosen : rule s = some move) : s.Concludes move := by
  have shows (emits : ∃ shown, move = .emit [shown]) : s.Concludes move := by
    obtain ⟨shown, rfl⟩ := emits
    exact .shows plain
  simp only [rules, List.mem_cons, List.not_mem_nil, or_false] at member
  rcases member with rfl | rfl | rfl | rfl | rfl | rfl | rfl | rfl | rfl | rfl | rfl | rfl | rfl |
    rfl
  · simp [contentRule, semicolon] at chosen
  · simp only [literalRule, semicolon, Option.map_eq_some_iff] at chosen
    obtain ⟨literal, _, rfl⟩ := chosen
    exact .shows plain
  · simp [accessorRule, semicolon] at chosen
  · simp [compoundRule, semicolon] at chosen
  · simp [operatorRule, semicolon] at chosen
  · exact shows (closingRule_emits chosen)
  · simp [openingRule, semicolon] at chosen
  · simp [enumeratingRule, semicolon] at chosen
  · simp [assignmentRule, semicolon] at chosen
  · simp [declarationRule, semicolon] at chosen
  · rw [callRule_eq_none plain] at chosen
    cases chosen
  · simp only [endMarkerRule, Option.ite_none_right_eq_some, Option.map_eq_some_iff] at chosen
    obtain ⟨_, requested, _, rfl⟩ := chosen
    exact .marks
  · obtain ⟨body, _, named⟩ := Option.bind_eq_some_iff.mp chosen
    split at named
    · cases named
    · cases named
      exact .shows plain
  · simp only [referenceRule, Option.ite_none_left_eq_some] at chosen
    cases chosen.2
    exact .shows plain

theorem move_concludes (s : Situation) (semicolon : s.kind = .closing) : s.Concludes s.move := by
  cases call : s.sentence.isCall with
  | true =>
    obtain ⟨opener, shown, chosen, scope, units⟩ := callRule_of_isCall semicolon call
    obtain same := (move_of_isCall semicolon call).symm.trans chosen
    rw [Option.some.inj same]
    exact .calls call scope units
  | false =>
    unfold Situation.move
    cases found : rules.findSome? fun rule => rule s with
    | none => exact .unknown call
    | some move =>
      obtain ⟨rule, member, chosen⟩ := List.exists_of_findSome?_eq_some found
      exact rule_concludes semicolon call member chosen

theorem move_of_blank (semicolon : s.kind = .closing) (blank : s.text = "") :
    s.move = .unknown := by
  have spaceless : ' ' ∉ s.text.toList := by simp [blank]
  have head : s.head = "" := (Sentence.head_of_spaceless spaceless).trans blank
  have body : s.body? = none := by
    have empty : s.body = "" := Sentence.body_of_spaceless spaceless
    simp [body?, empty]
  simp [Situation.move, rules, contentRule, literalRule, accessorRule, compoundRule, operatorRule,
    closingRule, openingRule, enumeratingRule, assignmentRule, declarationRule, callRule,
    endMarkerRule, twoWordRule, referenceRule, semicolon, blank, head, body]

end Situation

namespace ScopeState

variable {options : Options} {state : ScopeState} {sentence : Sentence} {performed : Reading}

/-- In front of a semicolon a sentence stands for one unit, unless it is empty, and leaves the
scopes alone, unless it is a call. -/
theorem perform_semicolon (semicolon : sentence.kind = .closing)
    (moved : (state.enter sentence).perform options sentence (state.situation sentence).move
      = .ok performed) (unmarked : performed.isEndMarker = false) :
    performed.state.nesting = state.nesting.withCall sentence ∧
      ∃ recognized : Option SemanticUnit, performed.units = recognized.toList ∧
        (recognized = none ↔ sentence.text = "") := by
  have concludes := (state.situation sentence).move_concludes semicolon
  have blank := @Situation.move_of_blank (state.situation sentence) semicolon
  have entered : state.enter sentence = state := by
    apply enter_of_ne_opening
    rw [semicolon]
    decide
  rw [entered] at moved
  generalize chosen : (state.situation sentence).move = move at moved concludes blank
  -- An empty sentence has no meaning, so whatever means something has a text.
  have worded (known : move ≠ .unknown) : sentence.text ≠ "" := fun empty => known (blank empty)
  cases concludes with
  | shows plain =>
    cases moved
    exact ⟨(Nesting.withCall_of_plain _ plain).symm, some _, rfl, by simp [worded nofun]⟩
  | @calls opener shown call scope units =>
    cases moved
    refine ⟨?_, some shown, units, by simp [worded nofun]⟩
    exact (congrArg state.nesting.push scope).trans (Nesting.withCall_of_call _ call).symm
  | marks =>
    cases performs_of_perform moved with
    | closes closing | repairs closing =>
      cases closing
      cases unmarked
  | unknown plain =>
    have same := Nesting.withCall_of_plain state.nesting plain
    cases performs_of_perform moved with
    | closes closing | repairs closing => cases closing
    | blank empty => exact ⟨same.symm, none, rfl, by simpa using empty⟩
    | degrades written => exact ⟨same.symm, some _, rfl, by simpa using written⟩

end ScopeState

/-- What a semicolon adds to a reading, unless it belongs to an end marker. -/
theorem ScopeState.read_semicolon {options : Options} {state : ScopeState} {sentence : Sentence}
    {reading : Reading} (read : state.read options sentence = .ok reading)
    (semicolon : sentence.kind = .closing) (unmarked : ∀ scope, .endMarker scope ∉ reading.units) :
    ∃ recognized : Option SemanticUnit, (recognized = none ↔ sentence.text = "") ∧
      let (removed, left) := (state.nesting.withCall sentence).splitStatement
      reading.state.nesting = left ∧
        reading.units = recognized.toList ++
          if removed = [] then [.closing] else removed.filterMap Scope.endUnit? := by
  obtain ⟨performed, moved, rfl⟩ := read_eq_ok read
  rw [semicolon] at unmarked ⊢
  have plain : performed.isEndMarker = false := by
    rw [Bool.eq_false_iff]
    intro marked
    rw [Reading.punctuate, if_pos marked] at unmarked
    unfold Reading.isEndMarker at marked
    split at marked
    · next scope rest shown => exact unmarked scope (by simp [shown])
    · cases marked
  obtain ⟨nesting, recognized, units, blank⟩ := perform_semicolon semicolon moved plain
  refine ⟨recognized, blank, ?_⟩
  simp only [Reading.punctuate, plain, Bool.false_eq_true, if_false]
  rw [Reading.endStatement_units, Reading.endStatement_nesting, nesting, units]
  simp only [List.isEmpty_iff, Nesting.endUnits_eq_nil_iff, and_self]

/-- Unless a sentence is an end marker, its semicolon closes the assignments on top, at most one
scope under them that ends with its statement, and the assignments that this one was the value of.
A call counts as open when its semicolon is read. Behind the unit of the sentence, which only an
empty sentence lacks, stand the ends of the closed scopes, or the semicolon itself if there are
none. Nothing is opened for good, no assignment is left on top, and in a nesting that sentences
built up at most three scopes are closed. -/
theorem semicolon_ends_statement {assembler next : Assembler} {index : Nat} {sentence : Sentence}
    {units : List SemanticUnit} (added : assembler.add index sentence = (next, .ok units))
    (semicolon : sentence.kind = .closing) (unmarked : ∀ scope, .endMarker scope ∉ units) :
    ∃ (recognized : Option SemanticUnit) (removed : List Scope) (ends : List SemanticUnit),
      (assembler.state.nesting.withCall sentence).EndsStatement removed next.state.nesting ∧
      ends.map some = removed.map Scope.endUnit? ∧
      (recognized = none ↔ sentence.text = "") ∧
      units = recognized.toList ++ (if removed = [] then [.closing] else ends) ∧
      next.units = assembler.units ++ units ∧
      next.state.nesting.depth ≤ assembler.state.nesting.depth ∧
      next.state.nesting.current ≠ .assignment ∧
      ∀ options calls, assembler = ({ options } : Assembler).addEach calls → ends.length ≤ 3 := by
  cases read : assembler.state.read assembler.options sentence with
  | error refusal =>
    rw [assembler.add_of_refusal index read] at added
    cases added
  | ok reading =>
    rw [assembler.add_of_read index read] at added
    cases added
    obtain ⟨recognized, blank, nesting, units⟩ :=
      ScopeState.read_semicolon read semicolon unmarked
    have same : (assembler.extend reading).state.nesting = _ := nesting
    rw [same]
    have ends := (assembler.state.nesting.withCall sentence).endsStatement_splitStatement
    have shown := (assembler.state.nesting.withCall sentence).map_endUnit?
    have depth := assembler.state.nesting.depth_splitStatement_withCall sentence
    refine ⟨recognized, _, _, ends, shown, blank, units, rfl, depth, ends.current, ?_⟩
    intro options calls reached
    have shape : assembler.state.nesting.WellNested := by
      rw [reached]
      exact Assembler.addEach_wellNested options calls
    have count := congrArg List.length shown
    rw [List.length_map, List.length_map] at count
    rw [count]
    exact shape.length_splitStatement sentence

/-- The value of a key in an array that is declared: one semicolon ends all three. -/
theorem declared_array_ends :
    ∃ (assembler next : Assembler) (recognized : Option SemanticUnit) (removed : List Scope)
      (ends : List SemanticUnit),
      assembler = ({} : Assembler).addEach [(0, ⟨.opening, "constant list xs", default⟩),
        (1, ⟨.opening, "array", default⟩), (2, ⟨.assignmentKey, "k", default⟩)] ∧
      assembler.add 3 ⟨.closing, "v", default⟩ =
        (next, .ok [.reference "v", .assignmentEnd, .arrayEnd, .assignmentEnd]) ∧
      Nesting.EndsStatement ⟨[.assignment, .arrayBody, .assignment]⟩ removed next.state.nesting ∧
      [.reference "v", .assignmentEnd, .arrayEnd, .assignmentEnd] =
        recognized.toList ++ (if removed = [] then [.closing] else ends) ∧
      next.state.nesting.depth ≤ 4 ∧ ends.length ≤ 3 := by
  have added : (({} : Assembler).addEach [(0, ⟨.opening, "constant list xs", default⟩),
      (1, ⟨.opening, "array", default⟩), (2, ⟨.assignmentKey, "k", default⟩)]).add 3
        ⟨.closing, "v", default⟩ =
      (_, .ok [.reference "v", .assignmentEnd, .arrayEnd, .assignmentEnd]) := rfl
  obtain ⟨recognized, removed, ends, closed, _, _, units, _, depth, _, bounded⟩ :=
    semicolon_ends_statement added rfl (by simp)
  exact ⟨_, _, recognized, removed, ends, rfl, added, closed, units, depth, bounded _ _ rfl⟩

end Clausal
