import Clausal.Proofs.Performing
import Clausal.Proofs.Moves
import Clausal.Proofs.Reading

/-! Sentences in a command body.

An opening sentence names a command there, unless its text or its head starts another construct. The
rules tell one from the other by the sentence alone, so a `returns` belongs to the constructs even
where no routine awaits it. Such a sentence is left to the rules for words, which make a cluster of
it or do not know it at all.
-/

set_option autoImplicit false

namespace Clausal

/-- Whether a unit is a literal, or the first one of a construct that may stand in a command
body. -/
def SemanticUnit.startsConstruct : SemanticUnit → Bool
  | .boolean _ | .falsy _ | .integer _ | .float _ | .arrayStart | .objectStart => true
  | .ifHead | .elifHead | .elseHead | .ifBodyStart | .whileLoopHead | .whileBodyStart => true
  | .continueKeyword | .returnKeyword | .switchHead _ | .caseHead _ | .defaultCaseHead => true
  | .loopIteratorName _ | .functionTypeDefinition | .functionReturnType _ => true
  | .structHead _ | .classHead _ | .typeDefinitionStart _ => true
  | _ => false

/-- The texts that start a construct by themselves. -/
def constructTexts : List String :=
  ["array", "object", "if", "elif", "else", "then", "while", "do", "continue", "return", "default",
   "function"]

/-- The heads that start a construct with what follows them. -/
def constructHeads : List String :=
  ["take", "returns", "struct", "class", "type"]

/-- Whether an opening sentence in a command body starts something other than a command. -/
def Sentence.StartsConstruct (sentence : Sentence) : Prop :=
  Literal.read? sentence.text ≠ none ∨ sentence.text ∈ constructTexts ∨
    sentence.head = "switch" ∨ sentence.head = "case" ∨
    (sentence.head ∈ constructHeads ∧ sentence.body ≠ "")

instance (sentence : Sentence) : Decidable sentence.StartsConstruct :=
  inferInstanceAs (Decidable (_ ∨ _ ∨ _ ∨ _ ∨ _))

/-- Whether the sentence is a `returns` that no routine awaits. -/
def ScopeState.Unawaited (state : ScopeState) (sentence : Sentence) : Prop :=
  sentence.head = "returns" ∧ sentence.body ≠ "" ∧ state.awaiting = none

/-- The first unit of a move, where the move alone tells it. -/
def Move.first? : Move → Option SemanticUnit
  | .emit units => units.head?
  | .opens opener => opener.units.head?
  | .elif => some .elifHead
  | .caseHead value => some (.caseHead value)
  | .announces routine name => some (routine.headUnit name)
  | .startsBody routine returnType => (routine.bodyUnits returnType).head?
  | _ => none

theorem ScopeState.Performs.head?_units {options : Options} {state : ScopeState}
    {sentence : Sentence} {move : Move} {reading : Reading} {unit : SemanticUnit}
    (performs : Performs options state sentence move reading) (first : move.first? = some unit) :
    reading.units.head? = some unit := by
  cases performs with
  | closes closing | repairs closing =>
    obtain rfl | ⟨rfl, _⟩ := closing?_eq_some closing <;> cases first
  | assigns | reassigns | blank | degrades => cases first
  | emit | opens | elif | strayElif | sharedCase | newCase | announces | startsBody => exact first

namespace Situation

variable {s : Situation} {move : Move}

/-- What can be decided about an opening sentence in a command body. -/
inductive Decides (s : Situation) : Option Move → Prop where
  | command : ¬s.sentence.StartsConstruct → Decides s (some (.emit [.command s.text]))
  | construct {move : Move} {unit : SemanticUnit} : s.sentence.StartsConstruct →
      move.first? = some unit → unit.startsConstruct = true →
      (∀ returnType, unit = .functionReturnType returnType → s.state.awaiting ≠ none) →
      Decides s (some move)
  | unawaited : s.state.Unawaited s.sentence → Decides s none

theorem decides_text {unit : SemanticUnit} (text : s.text ∈ constructTexts)
    (first : move.first? = some unit) (starts : unit.startsConstruct = true)
    (awaits : ∀ returnType, unit = .functionReturnType returnType → s.state.awaiting ≠ none) :
    s.Decides (some move) :=
  .construct (.inr (.inl text)) first starts awaits

theorem decides_head {unit : SemanticUnit} {body : String} (head : s.head ∈ constructHeads)
    (body? : s.body? = some body) (first : move.first? = some unit)
    (starts : unit.startsConstruct = true)
    (awaits : ∀ returnType, unit = .functionReturnType returnType → s.state.awaiting ≠ none) :
    s.Decides (some move) := by
  obtain ⟨rfl, worded⟩ := body?_eq_some_iff.mp body?
  exact .construct (.inr (.inr (.inr (.inr ⟨head, worded⟩)))) first starts awaits

/-- Without a routine to start, the sentence is one word or more behind a `returns`. -/
theorem move_of_unawaited (colon : s.kind = .opening)
    (unawaited : s.state.Unawaited s.sentence) :
    s.move = if ' ' ∈ s.body.toList then .unknown else .emit [.twoWordCluster s.head s.body] := by
  obtain ⟨head, named, awaits⟩ := unawaited
  have head : s.head = "returns" := head
  have body? : s.body? = some s.body := body?_eq_some_iff.mpr ⟨rfl, named⟩
  have spaced := s.spaced_of_body? body?
  have words : s.head ∉ openingWords := by
    rw [head]
    decide
  have unopened : s.openingByHead? = none := by
    simp [openingByHead?, head, body?, awaits]
  have uncalled : callRule s = none := by
    simp [callRule, colon, head, body?]
  rw [s.move_of_declined colon (Literal.read?_of_spaced spaced) (compoundRule_of_head words)
    ((openingRule_of_head colon words).trans unopened)]
  have undeclared : declarationRule s = none := by
    simp [declarationRule, head]
  have unended : endMarkerRule s = none := by
    simp [endMarkerRule, head]
  have unreferenced : referenceRule s = none := by
    simp [referenceRule, spaced]
  by_cases further : ' ' ∈ s.body.toList <;>
    simp [uncalled, undeclared, unended, unreferenced, twoWordRule, body?, further, unit]

section

variable (inside : s.current = .commandBody) (worded : s.text ≠ "")
  (unread : Literal.read? s.text = none) (texts : s.text ∉ constructTexts)

include inside worded unread texts

theorem decides_command (uncased : s.head ≠ "switch" ∧ s.head ≠ "case")
    (plain : s.body? = none ∨ s.head ∉ constructHeads) : s.Decides s.command? := by
  have named : s.command? = some (.emit [.command s.text]) := by
    simp [command?, inside, worded, unit]
  rw [named]
  apply Decides.command
  rintro (literal | text | head | head | ⟨head, body⟩)
  · exact literal unread
  · exact texts text
  · exact uncased.1 head
  · exact uncased.2 head
  · rcases plain with none | other
    · cases (body?_eq_some_iff.mpr ⟨rfl, body⟩).symm.trans none
    · exact other head

theorem openingByHead?_decides : s.Decides s.openingByHead? := by
  have closed : s.current.admitsDefinitions = false := by
    rw [inside]
    rfl
  unfold openingByHead?
  split
  case h_1 head => exact .construct (.inr (.inr (.inl head))) rfl rfl nofun
  case h_2 head => exact .construct (.inr (.inr (.inr (.inl head)))) rfl rfl nofun
  case h_3 body? switch case =>
    exact decides_command inside worded unread texts ⟨switch, case⟩ (.inl body?)
  case h_4 head body? | h_8 head body? | h_9 head body? | h_10 head body? =>
    exact decides_head (by simp [head, constructHeads]) body? rfl rfl nofun
  case h_5 head body? =>
    rw [if_neg (by simp [closed])]
    exact decides_command inside worded unread texts (by simp [head])
      (.inr (by simp [head, constructHeads]))
  case h_6 head body? =>
    rw [if_neg (by simp [inside])]
    exact decides_command inside worded unread texts (by simp [head])
      (.inr (by simp [head, constructHeads]))
  case h_7 returnType head body? =>
    cases awaits : s.state.awaiting with
    | none =>
      obtain ⟨rfl, named⟩ := body?_eq_some_iff.mp body?
      exact .unawaited ⟨head, named, awaits⟩
    | some awaited =>
      have first : (Move.startsBody awaited.routine returnType).first? =
          some (.functionReturnType returnType) := by
        cases awaited.routine <;> rfl
      refine decides_head (by simp [head, constructHeads]) body? first rfl fun _ _ => ?_
      rw [awaits]
      nofun
  case h_11 body? switch case take _ _ returns struct others type =>
    refine decides_command inside worded unread texts ⟨switch, case⟩ (.inr ?_)
    simp only [constructHeads, List.mem_cons, List.not_mem_nil, or_false, not_or]
    exact ⟨take, returns, struct, others, type⟩

end

section

variable (colon : s.kind = .opening) (inside : s.current = .commandBody) (worded : s.text ≠ "")

include colon inside worded

theorem openingRule_decides (unled : s.leftHead = none) (unread : Literal.read? s.text = none)
    (uncompounded : s.text ≠ "array" ∧ s.text ≠ "object") : s.Decides (openingRule s) := by
  unfold openingRule
  rw [if_pos colon]
  split
  case h_6 text =>
    rw [unled, if_neg nofun]
    exact decides_text (text ▸ by decide) rfl rfl nofun
  case h_11 text =>
    rw [inside, if_neg nofun]
    exact openingByHead?_decides inside worded unread (text ▸ by decide)
  case h_12 =>
    apply openingByHead?_decides inside worded unread
    obtain ⟨array, object⟩ := uncompounded
    simp only [constructTexts, List.mem_cons, List.not_mem_nil, or_false, not_or]
    and_intros <;> assumption
  all_goals
    next text => exact decides_text (text ▸ by decide) rfl rfl nofun

/-- The move of an opening sentence in a command body. -/
theorem move_decides (unled : s.leftHead = none) :
    s.Decides (some s.move) ∨ s.state.Unawaited s.sentence := by
  cases read : Literal.read? s.text with
  | some literal =>
    have moves : s.move = .emit [literal] := by
      simp [move, rules, contentRule, literalRule, colon, read]
    rw [moves]
    refine .inl (.construct (.inl ?_) rfl ?_ ?_)
    · rw [← Option.isSome_iff_ne_none]
      exact Option.isSome_of_eq_some read
    · obtain ⟨_, rfl⟩ | ⟨_, rfl⟩ | ⟨_, rfl⟩ | ⟨_, rfl⟩ := Literal.read?_eq_some read <;> rfl
    · rintro returnType rfl
      simpa using Literal.read?_eq_some read
  | none =>
    by_cases array : s.text = "array"
    · have opens : compoundRule s = some (.opens .array) := by simp [compoundRule, colon, array]
      rw [s.move_of_compound colon read opens]
      exact .inl (decides_text (array ▸ by decide) rfl rfl (by rintro _ ⟨⟩))
    by_cases object : s.text = "object"
    · have opens : compoundRule s = some (.opens .object) := by simp [compoundRule, colon, object]
      rw [s.move_of_compound colon read opens]
      exact .inl (decides_text (object ▸ by decide) rfl rfl (by rintro _ ⟨⟩))
    have uncompounded : compoundRule s = none := by simp [compoundRule, array, object]
    have decides := openingRule_decides colon inside worded unled read ⟨array, object⟩
    cases chosen : openingRule s with
    | some move =>
      rw [s.move_of_opening colon read uncompounded chosen]
      exact .inl (chosen ▸ decides)
    | none =>
      rw [chosen] at decides
      cases decides with
      | unawaited unawaited => exact .inr unawaited

end

end Situation

namespace ScopeState

variable {state : ScopeState} {sentence : Sentence}

/-- Where no head is open, a sentence is read in the state that it meets. -/
theorem situation_of_plain (plain : state.nesting.openHead? = none) :
    state.situation sentence = { state, sentence } := by
  have entered : state.enter sentence = state := by
    unfold enter
    split
    · rw [Nesting.enterBody_eq_self plain]
    · rfl
  simp [situation, entered, plain]

theorem read_of_plain (options : Options) (plain : state.nesting.openHead? = none)
    (colon : sentence.kind = .opening) :
    state.read options sentence =
      state.perform options sentence (Situation.move { state, sentence }) := by
  have bare (reading : Reading) : reading.punctuate sentence.kind = reading := by
    rw [colon]
    rfl
  have situated : state.situation sentence = { state, sentence } := situation_of_plain plain
  have entered : state.enter sentence = state := congrArg Situation.state situated
  rw [read_eq, situated, entered]
  simp only [bare]
  cases state.perform options sentence (Situation.move { state, sentence }) <;> rfl

theorem Unawaited.startsConstruct (unawaited : state.Unawaited sentence) :
    sentence.StartsConstruct := by
  obtain ⟨head, named, _⟩ := unawaited
  exact .inr (.inr (.inr (.inr ⟨head ▸ by decide, named⟩)))

theorem units_of_unawaited {options : Options} {reading : Reading}
    (plain : state.nesting.openHead? = none) (colon : sentence.kind = .opening)
    (unawaited : state.Unawaited sentence) (read : state.read options sentence = .ok reading) :
    reading.units = [if ' ' ∈ sentence.body.toList then .unknown sentence.text
      else .twoWordCluster "returns" sentence.body] := by
  have words := Situation.move_of_unawaited (s := { state, sentence }) colon unawaited
  rw [read_of_plain options plain colon, words, Situation.head, unawaited.1, Situation.body] at read
  by_cases further : ' ' ∈ sentence.body.toList
  · rw [if_pos further] at read ⊢
    cases performs_of_perform read with
    | blank blank =>
      have spaceless : ' ' ∉ sentence.text.toList := by simp [String.isEmpty_iff.mp blank]
      exact absurd (Sentence.body_of_spaceless spaceless) unawaited.2.1
    | degrades => rfl
    | closes | repairs => contradiction
  · rw [if_neg further] at read ⊢
    cases performs_of_perform read with
    | emit => rfl
    | closes | repairs => contradiction

/-- A command changes nothing, and a construct begins with a unit of its own. -/
theorem read_inside (options : Options) (inside : state.nesting.current = .commandBody)
    (plain : state.nesting.openHead? = none) (colon : sentence.kind = .opening)
    (worded : sentence.text ≠ "") (awaited : ¬state.Unawaited sentence) :
    (¬sentence.StartsConstruct ∧
      state.read options sentence = .ok { units := [.command sentence.text], state }) ∨
    (sentence.StartsConstruct ∧ ∀ reading, state.read options sentence = .ok reading →
      ∃ unit ∈ reading.units.head?, unit.startsConstruct = true ∧
        ∀ returnType, unit = .functionReturnType returnType → state.awaiting ≠ none) := by
  have decides := (Situation.move_decides (s := { state, sentence }) colon inside worded rfl
    ).resolve_right awaited
  rw [read_of_plain options plain colon]
  generalize Situation.move { state, sentence } = move at decides
  cases decides with
  | command other => exact .inl ⟨other, rfl⟩
  | construct starts first begins awaits =>
    exact .inr ⟨starts, fun reading read =>
      ⟨_, (performs_of_perform read).head?_units first, begins, awaits⟩⟩

end ScopeState

/-- In a command body every opening sentence with a text is read as a command that it names, unless
it starts another construct; then its first unit is a literal or the first one of the construct.
Only a `returns` that no routine awaits is left to the rules for words. -/
theorem commands_named_unless_unawaited {assembler : Assembler} {sentence : Sentence}
    (inside : assembler.state.nesting.current = .commandBody) (colon : sentence.kind = .opening)
    (worded : sentence.text ≠ "") (index : Nat) :
    (¬sentence.StartsConstruct →
      (assembler.add index sentence).2 = .ok [.command sentence.text] ∧
        (assembler.add index sentence).1.state = assembler.state) ∧
    ∀ units, (assembler.add index sentence).2 = .ok units →
      ((∃ unit ∈ units.head?, unit = .command sentence.text ∨
        (unit.startsConstruct = true ∧ ∀ returnType, unit = .functionReturnType returnType →
          assembler.state.awaiting ≠ none)) ↔ ¬assembler.state.Unawaited sentence) ∧
      (assembler.state.Unawaited sentence → units =
        [if ' ' ∈ sentence.body.toList then .unknown sentence.text
          else .twoWordCluster "returns" sentence.body]) := by
  have plain : assembler.state.nesting.openHead? = none := by
    have top : assembler.state.nesting.top? = some .commandBody :=
      (Nesting.current_eq_iff (by decide)).mp inside
    simp [Nesting.openHead?, top, Scope.isHead]
  have reads (awaited : ¬assembler.state.Unawaited sentence) :=
    ScopeState.read_inside assembler.options inside plain colon worded awaited
  constructor
  · intro other
    rcases reads fun unawaited => other unawaited.startsConstruct with ⟨_, read⟩ | ⟨starts, _⟩
    · rw [assembler.add_of_read index read]
      exact ⟨rfl, rfl⟩
    · exact absurd starts other
  · intro units added
    obtain ⟨reading, read, rfl⟩ := Assembler.add_eq_ok added
    have words (unawaited : assembler.state.Unawaited sentence) :=
      ScopeState.units_of_unawaited plain colon unawaited read
    refine ⟨⟨?_, fun awaited => ?_⟩, words⟩
    · rintro ⟨unit, first, named⟩ unawaited
      rw [words unawaited, List.head?_cons, Option.mem_some_iff] at first
      subst first
      split at named <;> simp [SemanticUnit.startsConstruct] at named
    · rcases reads awaited with ⟨_, named⟩ | ⟨_, starts⟩
      · cases read.symm.trans named
        exact ⟨_, rfl, .inl rfl⟩
      · obtain ⟨unit, first, begins⟩ := starts reading read
        exact ⟨unit, first, .inr begins⟩

/-- A call in a command body names a command, and so does an end marker with a colon. -/
theorem call_names_command :
    (({} : Assembler).addEach [(0, ⟨.opening, "command", default⟩)]).state.nesting.current
        = .commandBody ∧
      ((({} : Assembler).addEach [(0, ⟨.opening, "command", default⟩)]).add 1
        ⟨.opening, "call end cmd", default⟩).2 = .ok [.command "call end cmd"] := by
  have inside :
      (({} : Assembler).addEach [(0, ⟨.opening, "command", default⟩)]).state.nesting.current
        = .commandBody := rfl
  have worded : Sentence.text ⟨.opening, "call end cmd", default⟩ ≠ "" := by decide
  have names := (commands_named_unless_unawaited inside rfl worded 1).1 (by decide)
  exact ⟨inside, names.1⟩

/-- A `returns` that no routine awaits is a cluster of two words, and names no command. -/
theorem unawaited_returns_unnamed :
    ((({} : Assembler).addEach [(0, ⟨.opening, "command", default⟩)]).add 1
      ⟨.opening, "returns x", default⟩).2 = .ok [.twoWordCluster "returns" "x"] := rfl

end Clausal
