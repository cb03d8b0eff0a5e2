import Clausal.Meaning.Rules

/-! Which moves the rules can choose, and for which sentences.

The rules are many and the moves are few. Everything that is said about the scopes of a program goes
by moves, so the rules are gone through once, and what a move presupposes is kept with it.
-/

set_option autoImplicit false

namespace Clausal

/-- What a unit says about the scopes around it. -/
inductive Bracket where
  | opens (scope : Scope)
  | closes (scope : Scope)
  /-- Stands directly inside an open scope and leaves it open. -/
  | continues (scope : Scope)
  /-- Opens a case, or adds to the one that is open. -/
  | case
  | plain
  deriving DecidableEq

/-- The bracket of a unit. Scopes are named by their bodies. -/
def SemanticUnit.bracket : SemanticUnit → Bracket
  | .accessorStart => .opens .accessor
  | .arrayStart => .opens .arrayBody
  | .objectStart => .opens .objectBody
  | .ifHead => .opens .ifBlockBody
  | .whileBodyStart => .opens .loopBody
  | .loopBodyStart => .opens .loopBody
  | .switchHead _ => .opens .switchBody
  | .defaultCaseHead => .opens .caseBody
  | .functionBodyStart => .opens .functionBody
  | .methodBodyStart => .opens .methodBody
  | .structHead _ => .opens .structBody
  | .classHead _ => .opens .classBody
  | .typeDefinitionStart _ => .opens .typeDefinition
  | .commandHead => .opens .commandBody
  | .assignmentKey _ => .opens .assignment
  | .variableDeclaration _ _ (some _) => .opens .assignment
  | .functionCallStart _ => .opens .functionCall
  | .objectConstructionStart _ => .opens .functionCall
  | .caseHead _ => .case
  | .elifHead => .continues .ifBlockBody
  | .accessorEnd => .closes .accessor
  | .arrayEnd => .closes .arrayBody
  | .objectEnd => .closes .objectBody
  | .assignmentEnd => .closes .assignment
  | .functionCallEnd => .closes .functionCall
  | .typeDefinitionEnd => .closes .typeDefinition
  | .endMarker scope => .closes scope
  | _ => .plain

/-- The units that a sentence may stand for by itself, whatever came before it and whatever
punctuation ends it. -/
def SemanticUnit.isSimple : SemanticUnit → Bool
  | .functionHead _ | .methodHead _ | .functionReturnType _ | .loopIteratorName _ => false
  | .closing | .unknown _ => false
  | unit => unit.bracket == .plain

theorem SemanticUnit.bracket_of_isSimple {unit : SemanticUnit} (simple : unit.isSimple = true) :
    unit.bracket = .plain := by
  unfold isSimple at simple
  split at simple
  case h_7 => simpa using simple
  all_goals cases simple

namespace Literal

theorem read?_eq_some {text : String} {unit : SemanticUnit} (read : read? text = some unit) :
    (∃ value, unit = .boolean value) ∨ (∃ value, unit = .falsy value) ∨
      (∃ value, unit = .integer value) ∨ ∃ value, unit = .float value := by
  simp only [read?, Option.orElse_eq_orElse, Option.orElse_eq_or, Option.or_eq_some_iff] at read
  rcases read with keyword | ⟨_, number⟩
  · unfold keyword? at keyword
    split at keyword
    · cases keyword; exact .inl ⟨true, rfl⟩
    · cases keyword; exact .inl ⟨false, rfl⟩
    · obtain ⟨value, _, rfl⟩ := Option.map_eq_some_iff.mp keyword
      exact .inr (.inl ⟨value, rfl⟩)
  · simp only [number?, Option.map_eq_some_iff] at number
    obtain ⟨decimal, _, rfl⟩ := number
    split
    · exact .inr (.inr (.inl ⟨_, rfl⟩))
    · split
      · split
        · exact .inr (.inr (.inl ⟨_, rfl⟩))
        · exact .inr (.inr (.inr ⟨_, rfl⟩))
      · exact .inr (.inr (.inr ⟨_, rfl⟩))

@[simp] theorem read?_empty : read? "" = none := by
  decide

/-- Only digits and the point belong to numbers. -/
theorem number?_eq_none {text : String} {c : Char} (member : c ∈ text.toList)
    (digit : c.isDigit = false) (point : c ≠ '.') : number? text = none := by
  have other (cs : List Char) (member : c ∈ cs) : Decimal.areDigits cs = false := by
    rw [Decimal.areDigits, Bool.and_eq_false_iff]
    right
    rw [List.all_eq_false]
    exact ⟨c, member, by simp [digit]⟩
  have unread : Decimal.read? text.toList = none := by
    unfold Decimal.read?
    split
    · rw [other _ member]
      rfl
    · next whole fraction cut =>
      rw [(Text.cutFirst_eq_some cut).1] at member
      rw [other (whole ++ fraction) (by simpa [point] using member)]
      rfl
  rw [number?, unread]
  rfl

/-- The keywords that are literals. -/
def keywords : List String :=
  ["true", "false", "undefined", "null", "NaN", "void"]

/-- A text is no keyword if it has a character of a kind that none of them has. -/
theorem keyword?_eq_none {text : String} {p : Char → Bool} {c : Char} (member : c ∈ text.toList)
    (holds : p c = true) (apart : (keywords.all fun word => word.toList.all (!p ·)) = true) :
    keyword? text = none := by
  have differs : text ∉ keywords := by
    intro listed
    have others := List.all_eq_true.mp (List.all_eq_true.mp apart text listed) c member
    simp [holds] at others
  have unnamed : Falsy.ofName? text = none := by
    unfold Falsy.ofName?
    split
    case h_5 => rfl
    all_goals exact absurd (by decide) differs
  unfold keyword?
  split
  · exact absurd (by decide) differs
  · exact absurd (by decide) differs
  · rw [unnamed]
    rfl

/-- More than one word is no literal. -/
theorem read?_of_spaced {text : String} (spaced : ' ' ∈ text.toList) : read? text = none := by
  have keyword : keyword? text = none :=
    keyword?_eq_none (p := (· == ' ')) spaced rfl (by decide)
  rw [read?, keyword, number?_eq_none spaced (by decide) (by decide)]
  rfl

end Literal

/-- A word by itself is all head. -/
theorem Sentence.head_of_spaceless {sentence : Sentence} (spaceless : ' ' ∉ sentence.text.toList) :
    sentence.head = sentence.text := by
  simp [head, parts, Text.cutFirst_eq_none_iff.mpr spaceless]

theorem Sentence.body_of_spaceless {sentence : Sentence} (spaceless : ' ' ∉ sentence.text.toList) :
    sentence.body = "" := by
  simp [body, parts, Text.cutFirst_eq_none_iff.mpr spaceless]

/-- The kinds whose sentences stand for a unit without touching the scopes. -/
def Sentence.Kind.isContent : Sentence.Kind → Bool
  | .comment | .compilerFlag | .targetCode | .string _ => true
  | .logical _ | .calculation _ | .comparison _ | .parenthesesStart | .parenthesesEnd => true
  | .accessorMember | .accessorLastItem | .accessorAssignment => true
  | _ => false

/-- Whether a construct may be opened where `current` is the innermost scope. Accessors are opened
by a bracket and not by a sentence that ends in a colon. -/
def Opener.fitsIn (current : Scope) : Opener → Bool
  | .accessor => false
  | .commands | .declaration _ _ _ => current.admitsDefinitions
  | _ => true

/-- Whether the head of a routine may stand where `current` is the innermost scope. -/
def Routine.fitsIn (current : Scope) : Routine → Bool
  | .function => current.admitsDefinitions
  | .method => current == .classBody || current == .structBody

namespace Situation

/-- The moves open to the rules, each with what it presupposes. -/
inductive Means (s : Situation) : Move → Prop where
  | emit {units : List SemanticUnit} : (∀ unit ∈ units, unit.isSimple = true) →
      Means s (.emit units)
  | openAccessor : s.kind = .accessorStart → Means s (.opens .accessor)
  | closeAccessor : s.kind = .accessorEnd → Means s .closeAccessor
  | opens {opener : Opener} : s.kind = .opening → opener.fitsIn s.current = true →
      Means s (.opens opener)
  | calls {opener : Opener} : s.kind = .closing → opener.scope = .functionCall →
      Means s (.opens opener)
  | closes {requested : Scope} : s.head = "end" → Scope.ofTag? s.body = some requested →
      Means s (.closes requested)
  | elif : s.kind = .opening → Means s .elif
  | caseHead {value : Option String} : s.kind = .opening ∨ s.kind = .enumerating →
      s.head = "case" → Means s (.caseHead value)
  | announces {routine : Routine} {name : String} : s.kind = .opening →
      routine.fitsIn s.current = true → Means s (.announces routine name)
  | startsBody {awaited : AwaitedReturns} {returnType : String} : s.kind = .opening →
      s.state.awaiting = some awaited → s.head = "returns" → s.body? = some returnType →
      Means s (.startsBody awaited.routine returnType)
  | assigns : s.kind = .assignmentKey → Means s (.assigns s.text)
  | unknown : Means s .unknown

variable {s : Situation} {move : Move}

theorem means_unit {shown : SemanticUnit} (simple : shown.isSimple = true)
    (chosen : unit shown = some move) : s.Means move := by
  cases chosen
  exact .emit (by simpa using simple)

theorem contentRule_means (chosen : contentRule s = some move) : s.Means move := by
  unfold contentRule at chosen
  split at chosen
  case h_4 => cases chosen
  all_goals exact means_unit rfl chosen

theorem literalRule_means (chosen : literalRule s = some move) : s.Means move := by
  unfold literalRule at chosen
  split at chosen
  · exact means_unit rfl chosen
  · exact means_unit rfl chosen
  · obtain ⟨literal, read, rfl⟩ := Option.map_eq_some_iff.mp chosen
    refine means_unit ?_ rfl
    obtain ⟨_, rfl⟩ | ⟨_, rfl⟩ | ⟨_, rfl⟩ | ⟨_, rfl⟩ := Literal.read?_eq_some read <;> rfl

theorem accessorRule_means (chosen : accessorRule s = some move) : s.Means move := by
  unfold accessorRule at chosen
  split at chosen
  · next start => cases chosen; exact .openAccessor start
  · exact means_unit rfl chosen
  · exact means_unit rfl chosen
  · exact means_unit rfl chosen
  · next stop => cases chosen; exact .closeAccessor stop
  · cases chosen

theorem compoundRule_means (chosen : compoundRule s = some move) : s.Means move := by
  unfold compoundRule at chosen
  split at chosen
  case h_3 => cases chosen
  all_goals
    next colon _ =>
    cases chosen
    exact .opens colon rfl

theorem operatorRule_means (chosen : operatorRule s = some move) : s.Means move := by
  unfold operatorRule at chosen
  split at chosen
  case h_6 => cases chosen
  all_goals exact means_unit rfl chosen

theorem closingRule_means (chosen : closingRule s = some move) : s.Means move := by
  unfold closingRule at chosen
  split at chosen
  case isFalse => cases chosen
  split at chosen
  case h_4 =>
    obtain ⟨_, _, named⟩ := Option.bind_eq_some_iff.mp chosen
    split at named
    case h_6 => cases named
    all_goals exact means_unit rfl named
  all_goals exact means_unit rfl chosen

theorem command?_means (chosen : s.command? = some move) : s.Means move := by
  unfold command? at chosen
  split at chosen
  · exact means_unit rfl chosen
  · cases chosen

theorem openingByHead?_means (colon : s.kind = .opening) (chosen : s.openingByHead? = some move) :
    s.Means move := by
  unfold openingByHead? at chosen
  split at chosen
  case h_2 named => cases chosen; exact .caseHead (.inl colon) named
  case h_3 | h_11 => exact command?_means chosen
  case h_5 =>
    split at chosen
    · next admitted => cases chosen; exact .announces colon admitted
    · exact command?_means chosen
  case h_6 =>
    split at chosen
    · next admitted =>
      cases chosen
      exact .announces colon (by simpa [Routine.fitsIn] using admitted)
    · exact command?_means chosen
  case h_7 named body =>
    obtain ⟨_, awaited, rfl⟩ := Option.map_eq_some_iff.mp chosen
    exact .startsBody colon awaited named body
  all_goals cases chosen; exact .opens colon rfl

theorem openingRule_means (chosen : openingRule s = some move) : s.Means move := by
  unfold openingRule at chosen
  split at chosen
  case isFalse => cases chosen
  next colon =>
  split at chosen
  case h_2 => cases chosen; exact .elif colon
  case h_3 => cases chosen; exact .emit (by simp [SemanticUnit.isSimple, SemanticUnit.bracket])
  case h_6 =>
    split at chosen
    · exact means_unit rfl chosen
    · cases chosen; exact .opens colon rfl
  case h_11 =>
    split at chosen
    · next admitted => cases chosen; exact .opens colon admitted
    · exact openingByHead?_means colon chosen
  case h_12 => exact openingByHead?_means colon chosen
  case h_1 | h_9 => cases chosen; exact .opens colon rfl
  all_goals exact means_unit rfl chosen

theorem enumeratingRule_means (chosen : enumeratingRule s = some move) : s.Means move := by
  unfold enumeratingRule at chosen
  split at chosen
  case isFalse => cases chosen
  next comma =>
  obtain ⟨_, _, chosen⟩ := Option.bind_eq_some_iff.mp chosen
  split at chosen
  · next named => cases chosen; exact .caseHead (.inr comma) named
  · obtain ⟨_, _, rfl⟩ := Option.map_eq_some_iff.mp chosen
    exact means_unit rfl rfl

theorem assignmentRule_means (chosen : assignmentRule s = some move) : s.Means move := by
  unfold assignmentRule at chosen
  split at chosen
  · next key => cases chosen; exact .assigns key
  · cases chosen

theorem declarationRule_means (chosen : declarationRule s = some move) : s.Means move := by
  unfold declarationRule at chosen
  split at chosen
  case isFalse => cases chosen
  next colon =>
  obtain ⟨_, _, rfl⟩ := Option.map_eq_some_iff.mp chosen
  dsimp only
  split
  · exact .opens colon.1 colon.2.2
  · exact means_unit rfl rfl

theorem callRule_means (chosen : callRule s = some move) : s.Means move := by
  unfold callRule at chosen
  split at chosen
  case isFalse => cases chosen
  next ended =>
  obtain ⟨_, _, named⟩ := Option.bind_eq_some_iff.mp chosen
  have called {opener : Opener} (scope : opener.scope = .functionCall)
      (fits : opener.fitsIn s.current = true) : s.Means (.opens opener) := by
    rcases ended with colon | semicolon
    · exact .opens colon fits
    · exact .calls semicolon scope
  split at named
  · cases named; exact called rfl rfl
  · cases named; exact called rfl rfl
  · cases named

theorem endMarkerRule_means (chosen : endMarkerRule s = some move) : s.Means move := by
  unfold endMarkerRule at chosen
  split at chosen
  · next named =>
    obtain ⟨_, tagged, rfl⟩ := Option.map_eq_some_iff.mp chosen
    exact .closes named tagged
  · cases chosen

theorem twoWordRule_means (chosen : twoWordRule s = some move) : s.Means move := by
  obtain ⟨_, _, named⟩ := Option.bind_eq_some_iff.mp chosen
  split at named
  · cases named
  · exact means_unit rfl named

theorem referenceRule_means (chosen : referenceRule s = some move) : s.Means move := by
  unfold referenceRule at chosen
  split at chosen
  · cases chosen
  · exact means_unit rfl chosen

/-- The move of a sentence is one of those open to the rules. -/
theorem move_means (s : Situation) : s.Means s.move := by
  unfold Situation.move
  cases found : rules.findSome? fun rule => rule s with
  | none => exact .unknown
  | some move =>
    obtain ⟨rule, member, chosen⟩ := List.exists_of_findSome?_eq_some found
    simp only [rules, List.mem_cons, List.not_mem_nil, or_false] at member
    rcases member with rfl | rfl | rfl | rfl | rfl | rfl | rfl | rfl | rfl | rfl | rfl | rfl |
      rfl | rfl
    · exact contentRule_means chosen
    · exact literalRule_means chosen
    · exact accessorRule_means chosen
    · exact compoundRule_means chosen
    · exact operatorRule_means chosen
    · exact closingRule_means chosen
    · exact openingRule_means chosen
    · exact enumeratingRule_means chosen
    · exact assignmentRule_means chosen
    · exact declarationRule_means chosen
    · exact callRule_means chosen
    · exact endMarkerRule_means chosen
    · exact twoWordRule_means chosen
    · exact referenceRule_means chosen

theorem move_accessorStart (s : Situation) (kind : s.kind = .accessorStart) (text : s.text = "") :
    s.move = .opens .accessor := by
  simp [move, rules, contentRule, literalRule, accessorRule, kind, text]

theorem move_accessorEnd (s : Situation) (kind : s.kind = .accessorEnd) (text : s.text = "") :
    s.move = .closeAccessor := by
  simp [move, rules, contentRule, literalRule, accessorRule, kind, text]

theorem move_of_isContent (s : Situation) (content : s.kind.isContent = true) :
    ∃ unit, s.move = .emit [unit] := by
  -- Strings aside, a text that spells a literal is one, whatever the kind.
  cases literal : Literal.read? s.text <;> cases kind : s.kind <;> rw [kind] at content <;>
    cases content
  case none.string.refl quote | some.string.refl quote =>
    cases quote <;> simp [move, rules, contentRule, literalRule, kind, unit]
  all_goals
    simp [move, rules, contentRule, literalRule, accessorRule, compoundRule, operatorRule, kind,
      literal, unit]

theorem body?_eq_some_iff {body : String} :
    s.body? = some body ↔ s.sentence.body = body ∧ body ≠ "" := by
  have whole : s.body = s.sentence.body := rfl
  rw [body?, whole]
  constructor
  · intro found
    split at found
    · cases found
    · next worded =>
      cases found
      exact ⟨rfl, by simpa using worded⟩
  · rintro ⟨rfl, worded⟩
    simp [worded]

theorem spaced_of_body? (s : Situation) {body : String} (found : s.body? = some body) :
    ' ' ∈ s.text.toList := by
  apply Decidable.byContradiction
  intro spaceless
  obtain ⟨same, worded⟩ := body?_eq_some_iff.mp found
  exact worded (same.symm.trans (Sentence.body_of_spaceless spaceless))

/-- The keywords that make up an opening sentence by themselves. -/
def openingWords : List String :=
  ["array", "object", "if", "elif", "else", "then", "while", "do", "continue", "return", "default",
   "function", "command"]

/-- A keyword by itself is its own head. -/
theorem text_notMem_openingWords (named : s.head ∉ openingWords) : s.text ∉ openingWords := by
  intro member
  have spaceless : ∀ word ∈ openingWords, ' ' ∉ word.toList := by decide
  have same : s.head = s.text := Sentence.head_of_spaceless (spaceless _ member)
  exact named (same ▸ member)

theorem compoundRule_of_head (named : s.head ∉ openingWords) : compoundRule s = none := by
  have worded := text_notMem_openingWords named
  unfold compoundRule
  split
  case h_3 => rfl
  all_goals
    next text => exact absurd (text ▸ by decide) worded

theorem openingRule_of_head (colon : s.kind = .opening) (named : s.head ∉ openingWords) :
    openingRule s = s.openingByHead? := by
  have worded := text_notMem_openingWords named
  unfold openingRule
  rw [if_pos colon]
  split
  case h_12 => rfl
  all_goals
    next text => exact absurd (text ▸ by decide) worded

section

variable (s : Situation) (colon : s.kind = .opening) (unread : Literal.read? s.text = none)

include colon unread

theorem move_of_opening (uncompounded : compoundRule s = none)
    (chosen : openingRule s = some move) : s.move = move := by
  simp [Situation.move, rules, contentRule, literalRule, accessorRule, operatorRule, closingRule,
    colon, unread, uncompounded, chosen]

/-- The rules that are left to an opening sentence without a keyword. -/
theorem move_of_declined (uncompounded : compoundRule s = none)
    (declined : openingRule s = none) :
    s.move = ([declarationRule, callRule, endMarkerRule, twoWordRule, referenceRule].findSome?
      fun rule => rule s).getD .unknown := by
  simp [Situation.move, rules, contentRule, literalRule, accessorRule, operatorRule, closingRule,
    enumeratingRule, assignmentRule, colon, unread, uncompounded, declined]

/-- An opening sentence goes by its head, unless its text is a literal or a keyword. -/
theorem move_of_head (named : s.head ∉ openingWords) (chosen : s.openingByHead? = some move) :
    s.move = move :=
  s.move_of_opening colon unread (compoundRule_of_head named)
    ((openingRule_of_head colon named).trans chosen)

end

/-- A case is read as one, unless its text spells a literal. -/
theorem move_of_case (s : Situation) (colon : s.kind = .opening) (head : s.head = "case") :
    (∃ unit, s.move = .emit [unit]) ∨ s.move = .caseHead s.body? := by
  cases literal : Literal.read? s.text with
  | some unit =>
    left
    exact ⟨unit, by simp [move, rules, contentRule, literalRule, colon, literal]⟩
  | none =>
    right
    refine s.move_of_head colon literal ?_ (by simp [openingByHead?, head])
    rw [head]
    decide

/-- An awaited `returns` always starts the body, whatever the scopes around it. -/
theorem move_of_returns (s : Situation) {awaited : AwaitedReturns} {returnType : String}
    (colon : s.kind = .opening) (head : s.head = "returns") (body : s.body? = some returnType)
    (awaits : s.state.awaiting = some awaited) :
    s.move = .startsBody awaited.routine returnType := by
  refine s.move_of_head colon (Literal.read?_of_spaced (s.spaced_of_body? body)) ?_ ?_
  · rw [head]
    decide
  · simp [openingByHead?, head, body, awaits]

theorem move_of_compound (s : Situation) (colon : s.kind = .opening)
    (unread : Literal.read? s.text = none) (chosen : compoundRule s = some move) :
    s.move = move := by
  simp [Situation.move, rules, contentRule, literalRule, accessorRule, colon, unread, chosen]

/-- A call whose arguments follow, wherever words do not name commands. -/
theorem move_of_call (s : Situation) {name : String} (colon : s.kind = .opening)
    (head : s.head = "call") (body : s.body? = some name) (outside : s.current ≠ .commandBody) :
    s.move = .opens (.call name) := by
  have named : s.head ∉ openingWords := by
    rw [head]
    decide
  have unread := Literal.read?_of_spaced (s.spaced_of_body? body)
  have uncommanded : s.openingByHead? = none := by
    simp [openingByHead?, head, body, command?, outside]
  rw [s.move_of_declined colon unread (compoundRule_of_head named)
    ((openingRule_of_head colon named).trans uncommanded)]
  simp [declarationRule, callRule, colon, head, body]

theorem move_of_literal (s : Situation) {shown : SemanticUnit}
    (mark : s.kind = .closing ∨ s.kind = .enumerating) (read : Literal.read? s.text = some shown) :
    s.move = .emit [shown] := by
  rcases mark with kind | kind <;> simp [move, rules, contentRule, literalRule, kind, read]

theorem move_of_key (s : Situation) (key : s.kind = .assignmentKey)
    (unread : Literal.read? s.text = none) : s.move = .assigns s.text := by
  simp [move, rules, contentRule, literalRule, accessorRule, compoundRule, operatorRule,
    closingRule, openingRule, enumeratingRule, assignmentRule, key, unread]

end Situation

end Clausal
