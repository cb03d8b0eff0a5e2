import Clausal.Meaning.Move
import Clausal.SemanticUnit.Path
import Clausal.SemanticUnit.Literal

/-! The rules that give a sentence its meaning.

A sentence is looked at as a whole and by its head, the text before the first space, and its body,
the text after it. The rules are asked in order, and the first that knows the sentence chooses the
move.
-/

set_option autoImplicit false

namespace Clausal

/-- A sentence and the state in which it is read. -/
structure Situation where
  state : ScopeState
  sentence : Sentence
  /-- The head that the sentence turned into its body. -/
  leftHead : Option Scope := none

namespace Situation

abbrev Rule := Situation → Option Move

def kind (s : Situation) : Sentence.Kind := s.sentence.kind

def text (s : Situation) : String := s.sentence.text

def head (s : Situation) : String := s.sentence.head

def body (s : Situation) : String := s.sentence.body

/-- The body, if there is one. -/
def body? (s : Situation) : Option String :=
  if s.body.isEmpty then none else some s.body

def current (s : Situation) : Scope := s.state.nesting.current

/-- A move that emits one unit. -/
def unit (unit : SemanticUnit) : Option Move := some (.emit [unit])

def contentRule : Rule := fun s =>
  match s.kind with
  | .comment => unit (.comment s.text)
  | .compilerFlag => unit (.compilerFlag s.text)
  | .targetCode => unit (.targetCode s.text)
  | _ => none

/-- Strings are literals by their kind, everything else by its text. -/
def literalRule : Rule := fun s =>
  match s.kind with
  | .string .double => unit (.safeString s.text)
  | .string .single => unit (.normalString s.text)
  | _ => (Literal.read? s.text).map fun literal => .emit [literal]

def accessorRule : Rule := fun s =>
  match s.kind with
  | .accessorStart => some (.opens .accessor)
  | .accessorMember | .accessorLastItem => unit (.accessor (AccessorPath.ofText s.text))
  | .accessorAssignment => unit .accessorAssignment
  | .accessorEnd => some .closeAccessor
  | _ => none

def compoundRule : Rule := fun s =>
  match s.kind, s.text with
  | .opening, "array" => some (.opens .array)
  | .opening, "object" => some (.opens .object)
  | _, _ => none

def operatorRule : Rule := fun s =>
  match s.kind with
  | .parenthesesStart => unit .parenthesesStart
  | .parenthesesEnd => unit .parenthesesEnd
  | .logical operator => unit (.logical operator)
  | .calculation operator => unit (.calculation operator)
  | .comparison operator => unit (.comparison operator)
  | _ => none

/-- Keywords in front of a semicolon. -/
def closingRule : Rule := fun s =>
  if s.kind = .closing then
    match s.text with
    | "break" => unit .breakKeyword
    | "continue" => unit .continueKeyword
    | "return" => unit .returnKeyword
    | _ =>
      s.body?.bind fun body =>
        match s.head with
        | "import" => unit (.importSource body)
        | "language" => unit (.languageDefinition body)
        | "module" => unit (.moduleName body)
        | "section" => unit (.sectionMarker body)
        | "returns" => unit (.functionTypeReturn body)
        | _ => none
  else none

/-- Inside a command body any text names a command. -/
def command? (s : Situation) : Option Move :=
  if s.current = .commandBody ∧ s.text.isEmpty = false then unit (.command s.text) else none

/-- Opening sentences known by their head. A `returns` that nothing awaits is left to the rules
further down. -/
def openingByHead? (s : Situation) : Option Move :=
  match s.head, s.body? with
  -- These two may carry their subject or value behind the colon instead.
  | "switch", subject => some (.opens (.switch subject))
  | "case", value => some (.caseHead value)
  | _, none => s.command?
  | "take", some iterator => some (.opens (.loopBody iterator))
  | "function", some name =>
    if s.current.admitsDefinitions then some (.announces .function name) else s.command?
  | "method", some name =>
    if s.current = .classBody ∨ s.current = .structBody then some (.announces .method name)
    else s.command?
  | "returns", some returnType =>
    s.state.awaiting.map fun awaited => .startsBody awaited.routine returnType
  | "struct", some name => some (.opens (.structBody name))
  | "class", some name => some (.opens (.classBody name))
  | "type", some name => some (.opens (.typeDefinition name))
  | _, some _ => s.command?

/-- Keywords in front of a colon. -/
def openingRule : Rule := fun s =>
  if s.kind = .opening then
    match s.text with
    | "if" => some (.opens .ifBlock)
    | "elif" => some .elif
    | "else" => some (.emit [.elseHead, .ifBodyStart])
    | "then" => unit .ifBodyStart
    | "while" => unit .whileLoopHead
    -- The body of a case and the body of a loop start alike; the head before them tells which.
    | "do" =>
      if s.leftHead = some .caseHead then unit .caseBodyStart else some (.opens .whileBody)
    | "continue" => unit .continueKeyword
    | "return" => unit .returnKeyword
    | "default" => some (.opens .defaultCase)
    | "function" => unit .functionTypeDefinition
    | "command" =>
      if s.current.admitsDefinitions then some (.opens .commands) else s.openingByHead?
    | _ => s.openingByHead?
  else none

/-- Keywords in front of a comma. -/
def enumeratingRule : Rule := fun s =>
  if s.kind = .enumerating then
    s.body?.bind fun body =>
      if s.head = "case" then some (.caseHead (some body))
      else (Traversal.ofName? s.head).map fun kind => .emit [.loopHead kind body]
  else none

def assignmentRule : Rule := fun s =>
  if s.kind = .assignmentKey then some (.assigns s.text) else none

/-- A declaration names a type and a variable. Without a variable it assigns nothing. -/
def declarationRule : Rule := fun s =>
  if s.kind = .opening ∧ (s.head = "constant" ∨ s.head = "mutable")
      ∧ s.current.admitsDefinitions then
    s.body?.map fun body =>
      let isMutable := s.head == "mutable"
      match Text.cutFirst ' ' body.toList with
      | some (dataType, name) =>
        .opens (.declaration isMutable (String.ofList dataType) (String.ofList name))
      | none => .emit [.variableDeclaration isMutable body none]
  else none

def callRule : Rule := fun s =>
  if s.kind = .opening ∨ s.kind = .closing then
    s.body?.bind fun body =>
      match s.head with
      | "call" => some (.opens (.call body))
      | "new" => some (.opens (.construction body))
      | _ => none
  else none

def endMarkerRule : Rule := fun s =>
  if s.head = "end" then (Scope.ofTag? s.body).map .closes else none

def twoWordRule : Rule := fun s =>
  s.body?.bind fun body =>
    if ' ' ∈ body.toList then none else unit (.twoWordCluster s.head body)

def referenceRule : Rule := fun s =>
  if s.text.isEmpty ∨ ' ' ∈ s.text.toList then none else unit (.reference s.text)

def rules : List Rule :=
  [contentRule, literalRule, accessorRule, compoundRule, operatorRule, closingRule, openingRule,
   enumeratingRule, assignmentRule, declarationRule, callRule, endMarkerRule, twoWordRule,
   referenceRule]

/-- The move of the first rule that knows the sentence. -/
def move (s : Situation) : Move :=
  (rules.findSome? fun rule => rule s).getD .unknown

end Situation

end Clausal
