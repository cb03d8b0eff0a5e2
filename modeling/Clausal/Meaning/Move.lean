import Clausal.Finding
import Clausal.Meaning.Policy
import Clausal.Scope.Nesting
import Clausal.SemanticUnit.Basic

/-! What a sentence does to the scopes, and the units it leaves behind.

Reading a sentence is split in two. Rules choose a `Move`; performing the move changes the scopes
and consults the options. Afterwards the punctuation of the sentence may close further scopes, which
depends on its kind alone.
-/

set_option autoImplicit false

namespace Clausal

/-- A routine whose head was read and whose `returns` sentence is still to come. -/
structure AwaitedReturns where
  routine : Routine
  span : Span
  deriving DecidableEq

/-- What later sentences can see of earlier ones. -/
structure ScopeState where
  nesting : Nesting := {}
  awaiting : Option AwaitedReturns := none
  deriving DecidableEq

/-- The constructs that open a scope as soon as they are named. -/
inductive Opener where
  | accessor
  | array
  | object
  | ifBlock
  | whileBody
  | loopBody (iterator : String)
  | switch (subject : Option String)
  | defaultCase
  | structBody (name : String)
  | classBody (name : String)
  | typeDefinition (name : String)
  | commands
  | call (name : String)
  | construction (typeName : String)
  | declaration (isMutable : Bool) (dataType name : String)
  deriving DecidableEq

namespace Opener

def scope : Opener → Scope
  | .accessor => .accessor
  | .array => .arrayBody
  | .object => .objectBody
  | .ifBlock => .ifBlockBody
  | .whileBody => .loopBody
  | .loopBody _ => .loopBody
  | .switch _ => .switchHead
  | .defaultCase => .caseBody
  | .structBody _ => .structBody
  | .classBody _ => .classBody
  | .typeDefinition _ => .typeDefinition
  | .commands => .commandBody
  | .call _ => .functionCall
  | .construction _ => .functionCall
  | .declaration _ _ _ => .assignment

def units : Opener → List SemanticUnit
  | .accessor => [.accessorStart]
  | .array => [.arrayStart]
  | .object => [.objectStart]
  | .ifBlock => [.ifHead]
  | .whileBody => [.whileBodyStart]
  | .loopBody iterator => [.loopIteratorName iterator, .loopBodyStart]
  | .switch subject => [.switchHead subject]
  | .defaultCase => [.defaultCaseHead, .caseBodyStart]
  | .structBody name => [.structHead name]
  | .classBody name => [.classHead name]
  | .typeDefinition name => [.typeDefinitionStart name]
  | .commands => [.commandHead]
  | .call name => [.functionCallStart name]
  | .construction typeName => [.objectConstructionStart typeName]
  | .declaration isMutable dataType name => [.variableDeclaration isMutable dataType (some name)]

end Opener

namespace Routine

def headUnit (name : String) : Routine → SemanticUnit
  | .function => .functionHead name
  | .method => .methodHead name

def bodyScope : Routine → Scope
  | .function => .functionBody
  | .method => .methodBody

/-- The units of the sentence that opens the body. -/
def bodyUnits (returnType : String) : Routine → List SemanticUnit
  | .function => [.functionReturnType returnType, .functionBodyStart]
  | .method => [.functionReturnType returnType, .methodBodyStart]

end Routine

inductive Move where
  /-- Leave the scopes alone. -/
  | emit (units : List SemanticUnit)
  | opens (opener : Opener)
  | closeAccessor
  /-- An explicit end marker. -/
  | closes (requested : Scope)
  /-- Replace the innermost if block by another one. -/
  | elif
  /-- A case. Consecutive cases share one head. -/
  | caseHead (value : Option String)
  /-- The head of a routine. -/
  | announces (routine : Routine) (name : String)
  /-- The `returns` sentence of an awaited routine. -/
  | startsBody (routine : Routine) (returnType : String)
  /-- A key. It ends an assignment that is still open. -/
  | assigns (key : String)
  /-- No rule knows the sentence. -/
  | unknown
  deriving DecidableEq

/-- What reading a sentence yields. -/
structure Reading where
  units : List SemanticUnit
  state : ScopeState
  notices : List Notice := []
  deriving DecidableEq

/-- What reading a sentence leaves when it is refused: why, and all that was done up to there. -/
structure Refusal where
  fault : Fault
  state : ScopeState
  notices : List Notice := []
  deriving DecidableEq

namespace ScopeState

def push (state : ScopeState) (scope : Scope) : ScopeState :=
  { state with nesting := state.nesting.push scope }

def pop (state : ScopeState) : ScopeState :=
  { state with nesting := state.nesting.pop }

/-- Close the innermost scope on request. A scope of another kind closes only under the lenient
policy, and the outermost scope never does. -/
def close (options : Options) (state : ScopeState) (sentence : Sentence) (requested : Scope)
    (unit : Scope → SemanticUnit) : Except Refusal Reading :=
  match state.nesting.top? with
  | none => .error { fault := .underflow requested, state }
  | some found =>
    if found.closesAs requested then .ok { units := [unit found.body], state := state.pop }
    else
      match options.mismatches with
      | .strict => .error { fault := .mismatchedEnd requested found, state }
      | .lenient =>
        .ok
          { units := [unit found.body]
            state := state.pop
            notices := [⟨.mismatchedEnd requested found, some sentence.span⟩] }

/-- Leave the innermost if block for its next branch. Under the lenient policy a branch elsewhere
opens a block of its own. -/
def elif (options : Options) (state : ScopeState) (sentence : Sentence) :
    Except Refusal Reading :=
  match state.nesting.leave? .ifBlockBody with
  | some outer =>
    .ok { units := [.elifHead], state := { state with nesting := outer.push .ifBlockBody } }
  | none =>
    let found := state.nesting.current
    match options.mismatches with
    | .strict => .error { fault := .misplacedElif found, state }
    | .lenient =>
      .ok
        { units := [.elifHead]
          state := state.push .ifBlockBody
          notices := [⟨.misplacedElif found, some sentence.span⟩] }

/-- The reading of a sentence that no rule knows. Without text it means nothing at all. -/
def unknown (options : Options) (state : ScopeState) (sentence : Sentence) :
    Except Refusal Reading :=
  if sentence.text.isEmpty then .ok { units := [], state }
  else
    match options.unknown with
    | .degrade =>
      .ok
        { units := [.unknown sentence.text]
          state
          notices := [⟨.unknownSentence sentence.kind sentence.text, some sentence.span⟩] }
    | .reject => .error { fault := .unrecognized sentence.text, state }

/-- Perform a move. -/
def perform (options : Options) (state : ScopeState) (sentence : Sentence) :
    Move → Except Refusal Reading
  | .emit units => .ok { units, state }
  | .opens opener => .ok { units := opener.units, state := state.push opener.scope }
  | .closeAccessor => state.close options sentence .accessor fun _ => .accessorEnd
  | .closes requested => state.close options sentence requested .endMarker
  | .elif => state.elif options sentence
  | .caseHead value =>
    .ok
      { units := [.caseHead value]
        state := if state.nesting.current = .caseHead then state else state.push .caseHead }
  | .announces routine name =>
    .ok
      { units := [routine.headUnit name]
        state := { state with awaiting := some ⟨routine, sentence.span⟩ } }
  | .startsBody routine returnType =>
    .ok
      { units := routine.bodyUnits returnType
        state := { nesting := state.nesting.push routine.bodyScope, awaiting := none } }
  | .assigns key =>
    match state.nesting.leave? .assignment with
    | some outer =>
      .ok
        { units := [.assignmentEnd, .assignmentKey key]
          state := { state with nesting := outer.push .assignment } }
    | none => .ok { units := [.assignmentKey key], state := state.push .assignment }
  | .unknown => state.unknown options sentence

end ScopeState

namespace Reading

/-- Whether the first unit is an end marker. -/
def isEndMarker (reading : Reading) : Bool :=
  match reading.units with
  | .endMarker _ :: _ => true
  | _ => false

/-- Close what a semicolon closes. If that is nothing, the semicolon is a unit of its own. -/
def endStatement (reading : Reading) : Reading :=
  let (closed, nesting) := reading.state.nesting.splitStatement
  let ends := closed.filterMap Scope.endUnit?
  { reading with
    units := reading.units ++ if ends.isEmpty then [.closing] else ends
    state := { reading.state with nesting } }

/-- Close the assignment that a comma ends. -/
def endElement (reading : Reading) : Reading :=
  match reading.state.nesting.leave? .assignment with
  | some nesting =>
    { reading with
      units := reading.units ++ [.assignmentEnd]
      state := { reading.state with nesting } }
  | none => reading

/-- What the punctuation of a sentence adds to its reading. An end marker has closed its scope
already. -/
def punctuate (reading : Reading) (kind : Sentence.Kind) : Reading :=
  match kind with
  | .closing => if reading.isEndMarker then reading else reading.endStatement
  | .enumerating => reading.endElement
  | _ => reading

end Reading

end Clausal
