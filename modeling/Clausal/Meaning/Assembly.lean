import Clausal.Meaning.Rules

/-! Assembling a program from its sentences.

Sentences are read in order. All that a sentence sees of those before it is the state of the scopes.
-/

set_option autoImplicit false

namespace Clausal

namespace ScopeState

/-- Whether the sentence is a further case of the case head that is open. -/
def sharesCase (state : ScopeState) (sentence : Sentence) : Bool :=
  sentence.head == "case" && state.nesting.current == .caseHead

/-- Whether an open head turns into its body before the sentence is read. An opening sentence
belongs to the body, unless it is a further case of the same head. -/
def leavesHead (state : ScopeState) (sentence : Sentence) : Bool :=
  sentence.kind == .opening && !state.sharesCase sentence

/-- The state in which a sentence is read. -/
def enter (state : ScopeState) (sentence : Sentence) : ScopeState :=
  if state.leavesHead sentence then { state with nesting := state.nesting.enterBody } else state

/-- The sentence in the state in which it is read. -/
def situation (state : ScopeState) (sentence : Sentence) : Situation :=
  { state := state.enter sentence
    sentence
    leftHead := if state.leavesHead sentence then state.nesting.openHead? else none }

/-- Read one sentence. -/
def read (options : Options) (state : ScopeState) (sentence : Sentence) :
    Except Refusal Reading :=
  let situation := state.situation sentence
  (situation.state.perform options sentence situation.move).map fun reading =>
    reading.punctuate sentence.kind

end ScopeState

/-- The units of a program, what was found on the way, and the scopes left open, innermost
first. -/
structure Assembled where
  units : List SemanticUnit
  notices : List Notice
  openScopes : List Scope
  deriving DecidableEq

structure Assembler where
  options : Options := {}
  state : ScopeState := {}
  units : Array SemanticUnit := #[]
  notices : Array Notice := #[]

namespace Assembler

/-- Read the sentence with the given index, and return the units it adds. A sentence that is refused
adds none, but what it did to the scopes and gave notice of up to there stays. -/
def add (assembler : Assembler) (index : Nat) (sentence : Sentence) :
    Assembler × Except Rejection (List SemanticUnit) :=
  match assembler.state.read assembler.options sentence with
  | .ok reading =>
    ({ assembler with
       state := reading.state
       units := assembler.units ++ reading.units
       notices := assembler.notices ++ reading.notices },
      .ok reading.units)
  | .error refusal =>
    ({ assembler with
       state := refusal.state
       notices := assembler.notices ++ refusal.notices },
      .error ⟨index, refusal.fault⟩)

/-- Read sentences numbered from `index`, up to the first fault. -/
def addAll (assembler : Assembler) (index : Nat) : List Sentence → Except Rejection Assembler
  | [] => .ok assembler
  | sentence :: rest =>
    match assembler.add index sentence with
    | (next, .ok _) => next.addAll (index + 1) rest
    | (_, .error rejection) => .error rejection

/-- What the end of the program leaves to report: a routine without a body, and open scopes. -/
def endNotices (state : ScopeState) : List Notice :=
  let awaited := state.awaiting.toList.map fun awaited =>
    (⟨.missingReturns awaited.routine, some awaited.span⟩ : Notice)
  -- Open scopes are no one place of the source, so their notice has no span.
  let left := state.nesting.scopes
  awaited ++ if left.isEmpty then [] else [⟨.openScopes left, none⟩]

def finish (assembler : Assembler) : Assembled :=
  { units := assembler.units.toList
    notices := assembler.notices.toList ++ endNotices assembler.state
    openScopes := assembler.state.nesting.scopes }

end Assembler

/-- Read a program from its sentences. -/
def assemble (options : Options) (sentences : List Sentence) : Except Rejection Assembled :=
  (({ options } : Assembler).addAll 0 sentences).map Assembler.finish

end Clausal
