/-! The kinds of scopes a program nests. -/

set_option autoImplicit false

namespace Clausal

/-- A kind of scope. The two heads collect what stands between a keyword and its body. -/
inductive Scope where
  | functionBody
  | methodBody
  | loopBody
  | ifBlockBody
  | switchHead
  | switchBody
  | caseHead
  | caseBody
  | structBody
  | classBody
  | commandBody
  | arrayBody
  | objectBody
  | accessor
  | assignment
  | functionCall
  | typeDefinition
  deriving DecidableEq

namespace Scope

def name : Scope → String
  | .functionBody => "function-body"
  | .methodBody => "method-body"
  | .loopBody => "loop-body"
  | .ifBlockBody => "if-block-body"
  | .switchHead => "switch-head"
  | .switchBody => "switch-body"
  | .caseHead => "case-head"
  | .caseBody => "case-body"
  | .structBody => "struct-body"
  | .classBody => "class-body"
  | .commandBody => "command-body"
  | .arrayBody => "array-body"
  | .objectBody => "object-body"
  | .accessor => "accessor"
  | .assignment => "assignment"
  | .functionCall => "function-call"
  | .typeDefinition => "type-definition"

def all : List Scope :=
  [.functionBody, .methodBody, .loopBody, .ifBlockBody, .switchHead, .switchBody, .caseHead,
   .caseBody, .structBody, .classBody, .commandBody, .arrayBody, .objectBody, .accessor,
   .assignment, .functionCall, .typeDefinition]

theorem mem_all (scope : Scope) : scope ∈ all := by
  cases scope <;> decide

def ofName? (name : String) : Option Scope :=
  all.find? fun scope => scope.name == name

/-- The scope that an end marker with the given tag closes. -/
def ofTag? : String → Option Scope
  | "fn" => some .functionBody
  | "method" => some .methodBody
  | "loop" => some .loopBody
  | "if" => some .ifBlockBody
  | "switch" => some .switchBody
  | "case" => some .caseBody
  | "struct" => some .structBody
  | "class" => some .classBody
  | "cmd" => some .commandBody
  | "array" => some .arrayBody
  | "object" => some .objectBody
  | "type" => some .typeDefinition
  | "call" => some .functionCall
  | _ => none

/-- Whether statements in the scope follow the grammar of a function body, so that declarations and
function heads may stand there. -/
def admitsDefinitions : Scope → Bool
  | .functionBody | .methodBody | .loopBody | .ifBlockBody | .caseBody => true
  | _ => false

/-- Whether a semicolon closes the scope without an end marker. -/
def endsWithStatement : Scope → Bool
  | .arrayBody | .objectBody | .functionCall | .typeDefinition => true
  | _ => false

def isHead : Scope → Bool
  | .switchHead | .caseHead => true
  | _ => false

/-- The body that a head turns into; every other scope is its own body. -/
def body : Scope → Scope
  | .switchHead => .switchBody
  | .caseHead => .caseBody
  | scope => scope

/-- Whether a request to close `requested` may close this scope. A head may be closed as its
body. -/
def closesAs (scope requested : Scope) : Bool :=
  scope == requested || scope.body == requested

@[simp] theorem body_body (scope : Scope) : scope.body.body = scope.body := by
  cases scope <;> rfl

theorem body_eq_self_iff (scope : Scope) : scope.body = scope ↔ scope.isHead = false := by
  cases scope <;> decide

end Scope

end Clausal
