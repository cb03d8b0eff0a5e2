import Clausal.Scope.Basic

/-! The open scopes, one inside the other.

Below everything lies one scope with the grammar of a function body. It is not stored, so it cannot
be left.
-/

set_option autoImplicit false

namespace Clausal

/-- The open scopes above the outermost one, innermost first. -/
structure Nesting where
  scopes : List Scope := []
  deriving DecidableEq

namespace Nesting

/-- The scope below all others. -/
def outermost : Scope := .functionBody

def empty : Nesting := {}

def current (nesting : Nesting) : Scope :=
  nesting.scopes.headD outermost

/-- The number of open scopes, the outermost one included. -/
def depth (nesting : Nesting) : Nat :=
  nesting.scopes.length + 1

def push (nesting : Nesting) (scope : Scope) : Nesting :=
  ⟨scope :: nesting.scopes⟩

/-- Leave the innermost scope; the outermost one stays. -/
def pop (nesting : Nesting) : Nesting :=
  ⟨nesting.scopes.tail⟩

/-- The innermost scope, unless only the outermost one is open. -/
def top? (nesting : Nesting) : Option Scope :=
  nesting.scopes.head?

/-- Leave the innermost scope, if it is `scope`. -/
def leave? (nesting : Nesting) (scope : Scope) : Option Nesting :=
  if nesting.top? = some scope then some nesting.pop else none

/-- The innermost scope, if it is a head that may still turn into its body. -/
def openHead? (nesting : Nesting) : Option Scope :=
  nesting.top?.filter Scope.isHead

/-- Turn an innermost head into its body. -/
def enterBody (nesting : Nesting) : Nesting :=
  match nesting.scopes with
  | [] => nesting
  | scope :: outer => ⟨scope.body :: outer⟩

/-- All open scopes, outermost first. -/
def toList (nesting : Nesting) : List Scope :=
  outermost :: nesting.scopes.reverse

def render (nesting : Nesting) : String :=
  "[" ++ ", ".intercalate (nesting.toList.map Scope.name) ++ "]"

/-- Divide the open scopes into those that a semicolon closes, innermost first, and the rest.

It closes the assignments on top, at most one scope below them that ends with its statement, and the
assignments whose value that scope was. -/
def splitStatement (nesting : Nesting) : List Scope × Nesting :=
  let assignments := nesting.scopes.takeWhile (· == .assignment)
  match nesting.scopes.dropWhile (· == .assignment) with
  | [] => (assignments, ⟨[]⟩)
  | scope :: outer =>
    if scope.endsWithStatement then
      (assignments ++ scope :: outer.takeWhile (· == .assignment),
        ⟨outer.dropWhile (· == .assignment)⟩)
    else (assignments, ⟨scope :: outer⟩)

@[simp] theorem current_push (nesting : Nesting) (scope : Scope) :
    (nesting.push scope).current = scope := rfl

@[simp] theorem pop_push (nesting : Nesting) (scope : Scope) : (nesting.push scope).pop = nesting :=
  rfl

@[simp] theorem depth_push (nesting : Nesting) (scope : Scope) :
    (nesting.push scope).depth = nesting.depth + 1 := rfl

@[simp] theorem depth_enterBody (nesting : Nesting) : nesting.enterBody.depth = nesting.depth := by
  obtain ⟨scopes⟩ := nesting
  cases scopes <;> rfl

/-- Only heads change when their body is entered. -/
theorem enterBody_eq_self {nesting : Nesting} (no_head : nesting.openHead? = none) :
    nesting.enterBody = nesting := by
  obtain ⟨scopes⟩ := nesting
  cases scopes with
  | nil => rfl
  | cons scope outer =>
    have plain : scope.isHead = false := by
      simpa [openHead?, top?, Option.filter] using no_head
    simp [enterBody, (Scope.body_eq_self_iff scope).mpr plain]

/-- Nothing is lost when the nesting is divided. -/
theorem splitStatement_append (nesting : Nesting) :
    nesting.splitStatement.1 ++ nesting.splitStatement.2.scopes = nesting.scopes := by
  have whole := nesting.scopes.takeWhile_append_dropWhile (p := (· == Scope.assignment))
  unfold splitStatement
  split
  · next none_left => simpa [none_left] using whole
  · next scope outer found =>
    rw [found] at whole
    split
    · simpa using whole
    · exact whole

end Nesting

end Clausal
