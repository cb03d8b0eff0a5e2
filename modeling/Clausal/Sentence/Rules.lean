import Clausal.Sentence.Scanner

/-! The rules that decide what a character does.

The rules are asked in order, and the first that claims the character decides. The last one claims
every character, so the order never runs out.
-/

set_option autoImplicit false

namespace Clausal

namespace Scanner

/-- A rule sees the state, the character and the one after it. -/
abbrev Rule := Scanner → Char → Option Char → Option Action

/-- An open region claims everything. -/
def regionRule : Rule := fun s c next =>
  s.region.map fun region =>
    match region.fate s.escaped c next with
    | .kept => .keep
    | .dropped => .drop
    | .closes => .leave region

def regionStartRule : Rule := fun s c _ =>
  (Region.ofOpening? s.escaped c).map .enter

/-- Arithmetic and comparison operators need white space in front of them. An equals sign after one
belongs to it. -/
def operatorRule : Rule := fun s c next =>
  if s.isBare ∧ s.previous.any Text.isWhite then
    -- Only one equals sign is taken, so `<==` leaves the second one to the rules that follow.
    let equals := next == some '='
    let calculation := (Calculation.ofChar? c).map fun operator =>
      .calculation (if equals then operator.storing else operator)
    let comparison := (Comparison.ofChar? c equals).map .comparison
    (calculation <|> comparison).map fun kind => .mark kind equals
  else none

def logicalRule : Rule := fun s c next =>
  if s.isBare then
    -- Behind white space `!=` was a comparison already. A lone `&` or `|` is text.
    if c = '!' then some (.mark (.logical .not) false)
    else if c = '&' ∧ next = some '&' then some (.mark (.logical .and) true)
    else if c = '|' ∧ next = some '|' then some (.mark (.logical .or) true)
    else none
  else none

def parenthesesRule : Rule := fun s c _ =>
  if s.isBare then
    if c = '(' then some (.mark .parenthesesStart false)
    else if c = ')' then some (.mark .parenthesesEnd false)
    else none
  else none

/-- An accessor is opened by a bracket. Inside it only the closing bracket and the equals sign are
punctuation. -/
def accessorRule : Rule := fun s c _ =>
  match s.accessor with
  | none => if c = '[' then some .openAccessor else none
  | some _ =>
    -- Colons, commas and further opening brackets are part of the path.
    some (if c = ']' then .closeAccessor
      else if c = '=' then .mark .accessorAssignment false
      else .fold)

def terminatorRule : Rule := fun _ c _ =>
  if c = ';' then some (.terminate .closing)
  else if c = ':' then some (.terminate .opening)
  else if c = ',' then some (.terminate .enumerating)
  else none

/-- An equals sign ends a key only with white space on both sides. -/
def assignmentRule : Rule := fun s c next =>
  if c = '=' ∧ s.previous.any Text.isWhite ∧ next.any Text.isWhite then
    some (.terminate .assignmentKey)
  else none

def textRule : Rule := fun _ _ _ => some .fold

def rules : List Rule :=
  [regionRule, regionStartRule, operatorRule, logicalRule, parenthesesRule, accessorRule,
   terminatorRule, assignmentRule, textRule]

/-- The decision of the first rule that claims the character. -/
def action? (s : Scanner) (c : Char) (next : Option Char) : Option Action :=
  rules.findSome? fun rule => rule s c next

theorem action?_isSome (s : Scanner) (c : Char) (next : Option Char) :
    (s.action? c next).isSome = true := by
  rw [action?, List.findSome?_isSome_iff]
  exact ⟨textRule, by simp [rules], rfl⟩

end Scanner

end Clausal
