/-! The operators that stand between the parts of an expression. -/

set_option autoImplicit false

namespace Clausal

inductive Logical where
  | and
  | or
  | not
  deriving DecidableEq

def Logical.name : Logical → String
  | .and => "and"
  | .or => "or"
  | .not => "not"

inductive Arithmetic where
  | add
  | subtract
  | multiply
  | divide
  deriving DecidableEq

namespace Arithmetic

def name : Arithmetic → String
  | .add => "add"
  | .subtract => "subtract"
  | .multiply => "multiply"
  | .divide => "divide"

def ofChar? : Char → Option Arithmetic
  | '+' => some .add
  | '-' => some .subtract
  | '*' => some .multiply
  | '/' => some .divide
  | _ => none

end Arithmetic

/-- An arithmetic operation, which may store its result back into its left operand. -/
structure Calculation where
  operation : Arithmetic
  stores : Bool := false
  deriving DecidableEq

namespace Calculation

def name (calculation : Calculation) : String :=
  if calculation.stores then calculation.operation.name ++ "-assignment"
  else calculation.operation.name

/-- The same operation with its result stored back. -/
def storing (calculation : Calculation) : Calculation :=
  { calculation with stores := true }

def ofChar? (c : Char) : Option Calculation :=
  (Arithmetic.ofChar? c).map fun operation => { operation }

end Calculation

inductive Comparison where
  | lower
  | lowerEqual
  | greater
  | greaterEqual
  | notEqual
  | isEqual
  deriving DecidableEq

namespace Comparison

def name : Comparison → String
  | .lower => "lower"
  | .lowerEqual => "lower-equal"
  | .greater => "greater"
  | .greaterEqual => "greater-equal"
  | .notEqual => "not-equal"
  | .isEqual => "is-equal"

/-- The comparison spelled by a character and, possibly, an equals sign after it. The characters
`!` and `=` compare only together with one. -/
def ofChar? : Char → (equalsFollows : Bool) → Option Comparison
  | '<', false => some .lower
  | '<', true => some .lowerEqual
  | '>', false => some .greater
  | '>', true => some .greaterEqual
  | '!', true => some .notEqual
  | '=', true => some .isEqual
  | _, _ => none

end Comparison

end Clausal
