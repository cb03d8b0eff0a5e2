import Clausal.SemanticUnit.Basic

/-! Literal values: the keywords and the numbers. -/

set_option autoImplicit false

namespace Clausal.Literal

/-- The first natural number that is no longer an integer literal. -/
def integerBound : Nat := Nat.pow 2 63

/-- The value of a keyword, if the whole text is one. -/
def keyword? : String → Option SemanticUnit
  | "true" => some (.boolean true)
  | "false" => some (.boolean false)
  | text => (Falsy.ofName? text).map .falsy

/-- The value of a number.

Digits alone are an integer as long as they are below the bound. Anything else is read as a binary64
number first, and it is that number which is an integer if it has no fraction and is below the
bound. -/
def number? (text : String) : Option SemanticUnit :=
  let cs := text.toList
  (Decimal.read? cs).map fun decimal =>
    if '.' ∉ cs ∧ decimal.numerator < integerBound then .integer decimal.numerator
    else
      let rounded := Binary64.ofDecimal decimal
      match rounded.toNat? with
      | some value => if value < integerBound then .integer value else .float rounded
      | none => .float rounded

def read? (text : String) : Option SemanticUnit :=
  keyword? text <|> number? text

end Clausal.Literal
