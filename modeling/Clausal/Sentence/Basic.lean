import Clausal.Operator
import Clausal.Position
import Clausal.Text.Cut
import Clausal.Text.Quoted

/-! Sentences: runs of source text together with the punctuation that ended them. -/

set_option autoImplicit false

namespace Clausal

/-- The two quotation marks. A double quoted string is called safe, a single quoted one normal. -/
inductive Quote where
  | double
  | single
  deriving DecidableEq

namespace Quote

def char : Quote → Char
  | .double => '"'
  | .single => '\''

def ofChar? : Char → Option Quote
  | '"' => some .double
  | '\'' => some .single
  | _ => none

theorem ofChar?_eq_some_iff {c : Char} {quote : Quote} :
    ofChar? c = some quote ↔ c = quote.char := by
  constructor
  · intro found
    unfold ofChar? at found
    split at found <;> simp_all [char]
    all_goals subst found; rfl
  · rintro rfl
    cases quote <;> rfl

end Quote

inductive Sentence.Kind where
  | comment
  | compilerFlag
  | string (quote : Quote)
  | targetCode
  | opening
  | closing
  | enumerating
  | assignmentKey
  | logical (operator : Logical)
  | calculation (operator : Calculation)
  | comparison (operator : Comparison)
  | parenthesesStart
  | parenthesesEnd
  | accessorStart
  | accessorMember
  | accessorAssignment
  | accessorLastItem
  | accessorEnd
  | unknown
  deriving DecidableEq

namespace Sentence.Kind

def name : Sentence.Kind → String
  | .comment => "comment"
  | .compilerFlag => "compiler-flag"
  | .string .double => "safe-string"
  | .string .single => "normal-string"
  | .targetCode => "target-language-code"
  | .opening => "opening"
  | .closing => "closing"
  | .enumerating => "enumerating"
  | .assignmentKey => "assignment-key"
  | .logical operator => "boolean-operator-" ++ operator.name
  | .calculation operator => "calculation-" ++ operator.name
  | .comparison operator => "comparison-" ++ operator.name
  | .parenthesesStart => "parentheses-start"
  | .parenthesesEnd => "parentheses-end"
  | .accessorStart => "accessor-start"
  | .accessorMember => "accessor-member"
  | .accessorAssignment => "accessor-assignment-marker"
  | .accessorLastItem => "accessor-last-item"
  | .accessorEnd => "accessor-end"
  | .unknown => "unknown"

/-- Every kind, operators spelled out. -/
def all : List Sentence.Kind :=
  [.comment, .compilerFlag, .string .double, .string .single, .targetCode, .opening, .closing,
   .enumerating, .assignmentKey]
  ++ [Logical.and, .or, .not].map .logical
  ++ [Arithmetic.add, .subtract, .multiply, .divide].map (fun op => .calculation ⟨op, false⟩)
  ++ [Arithmetic.add, .subtract, .multiply, .divide].map (fun op => .calculation ⟨op, true⟩)
  ++ [Comparison.lower, .lowerEqual, .greater, .greaterEqual, .notEqual, .isEqual].map .comparison
  ++ [.parenthesesStart, .parenthesesEnd, .accessorStart, .accessorMember, .accessorAssignment,
   .accessorLastItem, .accessorEnd, .unknown]

theorem mem_all (kind : Sentence.Kind) : kind ∈ all := by
  cases kind with
  | string quote => cases quote <;> decide
  | logical operator => cases operator <;> decide
  | calculation operator =>
    obtain ⟨operation, stores⟩ := operator
    cases operation <;> cases stores <;> decide
  | comparison operator => cases operator <;> decide
  | _ => decide

def ofName? (name : String) : Option Sentence.Kind :=
  all.find? fun kind => kind.name == name

/-- Whether a sentence of this kind is kept although nothing is left of its text. -/
def standsAlone : Sentence.Kind → Bool
  | .closing | .accessorStart => true
  | _ => false

def isString : Sentence.Kind → Bool
  | .string _ => true
  | _ => false

/-- Whether the text is a segment of an accessor path. -/
def isPathSegment : Sentence.Kind → Bool
  | .accessorMember | .accessorLastItem => true
  | _ => false

end Sentence.Kind

structure Sentence where
  kind : Sentence.Kind
  text : String
  span : Span
  deriving DecidableEq

namespace Sentence

/-- A sentence that is all punctuation. -/
def marker (kind : Sentence.Kind) (span : Span) : Sentence :=
  ⟨kind, "", span⟩

/-- The text before the first space and the text after it. Without a space all of it is head. -/
def parts (sentence : Sentence) : String × String :=
  match Text.cutFirst ' ' sentence.text.toList with
  | some (head, body) => (String.ofList head, String.ofList body)
  | none => (sentence.text, "")

def head (sentence : Sentence) : String :=
  sentence.parts.1

def body (sentence : Sentence) : String :=
  sentence.parts.2

def render (sentence : Sentence) : String :=
  if sentence.text.isEmpty then sentence.kind.name
  else sentence.kind.name ++ " " ++ Text.quoted sentence.text

end Sentence

end Clausal
