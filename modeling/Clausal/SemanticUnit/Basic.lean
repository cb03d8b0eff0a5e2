import Clausal.Number.Shortest
import Clausal.Operator
import Clausal.Scope.Basic
import Clausal.Text.Quoted

/-! Semantic units, the values a program is turned into.

The stream of units is flat. A block is a head, possibly a unit that starts its body, and an end
marker, rather than a tree.
-/

set_option autoImplicit false

namespace Clausal

/-- The keywords that denote a falsy value. -/
inductive Falsy where
  | undefined
  | null
  | nan
  | void
  deriving DecidableEq

namespace Falsy

def name : Falsy → String
  | .undefined => "undefined"
  | .null => "null"
  | .nan => "NaN"
  | .void => "void"

def ofName? : String → Option Falsy
  | "undefined" => some .undefined
  | "null" => some .null
  | "NaN" => some .nan
  | "void" => some .void
  | _ => none

end Falsy

/-- What a loop runs over: indices, items, or up to a bound. -/
inductive Traversal where
  | count
  | walk
  | until
  deriving DecidableEq

namespace Traversal

def name : Traversal → String
  | .count => "count"
  | .walk => "walk"
  | .until => "until"

def ofName? : String → Option Traversal
  | "count" => some .count
  | "walk" => some .walk
  | "until" => some .until
  | _ => none

end Traversal

/-- A path from an item through its members, ending in a method call if it has a method. -/
structure AccessorPath where
  item : String
  members : List String := []
  method : Option String := none
  parameters : List String := []
  deriving DecidableEq

/-- The written path. Parameters are shown only behind a method. -/
def AccessorPath.render (path : AccessorPath) : String :=
  path.item ++ String.join (path.members.map ("." ++ ·)) ++
    match path.method with
    | none => ""
    | some method =>
      if path.parameters.isEmpty then " " ++ method
      else " " ++ method ++ ": " ++ ", ".intercalate path.parameters

inductive SemanticUnit where
  | comment (content : String)
  | compilerFlag (flag : String)
  | targetCode (code : String)
  | boolean (value : Bool)
  | falsy (value : Falsy)
  | integer (value : Nat)
  | float (value : Binary64)
  | safeString (content : String)
  | normalString (content : String)
  | accessorStart
  | accessor (path : AccessorPath)
  | accessorAssignment
  | accessorEnd
  | arrayStart
  | arrayEnd
  | objectStart
  | objectEnd
  | parenthesesStart
  | parenthesesEnd
  | logical (operator : Logical)
  | calculation (operator : Calculation)
  | comparison (operator : Comparison)
  | breakKeyword
  | continueKeyword
  | returnKeyword
  | ifHead
  | elifHead
  | elseHead
  | ifBodyStart
  | whileLoopHead
  | whileBodyStart
  | loopHead (kind : Traversal) (iterable : String)
  | loopIteratorName (name : String)
  | loopBodyStart
  | switchHead (subject : Option String)
  | caseHead (value : Option String)
  | defaultCaseHead
  | caseBodyStart
  | functionHead (name : String)
  | methodHead (name : String)
  | functionReturnType (returnType : String)
  | functionBodyStart
  | methodBodyStart
  | functionTypeDefinition
  | functionTypeReturn (returnType : String)
  | structHead (name : String)
  | classHead (name : String)
  | typeDefinitionStart (name : String)
  | typeDefinitionEnd
  | commandHead
  | command (name : String)
  | importSource (source : String)
  | languageDefinition (language : String)
  | moduleName (name : String)
  | sectionMarker (name : String)
  | variableDeclaration (isMutable : Bool) (dataType : String) (name : Option String)
  | assignmentKey (key : String)
  | assignmentEnd
  | functionCallStart (name : String)
  | objectConstructionStart (typeName : String)
  | functionCallEnd
  | endMarker (scope : Scope)
  | twoWordCluster (first second : String)
  | reference (name : String)
  | closing
  | unknown (text : String)
  deriving DecidableEq

namespace SemanticUnit

/-- An optional last word, with the space in front of it. -/
def optionalWord : Option String → String
  | some word => " " ++ word
  | none => ""

/-- The line that shows a unit. Free text is quoted, names are not. -/
def render : SemanticUnit → String
  | .comment content => "comment " ++ Text.quoted content
  | .compilerFlag flag => "compiler-flag " ++ Text.quoted flag
  | .targetCode code => "target-language-code " ++ Text.quoted code
  | .boolean true => "boolean true"
  | .boolean false => "boolean false"
  | .falsy value => "falsy " ++ value.name
  | .integer value => "integer " ++ toString value
  | .float value => "float " ++ value.render
  | .safeString content => "safe-string " ++ Text.quoted content
  | .normalString content => "normal-string " ++ Text.quoted content
  | .accessorStart => "accessor-start"
  | .accessor path => "accessor " ++ path.render
  | .accessorAssignment => "accessor-assignment-marker"
  | .accessorEnd => "accessor-end"
  | .arrayStart => "array-start"
  | .arrayEnd => "array-end"
  | .objectStart => "object-start"
  | .objectEnd => "object-end"
  | .parenthesesStart => "parentheses-start"
  | .parenthesesEnd => "parentheses-end"
  | .logical operator => "boolean-operator " ++ operator.name
  | .calculation operator => "calculation " ++ operator.name
  | .comparison operator => "comparison " ++ operator.name
  | .breakKeyword => "break-keyword"
  | .continueKeyword => "continue-keyword"
  | .returnKeyword => "return-keyword"
  | .ifHead => "if-head"
  | .elifHead => "elif-head"
  | .elseHead => "else-head"
  | .ifBodyStart => "if-body-start"
  | .whileLoopHead => "while-loop-head"
  | .whileBodyStart => "while-body-start"
  | .loopHead kind iterable => "loop-head " ++ kind.name ++ " " ++ iterable
  | .loopIteratorName name => "loop-iterator-name " ++ name
  | .loopBodyStart => "loop-body-start"
  | .switchHead subject => "switch-head" ++ optionalWord subject
  | .caseHead value => "case-head" ++ optionalWord value
  | .defaultCaseHead => "default-case-head"
  | .caseBodyStart => "case-body-start"
  | .functionHead name => "function-head " ++ name
  | .methodHead name => "method-head " ++ name
  | .functionReturnType returnType => "function-return-type " ++ returnType
  | .functionBodyStart => "function-body-start"
  | .methodBodyStart => "method-body-start"
  | .functionTypeDefinition => "function-type-definition"
  | .functionTypeReturn returnType => "function-type-return " ++ returnType
  | .structHead name => "struct-head " ++ name
  | .classHead name => "class-head " ++ name
  | .typeDefinitionStart name => "type-definition-start " ++ name
  | .typeDefinitionEnd => "type-definition-end"
  | .commandHead => "command-head"
  | .command name => "command " ++ name
  | .importSource source => "import " ++ source
  | .languageDefinition language => "language-definition " ++ language
  | .moduleName name => "module-name-definition " ++ name
  | .sectionMarker name => "section-marker " ++ name
  | .variableDeclaration isMutable dataType name =>
    "variable-declaration " ++ (if isMutable then "mutable " else "constant ") ++ dataType
      ++ optionalWord name
  | .assignmentKey key => "assignment-key " ++ key
  | .assignmentEnd => "assignment-end"
  | .functionCallStart name => "function-call-start " ++ name
  | .objectConstructionStart typeName => "object-construction-start " ++ typeName
  | .functionCallEnd => "function-call-end"
  | .endMarker scope => "end-marker " ++ scope.name
  | .twoWordCluster first second => "two-word-cluster " ++ first ++ " " ++ second
  | .reference name => "reference " ++ name
  | .closing => "closing"
  | .unknown text => "unknown " ++ Text.quoted text

end SemanticUnit

/-- The unit that stands for closing the scope by a semicolon or a comma, for the scopes that can be
closed so. -/
def Scope.endUnit? : Scope → Option SemanticUnit
  | .assignment => some .assignmentEnd
  | .arrayBody => some .arrayEnd
  | .objectBody => some .objectEnd
  | .functionCall => some .functionCallEnd
  | .typeDefinition => some .typeDefinitionEnd
  | _ => none

theorem Scope.endUnit?_isSome {scope : Scope} (ends : scope.endsWithStatement = true) :
    scope.endUnit?.isSome = true := by
  cases scope <;> simp_all [Scope.endsWithStatement, Scope.endUnit?]

end Clausal
