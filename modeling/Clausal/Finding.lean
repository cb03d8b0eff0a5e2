import Clausal.Scope.Basic
import Clausal.Sentence.Basic

/-! Findings that do not stop a compilation.

A finding is recorded by its cause. Its severity and its wording follow from the cause, so that what
is reported and how it is worded stay apart until a report is written.
-/

set_option autoImplicit false

namespace Clausal

inductive Severity where
  | note
  | warning
  deriving DecidableEq

namespace Severity

def name : Severity → String
  | .note => "note"
  | .warning => "warning"

def ofName? : String → Option Severity
  | "note" => some .note
  | "warning" => some .warning
  | _ => none

/-- The more serious of two severities. -/
def max : Severity → Severity → Severity
  | .note, other => other
  | .warning, _ => .warning

/-- The most serious severity of a list. -/
def highest? : List Severity → Option Severity
  | [] => none
  | severity :: rest => some (rest.foldl max severity)

end Severity

/-- What is said about a source, and about which part of it. -/
structure Diagnostic where
  severity : Severity
  message : String
  span : Option Span := none
  deriving DecidableEq

namespace Diagnostic

def render (diagnostic : Diagnostic) : String :=
  diagnostic.severity.name ++ ": " ++ diagnostic.message

/-- The message, led by the position its span starts at. -/
def locate (diagnostic : Diagnostic) (source : String) : String :=
  match diagnostic.span with
  | some span => (span.position source).render ++ ": " ++ diagnostic.message
  | none => diagnostic.message

end Diagnostic

/-- The two callables, each announced by a head and opened by a `returns` sentence. -/
inductive Routine where
  | function
  | method
  deriving DecidableEq

def Routine.keyword : Routine → String
  | .function => "function"
  | .method => "method"

/-- The causes of findings, first those of cutting a source into sentences, then those of reading
the sentences. -/
inductive Finding where
  | commentAtEnd
  | flagAtEnd
  | openString (quote : Quote)
  | openCode
  | openAccessor
  | missingTerminator (text : String)
  | mismatchedEnd (requested found : Scope)
  | misplacedElif (found : Scope)
  | unknownSentence (kind : Sentence.Kind) (text : String)
  | missingReturns (routine : Routine)
  | openScopes (scopes : List Scope)
  deriving DecidableEq

namespace Finding

def severity : Finding → Severity
  | .commentAtEnd | .flagAtEnd => .note
  | _ => .warning

def message : Finding → String
  | .commentAtEnd => "comment closed by the end of input"
  | .flagAtEnd => "compiler flag closed by the end of input"
  | .openString quote => "unterminated string, expected a closing " ++ quote.char.toString
  | .openCode => "unterminated target language code, expected a closing \x7d"
  | .openAccessor => "unterminated accessor, expected a closing ]"
  | .missingTerminator text => "missing terminator after " ++ Text.quoted text
  | .mismatchedEnd requested found =>
    requested.name ++ " closed while " ++ found.name ++ " is the innermost open scope"
  | .misplacedElif found =>
    "`elif` outside of an if block, the innermost open scope is " ++ found.name
  | .unknownSentence kind text =>
    "could not determine unit of " ++ kind.name ++ " sentence " ++ Text.quoted text
  | .missingReturns routine =>
    "`" ++ routine.keyword ++ "` head is never followed by `returns`"
  | .openScopes scopes =>
    toString scopes.length ++ " scope(s) left open at the end of input: "
      ++ ", ".intercalate (scopes.map Scope.name)

end Finding

/-- A finding about a part of the source. -/
structure Notice where
  finding : Finding
  span : Option Span := none
  deriving DecidableEq

/-- The wording of a notice. -/
def Notice.diagnostic (notice : Notice) : Diagnostic :=
  ⟨notice.finding.severity, notice.finding.message, notice.span⟩

end Clausal
