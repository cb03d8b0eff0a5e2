import Clausal.Finding

/-! Regions of source text that punctuation does not reach into.

A comment or a compiler flag runs to the end of its line, a string to its quotation mark, and target
code to its brace. Inside a region every character belongs to the region.
-/

set_option autoImplicit false

namespace Clausal

inductive Region where
  | comment
  | flag
  | code
  | string (quote : Quote)
  deriving DecidableEq

namespace Region

/-- The kind of the sentence that holds the contents. -/
def kind : Region → Sentence.Kind
  | .comment => .comment
  | .flag => .compilerFlag
  | .code => .targetCode
  | .string quote => .string quote

/-- Only the contents of a flag are trimmed. -/
def trims : Region → Bool
  | .flag => true
  | _ => false

/-- Whether the fragment in front of the region becomes a sentence of its own. In front of the other
regions it is discarded. -/
def keepsFragment : Region → Bool
  | .string _ => true
  | _ => false

/-- What is found when the input ends inside the region. -/
def unclosed : Region → Finding
  | .comment => .commentAtEnd
  | .flag => .flagAtEnd
  | .code => .openCode
  | .string quote => .openString quote

/-- The region that a character starts. A backslash in front keeps quotation marks and braces from
starting one, but not the marks of comments and flags. -/
def ofOpening? (escaped : Bool) (c : Char) : Option Region :=
  if c = '#' then some .comment
  else if c = '@' then some .flag
  else if escaped then none
  else if c = '\x7b' then some .code
  else (Quote.ofChar? c).map .string

/-- What becomes of a character inside a region. -/
inductive Fate where
  | kept
  | dropped
  | closes
  deriving DecidableEq

/-- The fate of a character, given whether it is escaped and which character follows.

The backslash in front of a brace is dropped from target code, and the carriage return in front of a
newline from a line. -/
def fate (escaped : Bool) (c : Char) (next : Option Char) : Region → Fate
  | .code =>
    if c = '\\' ∧ next = some '\x7d' then .dropped
    else if c = '\x7d' ∧ escaped = false then .closes
    else .kept
  | .comment | .flag =>
    if c = '\n' then .closes
    else if c = '\r' ∧ next = some '\n' then .dropped
    else .kept
  | .string quote => if c = quote.char ∧ escaped = false then .closes else .kept

end Region

end Clausal
