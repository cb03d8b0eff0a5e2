import Clausal.Sentence.Region

/-! The state in which a source is read, and what reading a character can do to it.

Text gathers in a pending fragment until punctuation ends it. What a character does is decided
elsewhere; here each decision is an `Action` with its effect on the state and the sentences it
completes.
-/

set_option autoImplicit false

namespace Clausal

/-- Where reading stands. -/
structure Scanner where
  /-- The number of characters read. -/
  index : Nat := 0
  previous : Option Char := none
  /-- The region being read, if any. -/
  region : Option Region := none
  regionStart : Nat := 0
  /-- Where the open accessor started, if one is open. -/
  accessor : Option Nat := none
  /-- Whether a backslash that is not itself escaped stands right before. -/
  escaped : Bool := false
  /-- The pending fragment, last character first. -/
  pending : List Char := []
  pendingStart : Nat := 0
  /-- Whether the next character was read together with the last one. -/
  swallow : Bool := false
  deriving DecidableEq

inductive Action where
  /-- Read the character and leave no trace of it. -/
  | drop
  /-- Add the character to the pending fragment. -/
  | keep
  /-- Add the character, with white space folded to single spaces. -/
  | fold
  | enter (region : Region)
  | leave (region : Region)
  /-- End the pending fragment and put a marker after it. A wide marker takes the next character
  too. -/
  | mark (kind : Sentence.Kind) (wide : Bool)
  | openAccessor
  | closeAccessor
  /-- End the pending fragment as a sentence of the given kind. -/
  | terminate (kind : Sentence.Kind)
  deriving DecidableEq

namespace Scanner

/-- Whether neither a region nor an accessor is open. -/
def isBare (s : Scanner) : Bool :=
  s.region.isNone && s.accessor.isNone

def gather (s : Scanner) (c : Char) : Scanner :=
  { s with
    pending := c :: s.pending
    pendingStart := if s.pending.isEmpty then s.index else s.pendingStart }

/-- Newlines, carriage returns and tabs count as spaces. A space is dropped at the start of a
fragment and after another space. -/
def gatherFolded (s : Scanner) (c : Char) : Scanner :=
  let c := if c = '\n' ∨ c = '\r' ∨ c = '\t' then ' ' else c
  if c = ' ' ∧ (s.pending = [] ∨ s.pending.head? = some ' ') then s else s.gather c

/-- The sentence that the pending fragment becomes, reaching up to `stop`. Without text there is
none, unless its kind may be empty. -/
def ended (s : Scanner) (kind : Sentence.Kind) (trims : Bool) (stop : Nat) : List Sentence :=
  let raw := s.pending.reverse
  let text := if trims then Text.trimPadding raw else raw
  if text.isEmpty then
    if kind.standsAlone then [⟨kind, "", Span.between s.index stop⟩] else []
  else [⟨kind, String.ofList text, Span.between s.pendingStart stop⟩]

/-- The sentence of a fragment that no terminator ends. -/
def endedFragment (s : Scanner) : List Sentence :=
  s.ended (if s.accessor.isSome then .accessorMember else .unknown) true (s.index + 1)

/-- The marker at the current character. -/
def markerHere (s : Scanner) (kind : Sentence.Kind) (wide : Bool) : Sentence :=
  Sentence.marker kind (Span.between s.index (s.index + (if wide then 2 else 1)))

/-- The sentences that an action completes and the state it leaves, the character itself not yet
counted. -/
def perform (s : Scanner) (c : Char) : Action → List Sentence × Scanner
  | .drop => ([], s)
  | .keep => ([], s.gather c)
  | .fold => ([], s.gatherFolded c)
  | .enter region =>
    (if region.keepsFragment then s.endedFragment else [],
      { s with pending := [], region := some region, regionStart := s.index })
  | .leave region =>
    (s.ended region.kind region.trims (s.index + 1), { s with pending := [], region := none })
  | .mark kind wide =>
    (s.endedFragment ++ [s.markerHere kind wide], { s with pending := [], swallow := wide })
  | .openAccessor =>
    (s.endedFragment ++ [s.markerHere .accessorStart false],
      { s with pending := [], accessor := some s.index })
  | .closeAccessor =>
    (s.ended .accessorLastItem true (s.index + 1) ++ [s.markerHere .accessorEnd false],
      { s with pending := [], accessor := none })
  | .terminate kind => (s.ended kind true (s.index + 1), { s with pending := [] })

/-- Count a character as read. -/
def advance (s : Scanner) (c : Char) : Scanner :=
  { s with
    index := s.index + 1
    previous := some c
    escaped := c == '\\' && !s.escaped }

/-- Count a character that was read together with the one before it. -/
def skip (s : Scanner) (c : Char) : Scanner :=
  { s with
    index := s.index + 1
    previous := some c
    swallow := false }

end Scanner

end Clausal
