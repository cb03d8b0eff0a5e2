/-! Positions in a source text.

A span counts characters, not bytes. Lines and columns are counted from one, and only the newline
character ends a line.
-/

set_option autoImplicit false

namespace Clausal

/-- A half-open range of character indices. -/
structure Span where
  start : Nat
  stop : Nat
  start_le_stop : start ≤ stop := by omega
  deriving DecidableEq

namespace Span

/-- The range between two indices, empty at `start` when `stop` lies before it. -/
def between (start stop : Nat) : Span :=
  ⟨start, max start stop, Nat.le_max_left start stop⟩

/-- The greatest index, that of a source which fills the address space. -/
def lastIndex : Nat := Nat.pow 2 64 - 1

/-- The range of the one character at `index`. No index comes after the greatest one, so the range
is empty there. -/
def single (index : Nat) : Span :=
  between index (min (index + 1) lastIndex)

instance : Inhabited Span := ⟨⟨0, 0, Nat.le_refl 0⟩⟩

/-- Spans are ordered by where they start, then by where they stop. -/
def le (first second : Span) : Bool :=
  first.start < second.start || (first.start == second.start && first.stop ≤ second.stop)

def render (span : Span) : String :=
  s!"{span.start}..{span.stop}"

@[simp] theorem between_start (start stop : Nat) : (between start stop).start = start := rfl

theorem between_stop {start stop : Nat} (ordered : start ≤ stop) :
    (between start stop).stop = stop :=
  Nat.max_eq_right ordered

end Span

/-- A line and a column, both counted from one. -/
structure Position where
  line : Nat
  column : Nat
  deriving DecidableEq

namespace Position

def origin : Position := ⟨1, 1⟩

/-- The position after reading one more character. -/
def advance (position : Position) (c : Char) : Position :=
  if c = '\n' then ⟨position.line + 1, 1⟩ else ⟨position.line, position.column + 1⟩

/-- The position of the character at `index`. Past the end of the source it stays right after the
last character. -/
def locate (source : String) (index : Nat) : Position :=
  (source.toList.take index).foldl advance origin

def render (position : Position) : String :=
  s!"{position.line}:{position.column}"

end Position

/-- Where a span starts in its source. -/
def Span.position (span : Span) (source : String) : Position :=
  Position.locate source span.start

end Clausal
