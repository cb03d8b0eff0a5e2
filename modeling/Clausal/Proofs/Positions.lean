import Clausal.Proofs.Reading
import Clausal.Proofs.Scanning
import Mathlib.Data.List.Forall2

/-! Positions are passed on and never looked at.

Two scanners that differ in their positions alone read the same text alike, and two states that
differ in the place of an awaited routine alone read the same sentence alike. How positions are to
be compared is left open, as long as the comparison survives counting.
-/

set_option autoImplicit false

namespace Clausal

/-- A comparison of positions that holds on when both are counted on. -/
structure Lockstep (R : Nat → Nat → Prop) : Prop where
  succ {i j : Nat} : R i j → R (i + 1) (j + 1)
  max {i j k l : Nat} : R i j → R k l → R (max i k) (max j l)

/-- The comparison that asks nothing of positions. -/
theorem Lockstep.any : Lockstep fun _ _ => True :=
  ⟨fun _ => trivial, fun _ _ => trivial⟩

/-- Sentences that differ in their place alone. -/
structure Sentence.Alike (R : Nat → Nat → Prop) (a b : Sentence) : Prop where
  kind : a.kind = b.kind
  text : a.text = b.text
  start : R a.span.start b.span.start
  stop : R a.span.stop b.span.stop

namespace Scanner

/-- Scanners that differ in their positions alone. A start that is no longer in use does not count,
and the character before is left aside. -/
structure Alike (R : Nat → Nat → Prop) (s t : Scanner) : Prop where
  index : R s.index t.index
  region : s.region = t.region
  regionStart : s.region ≠ none → R s.regionStart t.regionStart
  accessor : Option.Rel R s.accessor t.accessor
  escaped : s.escaped = t.escaped
  pending : s.pending = t.pending
  pendingStart : s.pending ≠ [] → R s.pendingStart t.pendingStart
  swallow : s.swallow = t.swallow

/-- The characters before agree as far as `c` looks back. Only operators do. -/
def SameBehind (s t : Scanner) (c : Char) : Prop :=
  s.previous.any Text.isWhite = t.previous.any Text.isWhite ∨ c ∉ operatorChars

variable {R : Nat → Nat → Prop} {s t : Scanner} {c : Char} {next : Option Char}

namespace Alike

theorem isNone_accessor (alike : Alike R s t) : s.accessor.isNone = t.accessor.isNone := by
  have related := alike.accessor
  revert related
  generalize s.accessor = a, t.accessor = b
  intro related
  cases related <;> rfl

theorem isBare (alike : Alike R s t) : s.isBare = t.isBare := by
  rw [Scanner.isBare, Scanner.isBare, alike.region, alike.isNone_accessor]

theorem accessorRule (alike : Alike R s t) :
    Scanner.accessorRule s c next = Scanner.accessorRule t c next := by
  have related := alike.accessor
  unfold Scanner.accessorRule
  revert related
  generalize s.accessor = a, t.accessor = b
  intro related
  cases related <;> rfl

theorem action? (alike : Alike R s t) (behind : SameBehind s t c) :
    s.action? c next = t.action? c next := by
  have operators : operatorRule s c next = operatorRule t c next := by
    rcases behind with same | plain
    · rw [operatorRule, operatorRule, alike.isBare, same]
    · rw [operatorRule_eq_none plain, operatorRule_eq_none plain]
  have assignments : assignmentRule s c next = assignmentRule t c next := by
    rcases behind with same | plain
    · rw [assignmentRule, assignmentRule, same]
    · rw [assignmentRule_eq_none plain, assignmentRule_eq_none plain]
  simp only [Scanner.action?, rules, List.findSome?_cons, operators, assignments,
    alike.accessorRule, regionRule, regionStartRule, logicalRule, parenthesesRule, terminatorRule,
    textRule, alike.region, alike.escaped, alike.isBare]

theorem ended (counts : Lockstep R) (alike : Alike R s t) {kind : Sentence.Kind} {trims : Bool}
    {i j : Nat} (stops : R i j) :
    List.Forall₂ (Sentence.Alike R) (s.ended kind trims i) (t.ended kind trims j) := by
  have blank : t.pending = [] →
      (if trims then Text.trimPadding t.pending.reverse else t.pending.reverse).isEmpty := by
    intro none
    cases trims <;> simp [none, Text.trimPadding, Text.trimBy]
  unfold Scanner.ended
  dsimp only
  rw [alike.pending]
  revert blank
  generalize (if trims then Text.trimPadding t.pending.reverse else t.pending.reverse) = text
  intro blank
  split
  · split
    · exact .cons ⟨rfl, rfl, alike.index, counts.max alike.index stops⟩ .nil
    · exact .nil
  · next written =>
    -- Some text is left, so the fragment was not empty and its start counts.
    have held : s.pending ≠ [] := by
      rw [alike.pending]
      exact fun none => written (blank none)
    have starts := alike.pendingStart held
    exact .cons ⟨rfl, rfl, starts, counts.max starts stops⟩ .nil

theorem endedFragment (counts : Lockstep R) (alike : Alike R s t) :
    List.Forall₂ (Sentence.Alike R) s.endedFragment t.endedFragment := by
  unfold Scanner.endedFragment
  rw [← Option.not_isNone, ← Option.not_isNone, alike.isNone_accessor]
  exact alike.ended counts (counts.succ alike.index)

theorem markerHere (counts : Lockstep R) (alike : Alike R s t) (kind : Sentence.Kind)
    (wide : Bool) : (s.markerHere kind wide).Alike R (t.markerHere kind wide) := by
  refine ⟨rfl, rfl, alike.index, counts.max alike.index ?_⟩
  cases wide
  · exact counts.succ alike.index
  · exact counts.succ (counts.succ alike.index)

theorem gather (alike : Alike R s t) (c : Char) : Alike R (s.gather c) (t.gather c) where
  index := alike.index
  region := alike.region
  regionStart := alike.regionStart
  accessor := alike.accessor
  escaped := alike.escaped
  pending := by simp [Scanner.gather, alike.pending]
  pendingStart _ := by
    simp only [Scanner.gather, ← alike.pending]
    split
    · exact alike.index
    · next held => exact alike.pendingStart (by simpa using held)
  swallow := alike.swallow

theorem gatherFolded (alike : Alike R s t) (c : Char) :
    Alike R (s.gatherFolded c) (t.gatherFolded c) := by
  unfold Scanner.gatherFolded
  dsimp only
  rw [alike.pending]
  generalize (if c = '\n' ∨ c = '\r' ∨ c = '\t' then ' ' else c) = shown
  split
  · exact alike
  · exact alike.gather shown

theorem cleared (alike : Alike R s t) : Alike R { s with pending := [] } { t with pending := [] } :=
  { alike with
    pending := rfl
    pendingStart := fun held => absurd rfl held }

theorem perform (counts : Lockstep R) (alike : Alike R s t) (c : Char) (action : Action) :
    List.Forall₂ (Sentence.Alike R) (s.perform c action).1 (t.perform c action).1 ∧
      Alike R (s.perform c action).2 (t.perform c action).2 := by
  have stops : R (s.index + 1) (t.index + 1) := counts.succ alike.index
  cases action with
  | drop => exact ⟨.nil, alike⟩
  | keep => exact ⟨.nil, alike.gather c⟩
  | fold => exact ⟨.nil, alike.gatherFolded c⟩
  | enter region =>
    constructor
    · dsimp only [Scanner.perform]
      split
      · exact alike.endedFragment counts
      · exact .nil
    · -- The start of the region is the current index on both sides, whatever it was before.
      exact { alike.cleared with region := rfl, regionStart := fun _ => alike.index }
  | leave region =>
    constructor
    · exact alike.ended counts stops
    · exact { alike.cleared with region := rfl, regionStart := fun inside => absurd rfl inside }
  | mark kind wide =>
    constructor
    · apply List.rel_append (alike.endedFragment counts)
      exact .cons (alike.markerHere counts kind wide) .nil
    · exact { alike.cleared with swallow := rfl }
  | openAccessor =>
    constructor
    · apply List.rel_append (alike.endedFragment counts)
      exact .cons (alike.markerHere counts .accessorStart false) .nil
    · exact { alike.cleared with accessor := .some alike.index }
  | closeAccessor =>
    constructor
    · apply List.rel_append (alike.ended counts stops)
      exact .cons (alike.markerHere counts .accessorEnd false) .nil
    · exact { alike.cleared with accessor := .none }
  | terminate kind => exact ⟨alike.ended counts stops, alike.cleared⟩

theorem advance (counts : Lockstep R) (alike : Alike R s t) (c : Char) :
    Alike R (s.advance c) (t.advance c) :=
  { alike with
    index := counts.succ alike.index
    escaped := by simp [Scanner.advance, alike.escaped] }

theorem skip (counts : Lockstep R) (alike : Alike R s t) (c : Char) :
    Alike R (s.skip c) (t.skip c) :=
  { alike with
    index := counts.succ alike.index
    swallow := rfl }

theorem step (counts : Lockstep R) (alike : Alike R s t) (behind : SameBehind s t c)
    {first : List Sentence} {after : Scanner} (stepped : s.step c next = .ok (first, after)) :
    ∃ others other, t.step c next = .ok (others, other) ∧
      List.Forall₂ (Sentence.Alike R) first others ∧ Alike R after other ∧
      after.previous = other.previous := by
  unfold Scanner.step at stepped ⊢
  rw [← alike.swallow, ← alike.action? behind]
  split at stepped
  · next skips =>
    cases stepped
    rw [if_pos skips]
    exact ⟨[], t.skip c, rfl, .nil, alike.skip counts c, rfl⟩
  · next reads =>
    rw [if_neg reads]
    split at stepped
    · next action _ =>
      cases stepped
      obtain ⟨sentences, state⟩ := alike.perform counts c action
      exact ⟨_, _, rfl, sentences, state.advance counts c, rfl⟩
    · cases stepped

/-- Text is read alike from scanners that are alike. Only its first character can look back at what
stood before it. -/
theorem scans (counts : Lockstep R) {following : Option Char} {text : List Char}
    {sentences : List Sentence} {last : Scanner} (alike : Alike R s t)
    (behind : ∀ c ∈ text.head?, SameBehind s t c) (scans : Scans following s text sentences last) :
    ∃ others other, Scans following t text others other ∧
      List.Forall₂ (Sentence.Alike R) sentences others ∧ Alike R last other := by
  induction scans generalizing t with
  | nil => exact ⟨[], t, .nil, .nil, alike⟩
  | @cons s after last c rest first others stepped _ ih =>
    obtain ⟨sameFirst, other, steps, firsts, afters, previous⟩ :=
      alike.step counts (behind c rfl) stepped
    -- From the second character on the one before is the same.
    have behindRest : ∀ c ∈ rest.head?, SameBehind after other c :=
      fun _ _ => .inl (by rw [previous])
    obtain ⟨sameOthers, last', run, tails, lasts⟩ := ih afters behindRest
    exact ⟨_, last', .cons steps run, List.rel_append firsts tails, lasts⟩

end Alike

end Scanner

/-- A sentence without its place. -/
def Sentence.outline (sentence : Sentence) : Sentence.Kind × String :=
  (sentence.kind, sentence.text)

/-- A state without the place of the routine it awaits. -/
def ScopeState.outline (state : ScopeState) : Nesting × Option Routine :=
  (state.nesting, state.awaiting.map AwaitedReturns.routine)

/-- A reading without the places of its notices. -/
def Reading.outline (reading : Reading) :
    List SemanticUnit × (Nesting × Option Routine) × List Finding :=
  (reading.units, reading.state.outline, reading.notices.map Notice.finding)

/-- A refusal without the places of its notices. -/
def Refusal.outline (refusal : Refusal) : Fault × (Nesting × Option Routine) × List Finding :=
  (refusal.fault, refusal.state.outline, refusal.notices.map Notice.finding)

/-- What an attempt to read a sentence comes to, places aside. -/
def attemptOutline (attempt : Except Refusal Reading) :
    Except (Fault × (Nesting × Option Routine) × List Finding)
      (List SemanticUnit × (Nesting × Option Routine) × List Finding) :=
  (attempt.map Reading.outline).mapError Refusal.outline

@[simp] theorem attemptOutline_ok (reading : Reading) :
    attemptOutline (.ok reading) = .ok reading.outline := rfl

@[simp] theorem attemptOutline_error (refusal : Refusal) :
    attemptOutline (.error refusal) = .error refusal.outline := rfl

theorem Sentence.outline_eq {x y : Sentence} (same : x.outline = y.outline) :
    ∃ span, y = { x with span } := by
  obtain ⟨kind, text, span⟩ := y
  cases same
  exact ⟨span, rfl⟩

theorem ScopeState.outline_eq {a b : ScopeState} (same : a.outline = b.outline) :
    b = a ∨ ∃ routine here there,
      a.awaiting = some ⟨routine, here⟩ ∧ b = { a with awaiting := some ⟨routine, there⟩ } := by
  obtain ⟨nesting, awaiting⟩ := a
  obtain ⟨_, other⟩ := b
  simp only [outline, Prod.mk.injEq] at same
  obtain ⟨rfl, awaited⟩ := same
  cases awaiting with
  | none =>
    rw [Option.map_none] at awaited
    rw [Option.map_eq_none_iff.mp awaited.symm]
    exact .inl rfl
  | some here =>
    obtain ⟨there, rfl, routines⟩ := Option.map_eq_some_iff.mp awaited.symm
    obtain ⟨routine, span⟩ := here
    cases routines
    exact .inr ⟨_, span, there.span, rfl, rfl⟩

namespace ScopeState

variable {options : Options} {a b : ScopeState} {x y : Sentence}

theorem move_outline (states : a.outline = b.outline) (sentences : x.outline = y.outline)
    (left : Option Scope) : Situation.move ⟨a, x, left⟩ = Situation.move ⟨b, y, left⟩ := by
  obtain ⟨span, rfl⟩ := Sentence.outline_eq sentences
  -- The rules ask for the awaited routine but not for its place.
  obtain rfl | ⟨routine, here, there, awaits, rfl⟩ := outline_eq states
  · rfl
  · obtain ⟨nesting, awaiting⟩ := a
    cases awaits
    rfl

theorem leavesHead_outline (states : a.outline = b.outline) (sentences : x.outline = y.outline) :
    a.leavesHead x = b.leavesHead y := by
  obtain ⟨span, rfl⟩ := Sentence.outline_eq sentences
  have nestings : a.nesting = b.nesting := congrArg Prod.fst states
  simp only [leavesHead, sharesCase, nestings]
  rfl

theorem enter_outline (states : a.outline = b.outline) (sentences : x.outline = y.outline) :
    (a.enter x).outline = (b.enter y).outline := by
  have nestings : a.nesting = b.nesting := congrArg Prod.fst states
  unfold enter
  rw [leavesHead_outline states sentences]
  split
  · simpa [outline, nestings] using states
  · exact states

theorem close_outline (states : a.outline = b.outline) (requested : Scope)
    (unit : Scope → SemanticUnit) :
    attemptOutline (a.close options x requested unit) =
      attemptOutline (b.close options y requested unit) := by
  have nestings : a.nesting = b.nesting := congrArg Prod.fst states
  have popped : a.pop.outline = b.pop.outline := by
    simpa [outline, pop, nestings] using states
  unfold close
  rw [nestings]
  cases b.nesting.top? with
  | none => simp [Refusal.outline, states]
  | some found =>
    dsimp only
    split
    · simp [Reading.outline, popped]
    · cases options.mismatches <;> simp [Reading.outline, Refusal.outline, popped, states]

theorem elif_outline (states : a.outline = b.outline) :
    attemptOutline (a.elif options x) = attemptOutline (b.elif options y) := by
  have nestings : a.nesting = b.nesting := congrArg Prod.fst states
  have awaits : a.awaiting.map AwaitedReturns.routine = b.awaiting.map AwaitedReturns.routine :=
    congrArg Prod.snd states
  unfold elif
  rw [nestings]
  cases b.nesting.leave? .ifBlockBody with
  | some outer => simp [Reading.outline, outline, awaits]
  | none =>
    dsimp only
    cases options.mismatches <;>
      simp [Reading.outline, Refusal.outline, outline, awaits, push, nestings]

theorem unknown_outline (states : a.outline = b.outline) (sentences : x.outline = y.outline) :
    attemptOutline (a.unknown options x) = attemptOutline (b.unknown options y) := by
  obtain ⟨span, rfl⟩ := Sentence.outline_eq sentences
  unfold unknown
  dsimp only
  split
  · simp [Reading.outline, states]
  · cases options.unknown <;> simp [Reading.outline, Refusal.outline, states]

theorem perform_outline (options : Options) (states : a.outline = b.outline)
    (sentences : x.outline = y.outline) (move : Move) :
    attemptOutline (a.perform options x move) = attemptOutline (b.perform options y move) := by
  have nestings : a.nesting = b.nesting := congrArg Prod.fst states
  have awaits : a.awaiting.map AwaitedReturns.routine = b.awaiting.map AwaitedReturns.routine :=
    congrArg Prod.snd states
  have pushed (scope : Scope) : (a.push scope).outline = (b.push scope).outline := by
    simp [outline, push, nestings, awaits]
  cases move with
  | emit units => simp [perform, Reading.outline, states]
  | opens opener => simp [perform, Reading.outline, pushed]
  | closeAccessor => exact close_outline states .accessor fun _ => .accessorEnd
  | closes requested => exact close_outline states _ _
  | elif => exact elif_outline states
  | caseHead value =>
    simp only [perform, attemptOutline_ok, Reading.outline, nestings]
    split
    · rw [states]
    · rw [pushed]
  | announces routine name => simp [perform, Reading.outline, outline, nestings]
  | startsBody routine returnType => simp [perform, Reading.outline, outline, nestings]
  | assigns key =>
    simp only [perform, nestings]
    cases b.nesting.leave? .assignment with
    | some outer => simp [Reading.outline, outline, awaits]
    | none => simp [Reading.outline, pushed]
  | unknown => exact unknown_outline states sentences

end ScopeState

theorem Reading.punctuate_outline {first second : Reading} (same : first.outline = second.outline)
    (kind : Sentence.Kind) : (first.punctuate kind).outline = (second.punctuate kind).outline := by
  obtain ⟨units, ⟨nesting, here⟩, notices⟩ := first
  obtain ⟨_, ⟨_, there⟩, others⟩ := second
  simp only [outline, ScopeState.outline, Prod.mk.injEq] at same
  obtain ⟨rfl, ⟨rfl, awaits⟩, findings⟩ := same
  unfold punctuate
  split
  · have marks : isEndMarker ⟨units, ⟨nesting, here⟩, notices⟩
        = isEndMarker ⟨units, ⟨nesting, there⟩, others⟩ := rfl
    rw [marks]
    split <;> simp [outline, ScopeState.outline, endStatement, awaits, findings]
  · unfold endElement
    dsimp only
    split <;> simp [outline, ScopeState.outline, awaits, findings]
  · simp [outline, ScopeState.outline, awaits, findings]

/-- Sentences and states that differ in their places alone are read alike. -/
theorem ScopeState.read_outline (options : Options) {a b : ScopeState} {x y : Sentence}
    (states : a.outline = b.outline) (sentences : x.outline = y.outline) :
    attemptOutline (a.read options x) = attemptOutline (b.read options y) := by
  have kinds : x.kind = y.kind := congrArg Prod.fst sentences
  have nestings : a.nesting = b.nesting := congrArg Prod.fst states
  have moves : (a.situation x).move = (b.situation y).move := by
    unfold situation
    rw [leavesHead_outline states sentences, nestings]
    exact move_outline (enter_outline states sentences) sentences _
  have performed := perform_outline options (enter_outline states sentences) sentences
    (b.situation y).move
  rw [read_eq, read_eq, moves, kinds]
  revert performed
  generalize (a.enter x).perform options x (b.situation y).move = first
  generalize (b.enter y).perform options y (b.situation y).move = second
  intro performed
  cases first with
  | error refusal =>
    cases second with
    | error other => exact performed
    | ok reading => cases performed
  | ok reading =>
    cases second with
    | error refusal => cases performed
    | ok other =>
      have same : reading.outline = other.outline := Except.ok.inj performed
      exact congrArg Except.ok (Reading.punctuate_outline same y.kind)

theorem Sentence.Alike.outline {R : Nat → Nat → Prop} {x y : Sentence} (alike : x.Alike R y) :
    x.outline = y.outline := by
  rw [Sentence.outline, Sentence.outline, alike.kind, alike.text]

theorem Sentence.map_outline_eq {R : Nat → Nat → Prop} {xs ys : List Sentence}
    (alike : List.Forall₂ (Sentence.Alike R) xs ys) :
    xs.map Sentence.outline = ys.map Sentence.outline := by
  induction alike with
  | nil => rfl
  | cons first _ ih => rw [List.map_cons, List.map_cons, first.outline, ih]

theorem Reading.followedBy_outline {first second others others' : Reading}
    (firsts : first.outline = second.outline) (lasts : others.outline = others'.outline) :
    (first.followedBy others).outline = (second.followedBy others').outline := by
  simp only [Reading.outline, Prod.mk.injEq] at firsts lasts ⊢
  simp [Reading.followedBy, firsts, lasts]

theorem Reads.outline {options : Options} {a b : ScopeState} {xs ys : List Sentence}
    {first : Reading} (states : a.outline = b.outline)
    (sentences : xs.map Sentence.outline = ys.map Sentence.outline)
    (run : Reads options a xs first) :
    ∃ second, Reads options b ys second ∧ first.outline = second.outline := by
  induction run generalizing b ys with
  | @nil state =>
    obtain rfl : ys = [] := by simpa using sentences.symm
    exact ⟨.start b, .nil, by simp [Reading.outline, Reading.start, states]⟩
  | @cons state x rest reading others read _ ih =>
    obtain ⟨y, tail, rfl, head, tails⟩ := List.map_eq_cons_iff.mp sentences.symm
    have same := ScopeState.read_outline options states head.symm
    rw [read] at same
    cases second : b.read options y with
    | error refusal =>
      rw [second] at same
      cases same
    | ok other =>
      rw [second] at same
      have firsts : reading.outline = other.outline := Except.ok.inj same
      obtain ⟨others', run, lasts⟩ := ih (congrArg (·.2.1) firsts) tails.symm
      exact ⟨other.followedBy others', .cons second run, Reading.followedBy_outline firsts lasts⟩

end Clausal
