import Clausal.Proofs.Moves
import Clausal.Proofs.Performing
import Clausal.Proofs.Reading
import Clausal.Proofs.Scanning

/-! Accessors, from the source to the scopes.

Reading a source opens and closes accessors in turn and lets nothing into them that touches the
scopes. So an accessor that is read as a scope is the innermost one when it ends, and neither a
fault nor the scopes left open ever have to do with one.
-/

set_option autoImplicit false

namespace Clausal

namespace Sentence.Kind

/-- The kinds that only accessors are made of. -/
def isAccessorPart : Sentence.Kind → Bool
  | .accessorStart | .accessorMember | .accessorAssignment | .accessorLastItem
  | .accessorEnd => true
  | _ => false

/-- The kinds that may stand inside an accessor, in front of its last item. -/
def staysInside : Sentence.Kind → Bool
  | .accessorMember | .accessorAssignment => true
  | .comment | .compilerFlag | .targetCode | .string _ => true
  | _ => false

theorem isContent_of_staysInside {kind : Sentence.Kind} (stays : kind.staysInside = true) :
    kind.isContent = true := by
  cases kind <;> simp_all [staysInside, isContent]

end Sentence.Kind

/-- Where a sentence stands with regard to accessors. -/
inductive Place where
  | outside
  | inside
  /-- Behind the last item, where only the end is missing. -/
  | ending
  deriving DecidableEq

/-- The places in front of a sentence and behind it.

Outside an accessor there are no parts of one. Inside it there are only its parts and the contents
of regions, and its last item is followed by its end at once. -/
inductive Place.Turns : Place → Sentence → Place → Prop where
  | outside {sentence : Sentence} : sentence.kind.isAccessorPart = false →
      Turns .outside sentence .outside
  | start {sentence : Sentence} : sentence.kind = .accessorStart → sentence.text = "" →
      Turns .outside sentence .inside
  | inside {sentence : Sentence} : sentence.kind.staysInside = true →
      Turns .inside sentence .inside
  | lastItem {sentence : Sentence} : sentence.kind = .accessorLastItem →
      Turns .inside sentence .ending
  | stop {place : Place} {sentence : Sentence} : place ≠ .outside →
      sentence.kind = .accessorEnd → sentence.text = "" → Turns place sentence .outside

/-- Sentences in which accessors are opened and closed in turn. -/
inductive Alternates : Place → List Sentence → Place → Prop where
  | nil {place : Place} : Alternates place [] place
  | cons {first middle last : Place} {sentence : Sentence} {rest : List Sentence} :
      first.Turns sentence middle → Alternates middle rest last →
      Alternates first (sentence :: rest) last

namespace Alternates

theorem append {first middle last : Place} {before after : List Sentence}
    (early : Alternates first before middle) (late : Alternates middle after last) :
    Alternates first (before ++ after) last := by
  induction early with
  | nil => exact late
  | cons turn _ ih => exact .cons turn (ih late)

theorem split {first last : Place} {before after : List Sentence}
    (alternates : Alternates first (before ++ after) last) :
    ∃ middle, Alternates first before middle ∧ Alternates middle after last := by
  induction before generalizing first with
  | nil => exact ⟨first, .nil, alternates⟩
  | cons sentence before ih =>
    cases alternates with
    | cons turn rest =>
      obtain ⟨middle, early, late⟩ := ih rest
      exact ⟨middle, .cons turn early, late⟩

theorem single {first last : Place} {sentence : Sentence} (turn : first.Turns sentence last) :
    Alternates first [sentence] last :=
  .cons turn .nil

end Alternates

namespace Scanner

/-- The place of the next sentence. -/
def place (s : Scanner) : Place :=
  if s.accessor.isSome then .inside else .outside

theorem place_of_inside {s : Scanner} (inside : s.accessor.isSome = true) : s.place = .inside :=
  if_pos inside

theorem place_of_outside {s : Scanner} (outside : s.accessor = none) : s.place = .outside := by
  simp [place, outside]

variable {s : Scanner} {c : Char} {next : Option Char}

theorem ended_alternates {place : Place} {kind : Sentence.Kind}
    (turn : ∀ {sentence : Sentence}, sentence.kind = kind → place.Turns sentence place)
    (s : Scanner) (trims : Bool) (stop : Nat) :
    Alternates place (s.ended kind trims stop) place := by
  obtain none | ⟨text, span, one⟩ := s.ended_eq kind trims stop
  · rw [none]
    exact .nil
  · rw [one]
    exact .single (turn rfl)

theorem lastItem_alternates (s : Scanner) (stop : Nat) (span : Span) :
    Alternates .inside
      (s.ended .accessorLastItem true stop ++ [Sentence.marker .accessorEnd span]) .outside := by
  obtain none | ⟨text, position, one⟩ := s.ended_eq .accessorLastItem true stop
  -- Without a last item the accessor ends right away.
  · rw [none]
    exact .single (.stop (by decide) rfl rfl)
  · rw [one]
    exact .cons (.lastItem rfl) (.single (.stop (by decide) rfl rfl))

theorem endedFragment_alternates (s : Scanner) : Alternates s.place s.endedFragment s.place := by
  cases accessor : s.accessor with
  | none =>
    rw [place_of_outside accessor, endedFragment, accessor]
    exact ended_alternates (fun kind => .outside (by rw [kind]; rfl)) s _ _
  | some start =>
    rw [place_of_inside (by rw [accessor]; rfl), endedFragment, accessor]
    exact ended_alternates (fun kind => .inside (by rw [kind]; rfl)) s _ _

theorem region_alternates (s : Scanner) (region : Region) (stop : Nat) :
    Alternates s.place (s.ended region.kind region.trims stop) s.place := by
  refine ended_alternates (fun {sentence} kind => ?_) s _ _
  -- The contents of a region stay inside an accessor and are no part of one outside.
  unfold place
  split
  · exact .inside (by rw [kind]; cases region <;> rfl)
  · exact .outside (by rw [kind]; cases region <;> rfl)

theorem isAccessorPart_of_isOperator {kind : Sentence.Kind} (operator : kind.isOperator = true) :
    kind.isAccessorPart = false := by
  cases kind <;> simp_all [Sentence.Kind.isOperator, Sentence.Kind.isAccessorPart]

theorem isAccessorPart_of_terminator {kind : Sentence.Kind} (ends : (c, kind) ∈ terminators) :
    kind.isAccessorPart = false := by
  simp only [terminators, List.mem_cons, Prod.mk.injEq, List.not_mem_nil, or_false] at ends
  rcases ends with ⟨_, rfl⟩ | ⟨_, rfl⟩ | ⟨_, rfl⟩ | ⟨_, rfl⟩ <;> rfl

/-- Every decision leaves the place it leads to, and passes through no other. -/
theorem perform_alternates {action : Action} (chosen : Chosen s c next action) :
    Alternates s.place (s.perform c action).1 (s.perform c action).2.place := by
  cases chosen with
  | keep => exact .nil
  | drop => exact .nil
  | fold =>
    simp only [perform, place, gatherFolded_accessor]
    exact .nil
  | @leave region => exact s.region_alternates region _
  | @enter region =>
    simp only [perform]
    split
    · exact s.endedFragment_alternates
    · exact .nil
  | @operator kind wide _ outside _ operator =>
    have mark : Alternates s.place [s.markerHere kind wide] s.place := by
      rw [place_of_outside outside]
      exact .single (.outside (isAccessorPart_of_isOperator operator))
    exact s.endedFragment_alternates.append mark
  | openAccessor _ outside =>
    refine s.endedFragment_alternates.append ?_
    rw [place_of_outside outside]
    exact .single (.start rfl rfl)
  | closeAccessor _ inside =>
    rw [place_of_inside inside]
    exact s.lastItem_alternates _ _
  | assignMember _ inside =>
    have mark : Alternates s.place [s.markerHere .accessorAssignment false] s.place := by
      rw [place_of_inside inside]
      exact .single (.inside rfl)
    exact s.endedFragment_alternates.append mark
  | @terminate kind _ outside ends =>
    have plain := isAccessorPart_of_terminator ends
    have ended : Alternates s.place (s.ended kind true (s.index + 1)) s.place := by
      rw [place_of_outside outside]
      exact ended_alternates (fun same => .outside (by rw [same, plain])) s _ _
    exact ended

theorem step_alternates {sentences : List Sentence} {after : Scanner}
    (stepped : s.step c next = .ok (sentences, after)) :
    Alternates s.place sentences after.place := by
  obtain ⟨_, rfl, rfl⟩ | ⟨_, action, chosen, rfl, rfl⟩ := step_eq_ok stepped
  · exact .nil
  · exact perform_alternates chosen

theorem endRegion_alternates (s : Scanner) :
    Alternates s.place s.endRegion.1.sentences s.endRegion.2.place := by
  unfold endRegion
  split
  · exact .nil
  · exact s.region_alternates _ _

theorem endAccessor_alternates (s : Scanner) :
    Alternates s.place s.endAccessor.1.sentences .outside := by
  unfold endAccessor
  split
  · next outside =>
    rw [place_of_outside outside]
    exact .nil
  · next inside =>
    rw [place_of_inside (by rw [inside]; rfl)]
    exact s.lastItem_alternates _ _

theorem endFragment_alternates (s : Scanner) :
    Alternates .outside s.endFragment.sentences .outside := by
  unfold endFragment
  dsimp only
  split
  · exact .nil
  · exact ended_alternates (fun kind => .outside (by rw [kind]; rfl)) s _ _

theorem finish_alternates (s : Scanner) : Alternates s.place s.finish.sentences .outside :=
  -- An open region ends before an open accessor does, so that its contents stay inside.
  (s.endRegion_alternates.append s.endRegion.2.endAccessor_alternates).append
    (endFragment_alternates _)

end Scanner

/-- Accessors are opened and closed in turn, and none is left open. -/
theorem scan_alternates (source : String) :
    ∃ scanned, scan source = .ok scanned ∧ Alternates .outside scanned.sentences .outside := by
  obtain ⟨done, last, held, scanned⟩ :=
    scan_induction source (motive := fun s done _ => Alternates .outside done s.place) .nil
      fun held stepped => held.append (Scanner.step_alternates stepped)
  exact ⟨_, scanned, held.append last.finish_alternates⟩

/-- The scopes that are open at a place: an open accessor is the innermost scope and the only one of
its kind. -/
def Place.Holds : Place → Nesting → Prop
  | .outside, nesting => .accessor ∉ nesting.scopes
  | _, nesting => nesting.top? = some .accessor ∧ .accessor ∉ nesting.pop.scopes

theorem Place.Holds.innermost {place : Place} {nesting : Nesting} (held : place.Holds nesting)
    (inside : place ≠ .outside) :
    nesting.top? = some .accessor ∧ .accessor ∉ nesting.pop.scopes := by
  cases place with
  | outside => exact absurd rfl inside
  | inside => exact held
  | ending => exact held

theorem Situation.move_outside (s : Situation) (outside : s.kind.isAccessorPart = false) :
    s.move.pushed? ≠ some .accessor ∧ s.move ≠ .closes .accessor ∧ s.move ≠ .closeAccessor := by
  have meant := s.move_means
  generalize s.move = move at meant
  cases meant with
  | openAccessor kind => rw [kind] at outside; cases outside
  | closeAccessor kind => rw [kind] at outside; cases outside
  | @opens opener _ fits =>
    refine ⟨fun pushed => ?_, by simp, by simp⟩
    cases opener <;> cases pushed
    cases fits
  | calls _ scope => simp [Move.pushed?, scope]
  | closes _ tag =>
    refine ⟨by simp [Move.pushed?], fun same => ?_, by simp⟩
    cases same
    -- No tag names the scope of an accessor.
    unfold Scope.ofTag? at tag
    split at tag <;> cases tag
  | @startsBody awaited =>
    obtain ⟨routine, _⟩ := awaited
    cases routine <;> simp [Move.pushed?, Routine.bodyScope]
  | _ => simp [Move.pushed?]

theorem Scope.body_eq_accessor_iff (scope : Scope) :
    scope.body = .accessor ↔ scope = .accessor := by
  cases scope <;> decide

namespace ScopeState

variable {options : Options} {state : ScopeState} {sentence : Sentence}

theorem read_accessorStart (kind : sentence.kind = .accessorStart) (text : sentence.text = "") :
    state.read options sentence =
      .ok { units := [.accessorStart], state := state.push .accessor } := by
  rw [read_of_unpunctuated options state (by simp [kind]) (by simp [kind]) (by simp [kind]),
    (state.situation sentence).move_accessorStart kind text]
  rfl

theorem read_content (options : Options) (state : ScopeState)
    (content : sentence.kind.isContent = true) :
    ∃ unit, state.read options sentence = .ok { units := [unit], state } := by
  obtain ⟨unit, move⟩ := (state.situation sentence).move_of_isContent content
  refine ⟨unit, ?_⟩
  rw [read_of_unpunctuated, move]
  · rfl
  all_goals
    intro kind
    rw [kind] at content
    cases content

theorem read_accessorEnd (options : Options) (kind : sentence.kind = .accessorEnd)
    (text : sentence.text = "") (top : state.nesting.top? = some .accessor) :
    state.read options sentence = .ok { units := [.accessorEnd], state := state.pop } := by
  rw [read_of_unpunctuated options state (by simp [kind]) (by simp [kind]) (by simp [kind]),
    (state.situation sentence).move_accessorEnd kind text]
  simp [perform, close, top, Scope.closesAs]

theorem accessor_mem_enter (member : .accessor ∈ (state.enter sentence).nesting.scopes) :
    .accessor ∈ state.nesting.scopes := by
  unfold enter at member
  split at member
  · obtain ⟨⟨scopes⟩, _⟩ := state
    cases scopes with
    | nil => cases member
    | cons inner outer =>
      rcases List.mem_cons.mp member with same | below
      · have accessor : inner = .accessor := (Scope.body_eq_accessor_iff inner).mp same.symm
        exact accessor ▸ List.mem_cons_self ..
      · exact List.mem_cons_of_mem _ below
  · exact member

theorem read_outside {reading : Reading} (outside : sentence.kind.isAccessorPart = false)
    (none_open : .accessor ∉ state.nesting.scopes)
    (read : state.read options sentence = .ok reading) :
    .accessor ∉ reading.state.nesting.scopes := by
  obtain ⟨performed, moved, rfl⟩ := read_eq_ok read
  intro member
  have meant := (state.situation sentence).move_outside outside
  rcases mem_perform moved (Reading.mem_punctuate member) with before | pushed
  · exact none_open (accessor_mem_enter before)
  · exact meant.1 pushed

theorem fault_outside {refusal : Refusal} (outside : sentence.kind.isAccessorPart = false)
    (none_open : .accessor ∉ state.nesting.scopes)
    (failed : state.read options sentence = .error refusal) :
    .accessor ∉ refusal.fault.scopes := by
  intro member
  have meant := (state.situation sentence).move_outside outside
  rcases perform_fault (read_eq_error failed) member with found | root | closes | ⟨closes, _⟩
  · exact none_open (accessor_mem_enter found)
  · cases root
  · exact meant.2.1 closes
  · exact meant.2.2 closes

/-- Where a sentence may stand, it leads to the scopes of the next place, or its fault has nothing
to do with accessors. -/
theorem read_turns (options : Options) {first last : Place} (turn : first.Turns sentence last)
    (before : first.Holds state.nesting) :
    (∃ reading, state.read options sentence = .ok reading ∧ last.Holds reading.state.nesting) ∨
      ∃ refusal, state.read options sentence = .error refusal ∧
        .accessor ∉ refusal.fault.scopes := by
  cases turn with
  | outside kind =>
    cases read : state.read options sentence with
    | ok reading => exact .inl ⟨reading, rfl, read_outside kind before read⟩
    | error refusal => exact .inr ⟨refusal, rfl, fault_outside kind before read⟩
  | start kind text => exact .inl ⟨_, read_accessorStart kind text, rfl, before⟩
  | inside kind =>
    obtain ⟨unit, read⟩ := read_content options state (Sentence.Kind.isContent_of_staysInside kind)
    exact .inl ⟨_, read, before⟩
  | lastItem kind =>
    have content : sentence.kind.isContent = true := by rw [kind]; rfl
    obtain ⟨unit, read⟩ := read_content options state content
    exact .inl ⟨_, read, before⟩
  | stop place kind text =>
    obtain ⟨top, below⟩ := before.innermost place
    exact .inl ⟨_, read_accessorEnd options kind text top, below⟩

end ScopeState

/-- Every run over sentences in which accessors alternate keeps the scopes in step with them. -/
theorem Alternates.holds {options : Options} {first last : Place} {sentences : List Sentence}
    {state : ScopeState} {reading : Reading} (alternates : Alternates first sentences last)
    (before : first.Holds state.nesting) (run : Reads options state sentences reading) :
    last.Holds reading.state.nesting := by
  induction alternates generalizing state reading with
  | nil =>
    cases run
    exact before
  | cons turn _ ih =>
    cases run with
    | cons read rest =>
      obtain ⟨_, same, after⟩ | ⟨_, failed, _⟩ := ScopeState.read_turns options turn before
      · rw [read] at same
        cases same
        have final := ih after rest
        exact final
      · rw [read] at failed
        cases failed

theorem Place.Turns.of_accessorEnd {first last : Place} {sentence : Sentence}
    (turn : first.Turns sentence last) (kind : sentence.kind = .accessorEnd) :
    first ≠ .outside ∧ sentence.text = "" := by
  cases turn with
  | outside plain => rw [kind] at plain; cases plain
  | start other => rw [kind] at other; cases other
  | inside stays => rw [kind] at stays; cases stays
  | lastItem other => rw [kind] at other; cases other
  | stop place _ text => exact ⟨place, text⟩

/-- The two stages agree on accessors. Reading a source opens and closes them in turn. Assembling
its sentences never fails at the end of one and has nothing to report there; no fault tells of an
accessor, and none is left open. -/
theorem scan_assemble_accessors (options : Options) (source : String) :
    ∃ scanned, scan source = .ok scanned ∧
      Alternates .outside scanned.sentences .outside ∧
      (∀ before sentence after assembler, scanned.sentences = before ++ sentence :: after →
        sentence.kind = .accessorEnd →
        ({ options } : Assembler).addAll 0 before = .ok assembler →
        ∃ next units, assembler.add before.length sentence = (next, .ok units) ∧
          next.notices = assembler.notices) ∧
      (∀ rejection, assemble options scanned.sentences = .error rejection →
        .accessor ∉ rejection.fault.scopes) ∧
      (∀ assembled, assemble options scanned.sentences = .ok assembled →
        .accessor ∉ assembled.openScopes) := by
  obtain ⟨scanned, read, alternates⟩ := scan_alternates source
  have start : Place.outside.Holds ({} : ScopeState).nesting := by simp [Place.Holds]
  refine ⟨scanned, read, alternates, ?_, ?_, ?_⟩
  · intro before sentence after assembler whole kind accepted
    rw [whole] at alternates
    obtain ⟨place, early, late⟩ := alternates.split
    obtain ⟨reading, run, rfl⟩ := Assembler.addAll_eq_ok_iff.mp accepted
    have held := early.holds start run
    cases late with
    | cons turn _ =>
      -- The accessor that ends here is open, and nothing was opened inside it.
      obtain ⟨inside, text⟩ := turn.of_accessorEnd kind
      have closed := ScopeState.read_accessorEnd options kind text (held.innermost inside).1
      exact ⟨_, _, Assembler.add_of_read _ _ closed, Array.appendList_nil⟩
  · intro rejection rejected
    obtain ⟨before, sentence, after, reading, refusal, whole, run, failed, rfl⟩ :=
      assemble_eq_error rejected
    rw [whole] at alternates
    obtain ⟨place, early, late⟩ := alternates.split
    have held := early.holds start run
    cases late with
    | cons turn _ =>
      obtain ⟨_, read, _⟩ | ⟨_, read, clear⟩ := ScopeState.read_turns options turn held
      · rw [failed] at read
        cases read
      · rw [failed] at read
        cases read
        exact clear
  · intro assembled accepted
    obtain ⟨reading, run, rfl⟩ := assemble_eq_ok_iff.mp accepted
    exact alternates.holds start run

/-- The input ends inside a string inside an accessor, and all that is left open is the if block. -/
theorem open_accessor_agrees :
    ∃ scanned, scan "if: [a = 'b" = .ok scanned ∧
      (∃ before sentence assembler next units, scanned.sentences = before ++ [sentence] ∧
        sentence.kind = .accessorEnd ∧ ({} : Assembler).addAll 0 before = .ok assembler ∧
        assembler.add before.length sentence = (next, .ok units) ∧
        next.notices = assembler.notices) ∧
      ∃ assembled, assemble {} scanned.sentences = .ok assembled ∧
        .accessor ∉ assembled.openScopes := by
  obtain ⟨scanned, read, _, ends, _, opens⟩ := scan_assemble_accessors {} "if: [a = 'b"
  have known : scan "if: [a = 'b" = .ok
      ⟨[⟨.opening, "if", .between 0 3⟩, ⟨.accessorStart, "", .between 4 5⟩,
        ⟨.accessorMember, "a", .between 5 8⟩, ⟨.accessorAssignment, "", .between 7 8⟩,
        ⟨.string .single, "b", .between 10 11⟩, ⟨.accessorEnd, "", .between 11 11⟩],
      [⟨.openString .single, some (.between 9 11)⟩, ⟨.openAccessor, some (.between 4 11)⟩]⟩ := rfl
  rw [known] at read
  cases read
  obtain ⟨next, units, added, quiet⟩ := ends (_ :: _ :: _ :: _ :: [_]) _ [] _ rfl rfl rfl
  exact ⟨_, known, ⟨_, _, _, next, units, rfl, rfl, rfl, added, quiet⟩, _, rfl, opens _ rfl⟩

end Clausal
