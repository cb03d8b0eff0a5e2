import Clausal.Proofs.Positions

/-! Where a source is cut in two.

What comes of the rest of a source depends on the scanner that reads it and on nothing else that was
read before. Scanners that are alike complete it alike; and behind a terminator nothing is left over,
so that what follows is read like a source of its own.
-/

set_option autoImplicit false

namespace Clausal

def Span.Alike (R : Nat → Nat → Prop) (a b : Span) : Prop :=
  R a.start b.start ∧ R a.stop b.stop

/-- Notices that differ in their place alone. -/
structure Notice.Alike (R : Nat → Nat → Prop) (a b : Notice) : Prop where
  finding : a.finding = b.finding
  span : Option.Rel (Span.Alike R) a.span b.span

structure Scanned.Alike (R : Nat → Nat → Prop) (a b : Scanned) : Prop where
  sentences : List.Forall₂ (Sentence.Alike R) a.sentences b.sentences
  notices : List.Forall₂ (Notice.Alike R) a.notices b.notices

theorem Scanned.Alike.empty (R : Nat → Nat → Prop) : Scanned.Alike R {} {} :=
  ⟨.nil, .nil⟩

theorem Scanned.Alike.prepend {R : Nat → Nat → Prop} {a b : Scanned} (same : ∀ i, R i i)
    (alike : a.Alike R b) (before : List Sentence) :
    Scanned.Alike R { a with sentences := before ++ a.sentences }
      { b with sentences := before ++ b.sentences } := by
  have early : List.Forall₂ (Sentence.Alike R) before before :=
    List.forall₂_same.mpr fun _ _ => ⟨rfl, rfl, same _, same _⟩
  exact ⟨List.rel_append early alike.sentences, alike.notices⟩

theorem Notice.map_finding_eq {R : Nat → Nat → Prop} {first second : List Notice}
    (alike : List.Forall₂ (Notice.Alike R) first second) :
    first.map Notice.finding = second.map Notice.finding := by
  induction alike with
  | nil => rfl
  | cons head _ ih => rw [List.map_cons, List.map_cons, head.finding, ih]

namespace Scanner

variable {R : Nat → Nat → Prop} {s t : Scanner} {text : List Char} {scanned : Scanned}

/-- A scanner without its positions and without the character before. -/
def outline (s : Scanner) : Option Region × Bool × Bool × List Char × Bool :=
  (s.region, s.accessor.isSome, s.escaped, s.pending, s.swallow)

namespace Alike

theorem of_outline (same : s.outline = t.outline) : Alike (fun _ _ => True) s t := by
  simp only [outline, Prod.mk.injEq] at same
  obtain ⟨region, accessor, escaped, pending, swallow⟩ := same
  refine ⟨trivial, region, fun _ => trivial, ?_, escaped, pending, fun _ => trivial, swallow⟩
  revert accessor
  cases s.accessor <;> cases t.accessor <;> intro accessor
  · exact .none
  · cases accessor
  · cases accessor
  · exact .some trivial

theorem noticeFrom (counts : Lockstep R) (alike : Alike R s t) {i j : Nat} (starts : R i j)
    (finding : Finding) : (s.noticeFrom i finding).Alike R (t.noticeFrom j finding) :=
  ⟨rfl, .some ⟨starts, counts.max starts alike.index⟩⟩

theorem endRegion (counts : Lockstep R) (alike : Alike R s t) :
    s.endRegion.1.Alike R t.endRegion.1 ∧ Alike R s.endRegion.2 t.endRegion.2 := by
  cases inside : s.region with
  | none =>
    have inside' : t.region = none := alike.region ▸ inside
    simp only [Scanner.endRegion, inside, inside']
    exact ⟨.empty R, alike⟩
  | some region =>
    have inside' : t.region = some region := alike.region ▸ inside
    have starts := alike.regionStart (by simp [inside])
    simp only [Scanner.endRegion, inside, inside']
    constructor
    · exact ⟨alike.ended counts alike.index, .cons (alike.noticeFrom counts starts _) .nil⟩
    · exact { alike.cleared with region := rfl, regionStart := fun open' => absurd rfl open' }

theorem endAccessor (counts : Lockstep R) (alike : Alike R s t) :
    s.endAccessor.1.Alike R t.endAccessor.1 ∧ Alike R s.endAccessor.2 t.endAccessor.2 := by
  have related := alike.accessor
  cases here : s.accessor with
  | none =>
    cases there : t.accessor with
    | some start => rw [here, there] at related; cases related
    | none =>
      simp only [Scanner.endAccessor, here, there]
      exact ⟨.empty R, alike⟩
  | some start =>
    cases there : t.accessor with
    | none => rw [here, there] at related; cases related
    | some start' =>
      rw [here, there] at related
      cases related with
      | some starts =>
        have stop : Sentence.Alike R (.marker .accessorEnd (.between s.index s.index))
            (.marker .accessorEnd (.between t.index t.index)) :=
          ⟨rfl, rfl, alike.index, counts.max alike.index alike.index⟩
        simp only [Scanner.endAccessor, here, there]
        constructor
        · exact ⟨List.rel_append (alike.ended counts alike.index) (.cons stop .nil),
            .cons (alike.noticeFrom counts starts _) .nil⟩
        · exact { alike.cleared with accessor := .none }

theorem endFragment (counts : Lockstep R) (alike : Alike R s t) :
    s.endFragment.Alike R t.endFragment := by
  unfold Scanner.endFragment
  dsimp only
  rw [alike.pending]
  split
  · exact .empty R
  · next written =>
    -- White space alone is no fragment, so something is pending and its start counts.
    have held : s.pending ≠ [] := by
      rw [alike.pending]
      rintro blank
      simp [blank, Text.trimWhite, Text.trimBy] at written
    exact ⟨alike.ended counts alike.index,
      .cons (alike.noticeFrom counts (alike.pendingStart held) _) .nil⟩

theorem finish (counts : Lockstep R) (alike : Alike R s t) : s.finish.Alike R t.finish := by
  obtain ⟨regions, alike⟩ := alike.endRegion counts
  obtain ⟨accessors, alike⟩ := alike.endAccessor counts
  have fragments := alike.endFragment counts
  constructor
  · exact List.rel_append (List.rel_append regions.sentences accessors.sentences)
      fragments.sentences
  · exact List.rel_append (List.rel_append regions.notices accessors.notices) fragments.notices

end Alike

/-- The characters that start a region. -/
def regionMarks : List Char := ['#', '@', '\x7b', '"', '\'']

theorem ofOpening?_eq_none {escaped : Bool} {c : Char} (other : c ∉ regionMarks) :
    Region.ofOpening? escaped c = none := by
  simp only [regionMarks, List.mem_cons, List.not_mem_nil, or_false, not_or] at other
  obtain ⟨comment, flag, code, double, single⟩ := other
  have unquoted : Quote.ofChar? c = none := by
    unfold Quote.ofChar?
    split
    · exact absurd rfl double
    · exact absurd rfl single
    · rfl
  simp [Region.ofOpening?, comment, flag, code, unquoted]

/-- The region that is open behind a character. -/
def regionAfter (s : Scanner) (c : Char) : Option Region :=
  match s.region with
  | some region => if region.fate s.escaped c none = .closes then none else some region
  | none => Region.ofOpening? s.escaped c

/-- Whether a character closes a region does not depend on the one that follows. -/
theorem fate_closes_iff (region : Region) (escaped : Bool) (c : Char) (next : Option Char) :
    region.fate escaped c next = .closes ↔ region.fate escaped c none = .closes := by
  cases region with
  | string quote => rfl
  | code =>
    by_cases backslash : c = '\\'
    · subst backslash
      by_cases brace : next = some '\x7d' <;> simp [Region.fate, brace]
    · simp [Region.fate, backslash]
  | comment | flag =>
    by_cases newline : c = '\n'
    · simp [Region.fate, newline]
    · by_cases carriage : c = '\r' ∧ next = some '\n' <;> simp [Region.fate, newline, carriage]

theorem perform_region {c : Char} {next : Option Char} {action : Action}
    (chosen : Chosen s c next action) : (s.perform c action).2.region = s.regionAfter c := by
  have closed (outside : s.region = none) (other : c ∉ regionMarks) : s.region = s.regionAfter c := by
    rw [regionAfter, outside, ofOpening?_eq_none other]
  cases chosen with
  | keep inside fate =>
    have stays := (not_congr (fate_closes_iff _ _ c next)).mp (by rw [fate]; decide)
    simp [perform, gather, regionAfter, inside, stays]
  | drop inside fate =>
    have stays := (not_congr (fate_closes_iff _ _ c next)).mp (by rw [fate]; decide)
    simp [perform, regionAfter, inside, stays]
  | leave inside fate =>
    have closes := (fate_closes_iff _ _ c next).mp fate
    simp [perform, regionAfter, inside, closes]
  | enter outside opened => simp [perform, regionAfter, outside, opened]
  | operator outside _ spelled =>
    have apart : ∀ d ∈ operatorChars, d ∉ regionMarks := by simp [operatorChars, regionMarks]
    exact closed outside (apart c spelled)
  | openAccessor outside _ bracket => exact closed outside (by rw [bracket]; decide)
  | closeAccessor outside _ bracket => exact closed outside (by rw [bracket]; decide)
  | assignMember outside _ equals => exact closed outside (by rw [equals]; decide)
  | terminate outside _ mark =>
    refine closed outside ?_
    simp only [terminators, List.mem_cons, Prod.mk.injEq, List.not_mem_nil, or_false] at mark
    rcases mark with ⟨rfl, _⟩ | ⟨rfl, _⟩ | ⟨rfl, _⟩ | ⟨rfl, _⟩ <;> decide
  | fold outside unopened =>
    rw [perform, gatherFolded_region, regionAfter, outside, unopened]

/-- The region that is open behind a character, and whether the next character is escaped. -/
def modeAfter (s : Scanner) (c : Char) : Option Region × Bool :=
  if s.swallow then (s.region, s.escaped) else (s.regionAfter c, c == '\\' && !s.escaped)

theorem mode_of_step {c : Char} {next : Option Char} {sentences : List Sentence} {after : Scanner}
    (stepped : s.step c next = .ok (sentences, after)) :
    (after.region, after.escaped) = s.modeAfter c := by
  obtain ⟨swallow, _, rfl⟩ | ⟨reads, action, chosen, _, rfl⟩ := step_eq_ok stepped
  · rw [modeAfter, if_pos swallow]
    rfl
  · have region := perform_region chosen
    simp [modeAfter, reads, advance, region]

/-- The mode that a text leads to does not depend on what follows it. -/
theorem Scans.mode {following other : Option Char} {first second : List Sentence} {a b : Scanner}
    (run : Scans following s text first a) (run' : Scans other s text second b) :
    (a.region, a.escaped) = (b.region, b.escaped) := by
  induction run generalizing second with
  | nil =>
    cases run'
    rfl
  | @cons s after last c rest _ _ stepped tail ih =>
    cases run' with
    | cons stepped' tail' =>
      cases rest with
      | cons d rest =>
        -- What follows the text is not in sight yet.
        obtain ⟨_, rfl⟩ := Prod.mk.inj (Except.ok.inj (stepped.symm.trans stepped'))
        exact ih tail'
      | nil =>
        cases tail
        cases tail'
        rw [mode_of_step stepped, mode_of_step stepped']

/-- What a scanner makes of the rest of a source. -/
def Completes (s : Scanner) (text : List Char) (scanned : Scanned) : Prop :=
  ∃ sentences last, Scans none s text sentences last ∧
    scanned = ⟨sentences ++ last.finish.sentences, last.finish.notices⟩

theorem exists_completes (s : Scanner) (text : List Char) : ∃ scanned, s.Completes text scanned := by
  obtain ⟨sentences, last, scans⟩ := exists_scans none s text
  exact ⟨_, sentences, last, scans, rfl⟩

theorem Scans.completes {before : List Char} {first : List Sentence}
    (run : Scans text.head? s before first t) (rest : t.Completes text scanned) :
    s.Completes (before ++ text) { scanned with sentences := first ++ scanned.sentences } := by
  obtain ⟨sentences, last, scans, rfl⟩ := rest
  rw [← Option.or_none (o := text.head?)] at run
  exact ⟨_, last, run.append scans, by simp⟩

/-- The rest of a source is completed alike by scanners that are alike. -/
theorem Alike.completes (counts : Lockstep R) (alike : Alike R s t)
    (behind : ∀ c ∈ text.head?, SameBehind s t c) (completes : s.Completes text scanned) :
    ∃ other, t.Completes text other ∧ scanned.Alike R other := by
  obtain ⟨sentences, last, scans, rfl⟩ := completes
  obtain ⟨others, last', scans', same, ends⟩ := alike.scans counts behind scans
  have finishes := ends.finish counts
  exact ⟨_, ⟨others, last', scans', rfl⟩, List.rel_append same finishes.sentences,
    finishes.notices⟩

end Scanner

theorem scan_eq_ok_iff {source : String} {scanned : Scanned} :
    scan source = .ok scanned ↔ Scanner.Completes {} source.toList scanned := by
  constructor
  · intro read
    obtain ⟨sentences, last, scans⟩ := Scanner.exists_scans none {} source.toList
    rw [scan_of_scans scans] at read
    cases read
    exact ⟨sentences, last, scans, rfl⟩
  · rintro ⟨sentences, last, scans, rfl⟩
    exact scan_of_scans scans

/-- A source is read by reading its first part and completing the rest. -/
theorem scan_of_parts {first second : String} {sentences : List Sentence} {between : Scanner}
    {scanned : Scanned}
    (run : Scanner.Scans second.toList.head? {} first.toList sentences between)
    (rest : between.Completes second.toList scanned) :
    scan (first ++ second) = .ok { scanned with sentences := sentences ++ scanned.sentences } := by
  rw [scan_eq_ok_iff, String.toList_append]
  exact run.completes rest

/-- A scanner between two pieces of text, where nothing is pending and nothing is open. -/
def Scanner.Resting (s : Scanner) : Prop :=
  s.region = none ∧ s.accessor = none ∧ s.escaped = false ∧ s.pending = [] ∧ s.swallow = false

instance (s : Scanner) : Decidable s.Resting :=
  inferInstanceAs (Decidable (_ ∧ _))

namespace Scanner.Resting

variable {s t : Scanner}

theorem alike {R : Nat → Nat → Prop} (rests : s.Resting) (rests' : t.Resting)
    (index : R s.index t.index) : Alike R s t := by
  obtain ⟨region, accessor, escaped, pending, swallow⟩ := rests
  obtain ⟨region', accessor', escaped', pending', swallow'⟩ := rests'
  constructor
  case index => exact index
  case region => rw [region, region']
  case regionStart => exact fun inside => absurd region inside
  case accessor =>
    rw [accessor, accessor']
    exact .none
  case escaped => rw [escaped, escaped']
  case pending => rw [pending, pending']
  case pendingStart => exact fun held => absurd pending held
  case swallow => rw [swallow, swallow']

theorem of_alike {R : Nat → Nat → Prop} (rests : s.Resting) (alike : Alike R s t) : t.Resting := by
  obtain ⟨region, accessor, escaped, pending, swallow⟩ := rests
  refine ⟨alike.region ▸ region, ?_, alike.escaped ▸ escaped, alike.pending ▸ pending,
    alike.swallow ▸ swallow⟩
  rw [← Option.isNone_iff_eq_none, ← alike.isNone_accessor, accessor]
  rfl

theorem finish (rests : s.Resting) : s.finish = {} := by
  obtain ⟨region, accessor, _, pending, _⟩ := rests
  simp [Scanner.finish, endRegion, endAccessor, endFragment, region, accessor, pending,
    Text.trimWhite, Text.trimBy]

end Scanner.Resting

namespace Scanner

variable {s : Scanner} {c : Char} {next : Option Char}

theorem Scans.index {following : Option Char} {text : List Char} {sentences : List Sentence}
    {last : Scanner} (scans : Scans following s text sentences last) :
    last.index = s.index + text.length := by
  induction scans with
  | nil => rfl
  | @cons s after _ c rest _ _ stepped _ ih =>
    have counted : after.index = s.index + 1 := by
      obtain ⟨_, _, rfl⟩ | ⟨_, action, _, _, rfl⟩ := step_eq_ok stepped
      · rfl
      · simp [advance]
    rw [ih, counted, List.length_cons]
    omega

/-- Where the end of the input has nothing to report, no region and no accessor is open. -/
theorem closed_of_quiet (quiet : s.finish.notices = []) : s.region = none ∧ s.accessor = none := by
  cases inside : s.region with
  | some region => simp [finish, endRegion, inside] at quiet
  | none =>
    cases accessor : s.accessor with
    | some start => simp [finish, endRegion, inside, endAccessor, accessor] at quiet
    | none => exact ⟨rfl, rfl⟩

/-- The characters that end a sentence without looking around. -/
def endMarks : List Char := [';', ':', ',']

theorem fate_endMark (mark : c ∈ endMarks) (escaped : Bool) (next : Option Char) (region : Region) :
    region.fate escaped c next = .kept := by
  simp only [endMarks, List.mem_cons, List.not_mem_nil, or_false] at mark
  rcases mark with rfl | rfl | rfl <;> cases region with
  | string quote => cases quote <;> simp [Region.fate, Quote.char]
  | _ => simp [Region.fate]

theorem action?_endMark (mark : c ∈ endMarks) (closed : s.region = none) :
    (s.accessor ≠ none ∧ s.action? c next = some .fold) ∨
      ∃ kind, s.accessor = none ∧ s.action? c next = some (.terminate kind) := by
  simp only [endMarks, List.mem_cons, List.not_mem_nil, or_false] at mark
  have unopened : Region.ofOpening? s.escaped c = none := by
    rcases mark with rfl | rfl | rfl <;> cases s.escaped <;> rfl
  have plain : c ∉ operatorChars := by
    rcases mark with rfl | rfl | rfl <;> decide
  rw [action?_of_plain closed unopened plain]
  cases accessor : s.accessor with
  | some start =>
    left
    rcases mark with rfl | rfl | rfl <;> simp [accessorRule, accessor]
  | none =>
    right
    rcases mark with rfl | rfl | rfl <;> simp [accessorRule, accessor, terminatorRule]

/-- A terminator that is read and not found to stand in something open leaves nothing over. -/
theorem resting_of_endMark {sentences : List Sentence} {last : Scanner} (mark : c ∈ endMarks)
    (reads : s.swallow = false) (stepped : s.step c next = .ok (sentences, last))
    (quiet : last.finish.notices = []) : last.Resting ∧ last.previous = some c := by
  obtain ⟨closed, outside⟩ := closed_of_quiet quiet
  cases inside : s.region with
  | some region =>
    have claimed : s.action? c next = some .keep := by
      simp [action?, rules, regionRule, inside, fate_endMark mark]
    rw [step_of_action reads claimed] at stepped
    cases stepped
    rw [show s.region = none from closed] at inside
    cases inside
  | none =>
    obtain ⟨within, claimed⟩ | ⟨kind, _, claimed⟩ := action?_endMark mark inside
    · rw [step_of_action reads claimed] at stepped
      cases stepped
      have accessor : (s.gatherFolded c).accessor = none := outside
      rw [gatherFolded_accessor] at accessor
      exact absurd accessor within
    · rw [step_of_action reads claimed] at stepped
      cases stepped
      have unescaped : (c == '\\' && !s.escaped) = false := by
        simp only [endMarks, List.mem_cons, List.not_mem_nil, or_false] at mark
        rcases mark with rfl | rfl | rfl <;> rfl
      exact ⟨⟨closed, outside, unescaped, rfl, reads⟩, rfl⟩

/-- A text that ends with a terminator and has nothing to report leaves nothing over. -/
theorem Scans.resting_of_endMark {following : Option Char} {text : List Char}
    {sentences : List Sentence} {last : Scanner} (scans : Scans following s text sentences last)
    (reads : s.swallow = false) (ends : text.getLast? = some c) (mark : c ∈ endMarks)
    (quiet : last.finish.notices = []) : last.Resting ∧ last.previous = some c := by
  obtain ⟨init, rfl⟩ := List.getLast?_eq_some_iff.mp ends
  obtain ⟨_, _, between, before, after, _⟩ := scans.split
  have reads : between.swallow = false := by
    refine before.swallow_eq_false reads ?_
    rintro d ⟨rfl⟩
    simp only [endMarks, List.mem_cons, List.not_mem_nil, or_false] at mark
    rcases mark with rfl | rfl | rfl <;> decide
  cases after with
  | cons stepped rest =>
    cases rest
    exact Scanner.resting_of_endMark mark reads stepped quiet

end Scanner

/-- The span that lies `count` characters further on. -/
def Span.shift (count : Nat) (span : Span) : Span :=
  ⟨span.start + count, span.stop + count, Nat.add_le_add_right span.start_le_stop count⟩

def Sentence.shift (count : Nat) (sentence : Sentence) : Sentence :=
  { sentence with span := sentence.span.shift count }

def Notice.shift (count : Nat) (notice : Notice) : Notice :=
  { notice with span := notice.span.map (Span.shift count) }

/-- Positions that differ by a fixed count. -/
theorem Lockstep.shift (count : Nat) : Lockstep fun i j => j = i + count where
  succ := by
    intro i j same
    omega
  max := by
    intro i j k l first second
    omega

section

variable {count : Nat}

theorem Span.Alike.eq_shift {a b : Span} (alike : a.Alike (fun i j => j = i + count) b) :
    b = a.shift count := by
  obtain ⟨start, stop, _⟩ := b
  obtain ⟨rfl, rfl⟩ := alike
  rfl

theorem Sentence.Alike.eq_shift {a b : Sentence} (alike : a.Alike (fun i j => j = i + count) b) :
    b = a.shift count := by
  obtain ⟨kind, text, span⟩ := b
  obtain ⟨rfl, rfl, start, stop⟩ := alike
  exact congrArg (Sentence.mk a.kind a.text) (Span.Alike.eq_shift ⟨start, stop⟩)

theorem Notice.Alike.eq_shift {a b : Notice} (alike : a.Alike (fun i j => j = i + count) b) :
    b = a.shift count := by
  obtain ⟨finding, span⟩ := b
  obtain ⟨_, here⟩ := a
  obtain ⟨rfl, spans⟩ := alike
  cases spans with
  | none => rfl
  | some spans => rw [spans.eq_shift]; rfl

theorem Scanned.Alike.eq_shift {a b : Scanned} (alike : a.Alike (fun i j => j = i + count) b) :
    b = ⟨a.sentences.map (Sentence.shift count), a.notices.map (Notice.shift count)⟩ := by
  have sentences := List.forall₂_map_left_iff.mpr
    (alike.sentences.imp fun _ _ same => same.eq_shift.symm)
  have notices := List.forall₂_map_left_iff.mpr
    (alike.notices.imp fun _ _ same => same.eq_shift.symm)
  rw [List.forall₂_eq_eq_eq] at sentences notices
  rw [sentences, notices]

end

/-- Reading a source is compositional at terminators. Behind a first part that ends with one and has
nothing to report, the second part is read as if it stood alone, only further on. -/
theorem scan_append_terminated (first second : String) (c : Char) (scanned : Scanned)
    (ends : first.toList.getLast? = some c) (mark : c = ';' ∨ c = ':' ∨ c = ',')
    (read : scan first = .ok scanned) (quiet : scanned.notices = []) :
    ∃ rest, scan second = .ok rest ∧
      scan (first ++ second) = .ok
        { sentences := scanned.sentences ++ rest.sentences.map (Sentence.shift first.length)
          notices := rest.notices.map (Notice.shift first.length) } := by
  obtain ⟨sentences, last, scans, rfl⟩ := scan_eq_ok_iff.mp read
  have marked : c ∈ Scanner.endMarks := by simpa [Scanner.endMarks] using mark
  have index : last.index = 0 + first.length := by
    rw [scans.index, String.length_toList]
  have blind : ∀ d ∈ first.toList.getLast?, d ∉ Scanner.lookahead := by
    intro d member
    obtain rfl : c = d := by simpa [ends] using member
    rcases mark with rfl | rfl | rfl <;> decide
  -- The last character was read as a terminator, so that the scanner rests behind it.
  obtain ⟨rests, previous⟩ := scans.resting_of_endMark rfl ends marked quiet
  have behind : ∀ d ∈ second.toList.head?, Scanner.SameBehind {} last d := by
    intro d _
    left
    rcases mark with rfl | rfl | rfl <;> simp [previous] <;> rfl
  obtain ⟨rest, completes⟩ := Scanner.exists_completes {} second.toList
  obtain ⟨other, completes', shifted⟩ :=
    (Scanner.Resting.alike (by decide) rests index).completes (.shift first.length) behind completes
  refine ⟨rest, scan_eq_ok_iff.mpr completes, ?_⟩
  rw [scan_of_parts (scans.of_notMem_lookahead blind _) completes', shifted.eq_shift, rests.finish]
  simp

/-- The second part opens a string that is never closed, which is reported at its place behind the
first part. -/
theorem open_string_shifted :
    ∃ scanned rest, scan "if: [a];" = .ok scanned ∧ scanned.notices = [] ∧
      scan " x = \"y" = .ok rest ∧
      rest.notices = [⟨.openString .double, some (.between 5 7)⟩] ∧
      scan ("if: [a];" ++ " x = \"y") = .ok
        { sentences := scanned.sentences ++ rest.sentences.map (Sentence.shift 8)
          notices := rest.notices.map (Notice.shift 8) } := by
  have first : scan "if: [a];" = .ok
      ⟨[⟨.opening, "if", .between 0 3⟩, ⟨.accessorStart, "", .between 4 5⟩,
        ⟨.accessorLastItem, "a", .between 5 7⟩, ⟨.accessorEnd, "", .between 6 7⟩,
        ⟨.closing, "", .between 7 8⟩], []⟩ := rfl
  have second : scan " x = \"y" = .ok
      ⟨[⟨.assignmentKey, "x", .between 1 4⟩, ⟨.string .double, "y", .between 6 7⟩],
        [⟨.openString .double, some (.between 5 7)⟩]⟩ := rfl
  obtain ⟨rest, read, joined⟩ :=
    scan_append_terminated "if: [a];" " x = \"y" ';' _ rfl (.inl rfl) first rfl
  rw [second] at read
  cases read
  exact ⟨_, _, first, rfl, second, rfl, joined⟩

end Clausal
