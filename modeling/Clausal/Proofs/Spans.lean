import Clausal.Proofs.Fragments
import Mathlib.Data.List.Chain

/-! Where sentences stand in their source.

A sentence points at the text it was made of, and the next one starts where nothing was taken
before, but for the one character that both ends a fragment and is a mark of its own. What carries
the proof is the frontier: no sentence that is finished reaches beyond it, and none that is still to
come starts before it.
-/

set_option autoImplicit false

namespace Clausal

namespace Text

/-- The text without white space. -/
def visible (cs : List Char) : List Char :=
  cs.filter fun c => !isWhite c

@[simp] theorem visible_append (first second : List Char) :
    visible (first ++ second) = visible first ++ visible second :=
  List.filter_append first second

theorem visible_trimPadding (cs : List Char) : visible (trimPadding cs) = visible cs := by
  apply filter_trimBy
  intro c padding
  simp [isWhite_of_isPadding padding]

theorem visible_sublist {first second : List Char} (part : first.Sublist second) :
    (visible first).Sublist (visible second) :=
  part.filter _

end Text

open Text

/-- A sentence that lies in its source. It starts with the first character of its text, unless the
text was trimmed there, and holds its text, white space aside. -/
structure Sentence.Points (source : List Char) (sentence : Sentence) : Prop where
  inside : sentence.span.start ≤ sentence.span.stop ∧ sentence.span.stop ≤ source.length
  first : sentence.kind ≠ .compilerFlag → ∀ c ∈ sentence.text.toList.head?,
    source[sentence.span.start]? = some c
  text : (visible sentence.text.toList).Sublist
    (visible (source.extract sentence.span.start sentence.span.stop))

/-- One sentence in front of another. They share one character at most. -/
def Sentence.Precedes (first second : Sentence) : Prop :=
  first.span.start < second.span.start ∧ first.span.stop ≤ second.span.stop ∧
    first.span.stop ≤ second.span.start + 1

theorem Sentence.points_of_blank {source : List Char} {sentence : Sentence}
    (blank : sentence.text = "") (bound : sentence.span.stop ≤ source.length) :
    sentence.Points source where
  inside := ⟨sentence.span.start_le_stop, bound⟩
  first := by simp [blank]
  text := by simp [blank, visible]

/-- Sentences in order, none of them empty in the source, that reach up to `limit`. -/
structure Sentence.Ordered (sentences : List Sentence) (limit : Nat) : Prop where
  chain : sentences.IsChain Precedes
  spans : ∀ sentence ∈ sentences, sentence.span.start < sentence.span.stop ∧
    sentence.span.stop ≤ limit

namespace Sentence.Ordered

variable {sentences others : List Sentence} {sentence : Sentence} {limit further : Nat}

theorem nil (limit : Nat) : Ordered [] limit :=
  ⟨.nil, nofun⟩

theorem singleton (proper : sentence.span.start < sentence.span.stop)
    (reach : sentence.span.stop ≤ limit) : Ordered [sentence] limit := by
  refine ⟨.singleton _, fun other member => ?_⟩
  rw [List.mem_singleton.mp member]
  exact ⟨proper, reach⟩

theorem mono (ordered : Ordered sentences limit) (further_off : limit ≤ further) :
    Ordered sentences further := by
  refine ⟨ordered.chain, fun sentence member => ?_⟩
  have spans := ordered.spans sentence member
  omega

theorem precedes (ordered : Ordered sentences limit) (member : sentence ∈ sentences)
    {other : Sentence} (behind : limit ≤ other.span.start) : sentence.Precedes other := by
  have spans := ordered.spans sentence member
  have proper := other.span.start_le_stop
  unfold Precedes
  omega

theorem append (ordered : Ordered sentences limit) (later : Ordered others further)
    (further_off : limit ≤ further)
    (precedes : ∀ sentence ∈ sentences, ∀ other ∈ others, sentence.Precedes other) :
    Ordered (sentences ++ others) further := by
  constructor
  · apply ordered.chain.append later.chain
    intro sentence last other first
    exact precedes sentence (List.mem_of_mem_getLast? last) other (List.mem_of_mem_head? first)
  · intro sentence member
    rcases List.mem_append.mp member with early | late
    · exact (ordered.mono further_off).spans sentence early
    · exact later.spans sentence late

end Sentence.Ordered

namespace Scanner

variable {s : Scanner} {read : List Char} {c : Char} {next : Option Char} {action : Action}

theorem markerHere_stop (s : Scanner) (kind : Sentence.Kind) (wide : Bool) :
    (s.markerHere kind wide).span.stop = s.index + 1 + wide.toNat := by
  simp only [markerHere, Sentence.marker]
  rw [Span.between_stop (by omega)]
  cases wide <;> rfl

/-- What a scanner keeps of the text it has read: where things started, and a fragment that stands
there. -/
structure Tracks (read : List Char) (s : Scanner) : Prop where
  region : s.region ≠ none → s.regionStart ≤ read.length
  accessor : ∀ start ∈ s.accessor, start ≤ read.length
  first : ∀ c ∈ s.pending.getLast?, read[s.pendingStart]? = some c
  text : (visible s.pending.reverse).Sublist (visible (read.drop s.pendingStart))

namespace Tracks

theorem pendingStart_lt (tracks : s.Tracks read) (held : s.pending ≠ []) :
    s.pendingStart < read.length := by
  obtain ⟨c, last⟩ := Option.isSome_iff_exists.mp (List.getLast?_isSome.mpr held)
  obtain ⟨inside, _⟩ := List.getElem?_eq_some_iff.mp (tracks.first c last)
  exact inside

theorem extend (tracks : s.Tracks read) (c : Char) : s.Tracks (read ++ [c]) where
  region inside := by
    have started := tracks.region inside
    simp only [List.length_append, List.length_singleton]
    omega
  accessor start inside := by
    have started := tracks.accessor start inside
    simp only [List.length_append, List.length_singleton]
    omega
  first d last := by
    have found := tracks.first d last
    obtain ⟨inside, _⟩ := List.getElem?_eq_some_iff.mp found
    rw [List.getElem?_append_left inside, found]
  text := tracks.text.trans (visible_sublist ((List.sublist_append_left _ _).drop _))

theorem cleared (tracks : s.Tracks read) : { s with pending := [] }.Tracks read :=
  { tracks with
    first := nofun
    text := List.nil_sublist _ }

/-- A character is gathered as it is, or as a space in place of other layout. -/
theorem gather (tracks : s.Tracks read) (index : s.index = read.length) {shown : Char}
    (white : shown ≠ c → isWhite shown = true) (same : s.pending = [] → shown = c) :
    (s.gather shown).Tracks (read ++ [c]) := by
  have taken : (visible [shown]).Sublist (visible [c]) := by
    by_cases unchanged : shown = c
    · rw [unchanged]
    · simp [visible, white unchanged]
  have longer := tracks.extend c
  cases pending : s.pending with
  | nil =>
    obtain rfl := same pending
    refine ⟨longer.region, longer.accessor, ?_, ?_⟩
    · simp [Scanner.gather, pending, index]
    · simp [Scanner.gather, pending, index]
  | cons d before =>
    have held : s.pending ≠ [] := by simp [pending]
    have started := tracks.pendingStart_lt held
    refine ⟨longer.region, longer.accessor, ?_, ?_⟩
    · simpa [Scanner.gather, pending] using longer.first
    · have text := tracks.text
      have kept : (visible (s.gather shown).pending.reverse).Sublist
          (visible (read.drop s.pendingStart) ++ visible [c]) := by
        simp only [Scanner.gather, List.reverse_cons, visible_append]
        exact text.append taken
      simpa [Scanner.gather, pending, List.drop_append_of_le_length started.le] using kept

theorem gatherFolded (tracks : s.Tracks read) (index : s.index = read.length) (c : Char) :
    (s.gatherFolded c).Tracks (read ++ [c]) := by
  by_cases layout : c ∈ Text.layout
  · obtain same | ⟨held, same⟩ := s.gatherFolded_of_mem_layout layout
    · rw [same]
      exact tracks.extend c
    · rw [same]
      exact tracks.gather index (fun _ => rfl) fun empty => absurd empty held
  · rw [s.gatherFolded_of_notMem_layout layout]
    exact tracks.gather index (fun other => absurd rfl other) fun _ => rfl

theorem perform (tracks : s.Tracks read) (index : s.index = read.length)
    (chosen : Chosen s c next action) : (s.perform c action).2.Tracks (read ++ [c]) := by
  have longer := tracks.extend c
  have here : s.index ≤ (read ++ [c]).length := by
    simp only [List.length_append, List.length_singleton]
    omega
  cases chosen with
  | drop => exact longer
  | keep => exact tracks.gather index (fun other => absurd rfl other) fun _ => rfl
  | fold => exact tracks.gatherFolded index c
  | enter => exact { longer.cleared with region := fun _ => here }
  | leave => exact { longer.cleared with region := fun inside => absurd rfl inside }
  | openAccessor =>
    refine { longer.cleared with accessor := fun start opened => ?_ }
    obtain rfl := Option.some.inj opened
    exact here
  | closeAccessor => exact { longer.cleared with accessor := nofun }
  | operator | assignMember => exact { longer.cleared with }
  | terminate => exact longer.cleared

/-- What is read from the start of the fragment lies in every span that reaches as far. -/
theorem text_sublist (tracks : s.Tracks read) (held : s.pending ≠ []) {stop : Nat}
    (reach : read.length ≤ stop) (rest : List Char) (trims : Bool) :
    (visible (s.shown trims)).Sublist (visible ((read ++ rest).extract s.pendingStart stop)) := by
  have started := tracks.pendingStart_lt held
  have same : visible (s.shown trims) = visible s.pending.reverse := by
    cases trims with
    | false => rfl
    | true => exact visible_trimPadding _
  rw [same]
  apply tracks.text.trans
  apply visible_sublist
  rw [List.extract_eq_take_drop, List.drop_append_of_le_length started.le, List.take_append,
    List.take_of_length_le (by rw [List.length_drop]; omega)]
  exact List.sublist_append_left _ _

theorem ended_points {kind : Sentence.Kind} {trims : Bool} {stop : Nat} {rest : List Char}
    (tracks : s.Tracks read) (index : s.index = read.length) (reach : read.length ≤ stop)
    (bound : stop ≤ (read ++ rest).length)
    (folded : kind ≠ .compilerFlag → trims = true → Folded s.pending) :
    ∀ sentence ∈ s.ended kind trims stop, sentence.Points (read ++ rest) := by
  intro sentence member
  rcases mem_ended member with ⟨_, rfl⟩ | ⟨written, rfl⟩
  · apply Sentence.points_of_blank rfl
    rw [Span.between_stop (by omega)]
    exact bound
  · have held := pending_of_shown written
    have started := tracks.pendingStart_lt held
    have ends : (Span.between s.pendingStart stop).stop = stop := Span.between_stop (by omega)
    refine ⟨⟨Span.start_le_stop _, ends.trans_le bound⟩, ?_, ?_⟩
    · intro plain c front
      simp only [String.toList_ofList, head?_shown (folded plain)] at front
      rw [Span.between_start, List.getElem?_append_left started]
      exact tracks.first c front
    · simp only [String.toList_ofList, Span.between_start, ends]
      exact tracks.text_sublist held reach rest trims

theorem ends_points {stop : Nat} {rest : List Char} {sentences : List Sentence}
    (tracks : s.Tracks read) (index : s.index = read.length) (folded : s.HoldsFolded)
    (ends : s.Ends stop sentences) (reach : read.length ≤ stop)
    (bound : stop ≤ (read ++ rest).length) :
    ∀ sentence ∈ sentences, sentence.Points (read ++ rest) := by
  cases ends with
  | nothing => nofun
  | @contents region inside =>
    apply tracks.ended_points index reach bound
    intro plain trims
    -- A flag is the one region that is trimmed.
    cases region with
    | flag => exact absurd rfl plain
    | comment | code | string => cases trims
  | fragment outside => exact tracks.ended_points index reach bound fun _ _ => folded outside

theorem yields_points {rest : List Char} {sentences : List Sentence} {wide : Bool}
    (tracks : s.Tracks read) (index : s.index = read.length) (folded : s.HoldsFolded)
    (yields : s.Yields sentences wide) (bound : s.index + 1 + wide.toNat ≤ (read ++ rest).length) :
    ∀ sentence ∈ sentences, sentence.Points (read ++ rest) := by
  cases yields with
  | ends ends => exact tracks.ends_points index folded ends (by omega) bound
  | closes outside =>
    exact tracks.ended_points index (by omega) bound fun _ _ => folded outside
  | marks ends =>
    intro sentence member
    rcases List.mem_append.mp member with ended | mark
    · exact tracks.ends_points index folded ends (by omega) (by omega) sentence ended
    · rw [List.mem_singleton.mp mark]
      apply Sentence.points_of_blank rfl
      rw [markerHere_stop]
      exact bound

end Tracks

theorem Ends.eq {stop : Nat} {sentences : List Sentence} (ends : s.Ends stop sentences) :
    sentences = [] ∨ ∃ kind trims, s.shown trims ≠ [] ∧
      sentences = [⟨kind, String.ofList (s.shown trims), .between s.pendingStart stop⟩] := by
  cases ends with
  | nothing => exact .inl rfl
  | @contents region =>
    have needs : region.kind.standsAlone = false := by cases region <;> rfl
    exact (ended_of_needs needs _ stop).imp_right fun written => ⟨_, _, written⟩
  | fragment _ _ needs =>
    exact (ended_of_needs needs _ stop).imp_right fun written => ⟨_, _, written⟩

/-- Where the next sentence starts at the earliest. -/
def frontier (s : Scanner) : Nat :=
  if s.pending = [] then s.index + s.swallow.toNat else s.pendingStart

theorem frontier_of_pending (held : s.pending ≠ []) : s.frontier = s.pendingStart :=
  if_neg held

theorem frontier_of_empty (empty : s.pending = []) : s.frontier = s.index + s.swallow.toNat :=
  if_pos empty

theorem frontier_advance_of_empty (empty : s.pending = []) (c : Char) :
    (s.advance c).frontier = s.index + 1 + s.swallow.toNat :=
  if_pos empty

theorem frontier_advance (s : Scanner) (c : Char) : s.frontier ≤ (s.advance c).frontier := by
  by_cases empty : s.pending = []
  · rw [frontier_of_empty empty, frontier_advance_of_empty empty]
    omega
  · rw [frontier_of_pending empty]
    exact (frontier_of_pending (s := s.advance c) empty).ge

theorem frontier_skip (swallows : s.swallow = true) (c : Char) :
    (s.skip c).frontier = s.frontier := by
  by_cases empty : s.pending = []
  · rw [frontier_of_empty empty, frontier_of_empty (s := s.skip c) empty]
    simp [skip, swallows]
  · rw [frontier_of_pending empty, frontier_of_pending (s := s.skip c) empty]
    rfl

theorem frontier_gather (reads : s.swallow = false) (c : Char) :
    (s.gather c).frontier = s.frontier := by
  rw [frontier_of_pending (by simp [gather])]
  simp [gather, frontier, reads]

/-- A character leaves what is pending to the ones behind it, or it clears it. -/
theorem perform_frontier (chosen : Chosen s c next action) (reads : s.swallow = false) :
    ((s.perform c action).1 = [] ∧ s.frontier ≤ (s.perform c action).2.frontier) ∨
      (s.perform c action).2.pending = [] := by
  cases chosen with
  | drop => exact .inl ⟨rfl, Nat.le_refl _⟩
  | keep => exact .inl ⟨rfl, (frontier_gather reads c).ge⟩
  | fold =>
    refine .inl ⟨rfl, ?_⟩
    simp only [perform]
    obtain same | ⟨shown, same⟩ := s.gatherFolded_eq c
    · rw [same]
    · rw [same, frontier_gather reads shown]
  | enter | leave | operator | openAccessor | closeAccessor | assignMember | terminate =>
    exact .inr rfl

section Ordering

variable (started : s.pending ≠ [] → s.pendingStart < s.index)

include started

theorem frontier_le (reads : s.swallow = false) : s.frontier ≤ s.index := by
  by_cases empty : s.pending = []
  · simp [frontier_of_empty empty, reads]
  · rw [frontier_of_pending empty]
    exact (started empty).le

theorem pending_ordered (held : s.pending ≠ []) {stop : Nat} (reach : s.index ≤ stop)
    (kind : Sentence.Kind) (text : String) :
    Sentence.Ordered [⟨kind, text, .between s.pendingStart stop⟩] stop := by
  have start := started held
  have reaches : (Span.between s.pendingStart stop).stop = stop := Span.between_stop (by omega)
  refine .singleton ?_ reaches.le
  simp only [Span.between_start, reaches]
  omega

theorem Ends.ordered {stop : Nat} {sentences : List Sentence} (ends : s.Ends stop sentences)
    (reach : s.index ≤ stop) :
    Sentence.Ordered sentences stop ∧
      ∀ sentence ∈ sentences, s.frontier ≤ sentence.span.start ∧ sentence.span.start < s.index := by
  rcases ends.eq with rfl | ⟨kind, trims, written, rfl⟩
  · exact ⟨.nil _, nofun⟩
  · have held := pending_of_shown written
    refine ⟨pending_ordered started held reach _ _, fun sentence member => ?_⟩
    rw [List.mem_singleton.mp member, frontier_of_pending held]
    exact ⟨Nat.le_refl _, started held⟩

theorem Yields.ordered {sentences : List Sentence} {wide : Bool} (reads : s.swallow = false)
    (yields : s.Yields sentences wide) :
    Sentence.Ordered sentences (s.index + 1 + wide.toNat) ∧
      ∀ sentence ∈ sentences, s.frontier ≤ sentence.span.start := by
  have here := frontier_le started reads
  cases yields with
  | ends ends =>
    obtain ⟨ordered, starts⟩ := ends.ordered started (Nat.le_succ _)
    exact ⟨ordered, fun sentence member => (starts sentence member).1⟩
  | closes =>
    rcases s.ended_cases .closing true (s.index + 1) with nothing | ⟨_, alone⟩ | ⟨written, text⟩
    · rw [nothing]
      exact ⟨.nil _, nofun⟩
    · rw [alone]
      refine ⟨.singleton ?_ ?_, fun sentence member => ?_⟩
      · simp [Span.between]
      · simp [Span.between]
      · rw [List.mem_singleton.mp member]
        exact here
    · have held := pending_of_shown written
      rw [text]
      refine ⟨pending_ordered started held (Nat.le_succ _) _ _, fun sentence member => ?_⟩
      rw [List.mem_singleton.mp member, frontier_of_pending held]
      exact Nat.le_refl _
  | @marks sentences kind _ ends =>
    obtain ⟨ordered, starts⟩ := ends.ordered started (Nat.le_succ _)
    have stop := s.markerHere_stop kind wide
    have start : (s.markerHere kind wide).span.start = s.index := rfl
    constructor
    · refine ordered.append (.singleton ?_ stop.le) (by omega) ?_
      · omega
      · -- The character that ends the fragment is also the mark, and they share it.
        intro sentence member mark last
        rw [List.mem_singleton.mp last, Sentence.Precedes, start, stop]
        have reach := (ordered.spans sentence member).2
        have before := (starts sentence member).2
        omega
    · intro sentence member
      rcases List.mem_append.mp member with early | last
      · exact (starts sentence early).1
      · rw [List.mem_singleton.mp last]
        exact here

end Ordering

/-- A scanner in the middle of its source, with the sentences that are finished: they are in order
up to the frontier, and each points at its text. -/
structure Placed (read rest : List Char) (s : Scanner) (done : List Sentence) : Prop where
  index : s.index = read.length
  tracks : s.Tracks read
  folded : s.HoldsFolded
  wide : s.swallow = true → rest ≠ []
  ordered : Sentence.Ordered done s.frontier
  points : ∀ sentence ∈ done, sentence.Points (read ++ rest)

namespace Placed

variable {rest : List Char} {done sentences : List Sentence} {after : Scanner}

theorem initial (source : List Char) : ({} : Scanner).Placed [] source [] where
  index := rfl
  tracks := ⟨nofun, nofun, nofun, List.nil_sublist _⟩
  folded _ := .nil
  wide := nofun
  ordered := .nil _
  points := nofun

theorem started (placed : s.Placed read rest done) (held : s.pending ≠ []) :
    s.pendingStart < s.index :=
  placed.index ▸ placed.tracks.pendingStart_lt held

theorem skip (placed : s.Placed read (c :: rest) done) (swallows : s.swallow = true) :
    (s.skip c).Placed (read ++ [c]) rest done where
  index := by simp [Scanner.skip, placed.index]
  tracks := { placed.tracks.extend c with }
  folded := placed.folded
  wide := nofun
  ordered := by
    rw [frontier_skip swallows]
    exact placed.ordered
  points := by simpa using placed.points

theorem perform_ordered (placed : s.Placed read (c :: rest) done) (reads : s.swallow = false)
    (chosen : Chosen s c next action) :
    Sentence.Ordered (done ++ (s.perform c action).1)
      ((s.perform c action).2.advance c).frontier := by
  rcases perform_frontier chosen reads with ⟨nothing, later⟩ | cleared
  · rw [nothing, List.append_nil]
    exact placed.ordered.mono (later.trans (frontier_advance _ c))
  · have here := frontier_le placed.started reads
    obtain ⟨ordered, starts⟩ := (perform_yields chosen reads).ordered placed.started reads
    rw [frontier_advance_of_empty cleared, perform_index]
    apply placed.ordered.append ordered (by omega)
    intro sentence early other late
    exact placed.ordered.precedes early (starts other late)

theorem perform_points (placed : s.Placed read (c :: rest) done) (reads : s.swallow = false)
    (chosen : Chosen s c next action) (wide : (s.perform c action).2.swallow = true → rest ≠ []) :
    ∀ sentence ∈ (s.perform c action).1, sentence.Points (read ++ c :: rest) := by
  apply placed.tracks.yields_points placed.index placed.folded (perform_yields chosen reads)
  rw [List.length_append, List.length_cons, ← placed.index]
  cases swallows : (s.perform c action).2.swallow with
  | false => simp
  | true =>
    have more := List.length_pos_iff.mpr (wide swallows)
    simp only [Bool.toNat_true]
    omega

theorem perform (placed : s.Placed read (c :: rest) done) (reads : s.swallow = false)
    (chosen : Chosen s c rest.head? action) :
    ((s.perform c action).2.advance c).Placed (read ++ [c]) rest
      (done ++ (s.perform c action).1) := by
  have wide : (s.perform c action).2.swallow = true → rest ≠ [] := by
    rintro swallows rfl
    obtain ⟨_, _, follows⟩ := swallow_of_chosen chosen reads swallows
    cases follows
  refine ⟨?_, { placed.tracks.perform placed.index chosen with }, ?_, wide, ?_, ?_⟩
  · simp [Scanner.advance, placed.index]
  · exact placed.folded.perform chosen
  · exact placed.perform_ordered reads chosen
  · intro sentence member
    rw [List.append_assoc, List.singleton_append]
    rcases List.mem_append.mp member with early | late
    · exact placed.points sentence early
    · exact placed.perform_points reads chosen wide sentence late

theorem step (placed : s.Placed read (c :: rest) done)
    (stepped : s.step c rest.head? = .ok (sentences, after)) :
    after.Placed (read ++ [c]) rest (done ++ sentences) := by
  obtain ⟨swallows, rfl, rfl⟩ | ⟨reads, action, chosen, rfl, rfl⟩ := step_eq_ok stepped
  · rw [List.append_nil]
    exact placed.skip swallows
  · exact placed.perform reads chosen

/-- A source is read to its end with every sentence in its place. -/
theorem exists_scan (source : String) :
    ∃ done last, Placed source.toList [] last done ∧
      scan source = .ok ⟨done ++ last.finish.sentences, last.finish.notices⟩ := by
  obtain ⟨done, last, ⟨read, whole, placed⟩, scanned⟩ := scan_induction source
    (motive := fun s done rest => ∃ read, source.toList = read ++ rest ∧ s.Placed read rest done)
    ⟨[], rfl, initial _⟩
    fun ⟨read, whole, placed⟩ stepped => ⟨read ++ [_], by simp [whole], placed.step stepped⟩
  rw [List.append_nil] at whole
  exact ⟨done, last, whole ▸ placed, scanned⟩

end Placed

/-- What the end of the input reports starts where the part began that it ends. -/
theorem finish_notices {notice : Notice} (member : notice ∈ s.finish.notices) :
    (∃ region, s.region = some region ∧ notice = s.noticeFrom s.regionStart region.unclosed) ∨
    (∃ start ∈ s.accessor, notice = s.noticeFrom start .openAccessor) ∨
    (s.pending ≠ [] ∧ ∃ text, notice = s.noticeFrom s.pendingStart (.missingTerminator text)) := by
  cases inside : s.region with
  | some region =>
    cases accessor : s.accessor with
    | none =>
      simp only [finish, endRegion, inside, endAccessor, accessor, endFragment_of_empty,
        List.append_nil, List.mem_singleton] at member
      exact .inl ⟨region, rfl, member⟩
    | some start =>
      simp only [finish, endRegion, inside, endAccessor, accessor, endFragment_of_empty,
        List.append_nil, List.mem_append, List.mem_singleton] at member
      rcases member with ended | opened
      · exact .inl ⟨region, rfl, ended⟩
      · exact .inr (.inl ⟨start, rfl, opened⟩)
  | none =>
    cases accessor : s.accessor with
    | some start =>
      simp only [finish, endRegion, inside, endAccessor, accessor, endFragment_of_empty,
        List.append_nil, List.nil_append, List.mem_singleton] at member
      exact .inr (.inl ⟨start, rfl, member⟩)
    | none =>
      simp only [finish, endRegion, inside, endAccessor, accessor, List.nil_append] at member
      have held : s.pending ≠ [] := by
        intro empty
        simp [endFragment_of_empty empty] at member
      unfold endFragment at member
      dsimp only at member
      split at member
      · cases member
      · exact .inr (.inr ⟨held, _, List.mem_singleton.mp member⟩)

theorem openAccessor_found_iff (s : Scanner) :
    (∃ notice ∈ s.finish.notices, notice.finding = .openAccessor) ↔ s.accessor.isSome = true := by
  constructor
  · rintro ⟨notice, member, found⟩
    rcases finish_notices member with ⟨region, _, rfl⟩ | ⟨start, opened, _⟩ | ⟨_, text, rfl⟩
    · cases region <;> cases found
    · exact Option.isSome_of_mem opened
    · cases found
  · intro opened
    obtain ⟨start, opened⟩ := Option.isSome_iff_exists.mp opened
    refine ⟨s.noticeFrom start .openAccessor, ?_, rfl⟩
    cases inside : s.region with
    | none => simp [finish, endRegion, inside, endAccessor, opened, noticeFrom]
    | some region => simp [finish, endRegion, inside, endAccessor, opened, noticeFrom]

theorem Placed.notices {done : List Sentence} {notice : Notice} (placed : s.Placed read [] done)
    (member : notice ∈ s.finish.notices) :
    ∃ start ≤ s.index, notice.span = some (.between start s.index) := by
  rcases finish_notices member with ⟨region, inside, rfl⟩ | ⟨start, opened, rfl⟩ | ⟨held, _, rfl⟩
  · exact ⟨_, placed.index ▸ placed.tracks.region (by simp [inside]), rfl⟩
  · exact ⟨_, placed.index ▸ placed.tracks.accessor start opened, rfl⟩
  · exact ⟨_, (placed.started held).le, rfl⟩

theorem Placed.finish {done : List Sentence} (placed : s.Placed read [] done) :
    ∃ body, Sentence.Ordered body s.index ∧
      (∀ sentence ∈ body, sentence.Points read) ∧
      done ++ s.finish.sentences = body ++ s.missingEnd := by
  obtain ⟨sentences, ends, finishes⟩ := s.finish_ends
  have reads : s.swallow = false := by
    rw [Bool.eq_false_iff]
    exact fun swallows => placed.wide swallows rfl
  obtain ⟨ordered, starts⟩ := ends.ordered placed.started (Nat.le_refl _)
  have points : ∀ sentence ∈ sentences, sentence.Points (read ++ []) :=
    placed.tracks.ends_points placed.index placed.folded ends placed.index.ge
      (by simp [placed.index])
  have early := placed.points
  rw [List.append_nil] at points early
  refine ⟨done ++ sentences, ?_, ?_, ?_⟩
  · apply placed.ordered.append ordered (frontier_le placed.started reads)
    intro sentence member other late
    exact placed.ordered.precedes member (starts other late).1
  · intro sentence member
    exact (List.mem_append.mp member).elim (early sentence) (points sentence)
  · rw [finishes, List.append_assoc]

/-- The end that is put behind an open accessor comes after everything else. -/
theorem isChain_missingEnd {body : List Sentence} (ordered : Sentence.Ordered body s.index) :
    (body ++ s.missingEnd).IsChain Sentence.Precedes := by
  unfold missingEnd
  split
  · apply ordered.chain.append (.singleton _)
    intro sentence last mark first
    obtain rfl := Option.some.inj first
    have spans := ordered.spans sentence (List.mem_of_mem_getLast? last)
    simp only [Sentence.Precedes, Sentence.marker, Span.between_start,
      Span.between_stop (Nat.le_refl _)]
    omega
  · rw [List.append_nil]
    exact ordered.chain

theorem missingEnd_points (bound : s.index = read.length) :
    ∀ sentence ∈ s.missingEnd, sentence.Points read := by
  intro sentence member
  rw [mem_missingEnd member]
  apply Sentence.points_of_blank rfl
  simp [Sentence.marker, Span.between_stop, bound]

end Scanner

/-- Sentences lie in their source in order, each at the text it was made of. Only the end of an
accessor that the input leaves open takes up nothing of the source, and stands behind it. -/
theorem scan_spans_ordered (source : String) :
    ∃ scanned, scan source = .ok scanned ∧
      scanned.sentences.IsChain Sentence.Precedes ∧
      (∀ sentence ∈ scanned.sentences, sentence.Points source.toList) ∧
      (∃ body, (∀ sentence ∈ body, sentence.span.start < sentence.span.stop) ∧
        scanned.sentences = body ++
          if ∃ notice ∈ scanned.notices, notice.finding = .openAccessor then
            [Sentence.marker .accessorEnd (.between source.length source.length)]
          else []) ∧
      ∀ notice ∈ scanned.notices, ∃ start ≤ source.length,
        notice.span = some (.between start source.length) := by
  obtain ⟨done, last, placed, scanned⟩ := Scanner.Placed.exists_scan source
  have length : last.index = source.length := placed.index
  obtain ⟨body, ordered, points, all⟩ := placed.finish
  refine ⟨_, scanned, ?_, ?_, ⟨body, ?_, ?_⟩, ?_⟩
  · rw [all]
    exact Scanner.isChain_missingEnd ordered
  · intro sentence member
    rw [all] at member
    rcases List.mem_append.mp member with early | late
    · exact points sentence early
    · exact Scanner.missingEnd_points placed.index sentence late
  · exact fun sentence member => (ordered.spans sentence member).1
  · simp only [all, last.openAccessor_found_iff, ← length]
    rfl
  · intro notice member
    rw [← length]
    exact placed.notices member

end Clausal
