import Clausal.Proofs.Layout

/-! What sentences are made of.

A sentence holds the contents of a region or a fragment that was gathered outside of regions, or it
is a mark without text. Fragments are folded while they are gathered: all that is left of the layout
in them are single spaces, and none of these stands in front.
-/

set_option autoImplicit false

namespace Clausal

namespace Sentence.Kind

/-- The kinds of the fragments that are gathered outside of regions. -/
def isFragment : Sentence.Kind → Bool
  | .opening | .closing | .enumerating | .assignmentKey | .unknown => true
  | .accessorMember | .accessorLastItem => true
  | _ => false

/-- The kinds that are all punctuation. -/
def isMark : Sentence.Kind → Bool
  | .accessorStart | .accessorAssignment | .accessorEnd => true
  | kind => kind.isOperator

theorem isMark_of_isOperator {kind : Sentence.Kind} (operator : kind.isOperator = true) :
    kind.isMark = true := by
  unfold isMark
  split
  · rfl
  · rfl
  · rfl
  · exact operator

theorem isMark_of_isFragment {kind : Sentence.Kind} (fragment : kind.isFragment = true) :
    kind.isMark = false := by
  cases kind <;> first | rfl | cases fragment

end Sentence.Kind

theorem Text.isPadding_of_notMem_layout {c : Char} (plain : c ∉ Text.layout) :
    Text.isPadding c = false := by
  rw [Bool.eq_false_iff]
  intro padding
  simp only [Text.isPadding, Bool.or_eq_true, beq_iff_eq] at padding
  rcases padding with rfl | rfl <;> exact plain (by decide)

/-- Text with its layout folded, last character first. -/
inductive Text.Folded : List Char → Prop where
  | nil : Folded []
  | letter {c : Char} {before : List Char} : c ∉ Text.layout → Folded before →
      Folded (c :: before)
  | space {c : Char} {before : List Char} : c ≠ ' ' → Folded (c :: before) →
      Folded (' ' :: c :: before)

namespace Text.Folded

variable {text : List Char}

theorem mem {c : Char} (folded : Folded text) (member : c ∈ text) : c ∉ Text.layout ∨ c = ' ' := by
  induction folded with
  | nil => cases member
  | letter plain _ ih =>
    rcases List.mem_cons.mp member with rfl | earlier
    · exact .inl plain
    · exact ih earlier
  | space _ _ ih =>
    rcases List.mem_cons.mp member with rfl | earlier
    · exact .inr rfl
    · exact ih earlier

/-- The first character, which is the last one of the reversed text, is no layout. -/
theorem first {c : Char} (folded : Folded text) (last : text.getLast? = some c) :
    c ∉ Text.layout := by
  induction folded with
  | nil => cases last
  | @letter d before plain _ ih =>
    cases before with
    | nil =>
      cases last
      exact plain
    | cons e before => exact ih (by simpa using last)
  | space _ _ ih => exact ih (by simpa using last)

theorem head?_trimPadding (folded : Folded text) :
    (Text.trimPadding text.reverse).head? = text.getLast? := by
  rw [Text.trimPadding, Text.head?_trimBy, List.head?_reverse]
  intro c front
  rw [List.head?_reverse] at front
  exact isPadding_of_notMem_layout (folded.first front)

end Text.Folded

namespace Scanner

variable {s : Scanner} {c : Char} {next : Option Char} {action : Action}

theorem gatherFolded_of_notMem_layout (s : Scanner) (plain : c ∉ Text.layout) :
    s.gatherFolded c = s.gather c := by
  simp only [Text.layout, List.mem_cons, List.not_mem_nil, or_false, not_or] at plain
  simp [gatherFolded, plain]

/-- Layout is dropped, or it is gathered as a space behind other text. -/
theorem gatherFolded_of_mem_layout (s : Scanner) (layout : c ∈ Text.layout) :
    s.gatherFolded c = s ∨ (s.pending ≠ [] ∧ s.gatherFolded c = s.gather ' ') := by
  simp only [gatherFolded, shown_of_layout layout, true_and]
  split
  · exact .inl rfl
  · next apart => exact .inr ⟨fun empty => apart (.inl empty), rfl⟩

theorem gatherFolded_folded (c : Char) (folded : Text.Folded s.pending) :
    Text.Folded (s.gatherFolded c).pending := by
  by_cases layout : c ∈ Text.layout
  · rw [gatherFolded_layout layout, spaced]
    split
    · exact folded
    · next apart =>
      cases pending : s.pending with
      | nil => exact absurd (.inl pending) apart
      | cons d before =>
        rw [pending] at folded apart
        exact .space (by simpa using apart) folded
  · rw [s.gatherFolded_of_notMem_layout layout]
    exact .letter layout folded

/-- Whether what is pending is folded, if it was gathered outside of regions. -/
def HoldsFolded (s : Scanner) : Prop :=
  s.region = none → Text.Folded s.pending

theorem HoldsFolded.perform (chosen : Chosen s c next action) (folded : s.HoldsFolded) :
    (s.perform c action).2.HoldsFolded := by
  cases chosen with
  | keep inside | drop inside =>
    intro outside
    have outside : s.region = none := outside
    rw [inside] at outside
    cases outside
  | enter =>
    intro outside
    cases outside
  | fold outside => exact fun _ => gatherFolded_folded c (folded outside)
  | leave | operator | openAccessor | closeAccessor | assignMember | terminate =>
    exact fun _ => .nil

theorem HoldsFolded.step {sentences : List Sentence} {after : Scanner} (folded : s.HoldsFolded)
    (stepped : s.step c next = .ok (sentences, after)) : after.HoldsFolded := by
  obtain ⟨_, _, rfl⟩ | ⟨_, action, chosen, _, rfl⟩ := step_eq_ok stepped
  · exact folded
  · exact folded.perform chosen

/-- What can come of the pending text when it ends before `stop`. -/
inductive Ends (s : Scanner) (stop : Nat) : List Sentence → Prop where
  | nothing : Ends s stop []
  | contents {region : Region} : s.region = some region →
      Ends s stop (s.ended region.kind region.trims stop)
  | fragment {kind : Sentence.Kind} : s.region = none → kind.isFragment = true →
      kind.standsAlone = false → Ends s stop (s.ended kind true stop)

/-- The sentences that a character can complete: what it ends, and a mark of its own behind it. Only
the semicolon is kept where it ends nothing. The flag tells whether the next character belongs to
the mark. -/
inductive Yields (s : Scanner) : List Sentence → Bool → Prop where
  | ends {sentences : List Sentence} : s.Ends (s.index + 1) sentences → Yields s sentences false
  | closes : s.region = none → Yields s (s.ended .closing true (s.index + 1)) false
  | marks {sentences : List Sentence} {kind : Sentence.Kind} {wide : Bool} :
      s.Ends (s.index + 1) sentences → kind.isMark = true →
      Yields s (sentences ++ [s.markerHere kind wide]) wide

theorem endedFragment_ends (outside : s.region = none) : s.Ends (s.index + 1) s.endedFragment := by
  apply Ends.fragment outside
  · split <;> rfl
  · split <;> rfl

theorem terminate_yields {kind : Sentence.Kind} (outside : s.region = none)
    (ends : (c, kind) ∈ terminators) : s.Yields (s.ended kind true (s.index + 1)) false := by
  simp only [terminators, List.mem_cons, Prod.mk.injEq, List.not_mem_nil, or_false] at ends
  rcases ends with ⟨_, rfl⟩ | ⟨_, rfl⟩ | ⟨_, rfl⟩ | ⟨_, rfl⟩
  · exact .closes outside
  · exact .ends (.fragment outside rfl rfl)
  · exact .ends (.fragment outside rfl rfl)
  · exact .ends (.fragment outside rfl rfl)

theorem perform_yields (chosen : Chosen s c next action) (reads : s.swallow = false) :
    s.Yields (s.perform c action).1 (s.perform c action).2.swallow := by
  cases chosen with
  | keep | drop =>
    have same : s.Yields [] s.swallow := reads ▸ .ends .nothing
    exact same
  | fold =>
    rw [perform, gatherFolded_swallow, reads]
    exact .ends .nothing
  | leave inside =>
    simp only [perform, reads]
    exact .ends (.contents inside)
  | enter outside =>
    simp only [perform, reads]
    split
    · exact .ends (endedFragment_ends outside)
    · exact .ends .nothing
  | operator outside _ _ operator =>
    exact .marks (endedFragment_ends outside) (Sentence.Kind.isMark_of_isOperator operator)
  | openAccessor outside =>
    simp only [perform, reads]
    exact .marks (endedFragment_ends outside) rfl
  | closeAccessor outside =>
    simp only [perform, reads]
    exact .marks (.fragment outside rfl rfl) rfl
  | assignMember outside => exact .marks (endedFragment_ends outside) rfl
  | terminate outside _ ends =>
    simp only [perform, reads]
    exact terminate_yields outside ends

/-- The text that the pending fragment becomes. -/
def shown (s : Scanner) (trims : Bool) : List Char :=
  if trims then Text.trimPadding s.pending.reverse else s.pending.reverse

/-- The pending text becomes no sentence, or one without text where it ends, or one that starts
where the text did. -/
theorem ended_cases (s : Scanner) (kind : Sentence.Kind) (trims : Bool) (stop : Nat) :
    s.ended kind trims stop = [] ∨
      (kind.standsAlone = true ∧ s.ended kind trims stop = [⟨kind, "", .between s.index stop⟩]) ∨
      (s.shown trims ≠ [] ∧ s.ended kind trims stop =
        [⟨kind, String.ofList (s.shown trims), .between s.pendingStart stop⟩]) := by
  unfold ended
  dsimp only
  rw [← shown]
  split
  · split
    · next alone => exact .inr (.inl ⟨alone, rfl⟩)
    · exact .inl rfl
  · next written => exact .inr (.inr ⟨by simpa using written, rfl⟩)

theorem mem_ended {kind : Sentence.Kind} {trims : Bool} {stop : Nat} {sentence : Sentence}
    (member : sentence ∈ s.ended kind trims stop) :
    (kind.standsAlone = true ∧ sentence = ⟨kind, "", .between s.index stop⟩) ∨
      (s.shown trims ≠ [] ∧
        sentence = ⟨kind, String.ofList (s.shown trims), .between s.pendingStart stop⟩) := by
  rcases s.ended_cases kind trims stop with nothing | ⟨alone, one⟩ | ⟨written, one⟩
  · rw [nothing] at member
    cases member
  · rw [one, List.mem_singleton] at member
    exact .inl ⟨alone, member⟩
  · rw [one, List.mem_singleton] at member
    exact .inr ⟨written, member⟩

theorem pending_of_shown {trims : Bool} (written : s.shown trims ≠ []) : s.pending ≠ [] := by
  intro empty
  apply written
  cases trims <;> simp [shown, empty, Text.trimPadding, Text.trimBy]

theorem head?_shown {trims : Bool} (folded : trims = true → Text.Folded s.pending) :
    (s.shown trims).head? = s.pending.getLast? := by
  cases trims with
  | false => exact List.head?_reverse
  | true => exact (folded rfl).head?_trimPadding

/-- The mark that the end of the input puts behind an open accessor. -/
def missingEnd (s : Scanner) : List Sentence :=
  if s.accessor.isSome then [Sentence.marker .accessorEnd (.between s.index s.index)] else []

theorem mem_missingEnd {sentence : Sentence} (member : sentence ∈ s.missingEnd) :
    sentence = .marker .accessorEnd (.between s.index s.index) := by
  unfold missingEnd at member
  split at member
  · exact List.mem_singleton.mp member
  · cases member

theorem ended_of_needs {kind : Sentence.Kind} (needs : kind.standsAlone = false) (trims : Bool)
    (stop : Nat) :
    s.ended kind trims stop = [] ∨
      (s.shown trims ≠ [] ∧ s.ended kind trims stop =
        [⟨kind, String.ofList (s.shown trims), .between s.pendingStart stop⟩]) := by
  rcases s.ended_cases kind trims stop with nothing | ⟨alone, _⟩ | written
  · exact .inl nothing
  · rw [needs] at alone
    cases alone
  · exact .inr written

theorem ended_of_empty {kind : Sentence.Kind} (empty : s.pending = [])
    (needs : kind.standsAlone = false) (trims : Bool) (stop : Nat) :
    s.ended kind trims stop = [] := by
  rcases ended_of_needs needs trims stop with nothing | ⟨written, _⟩
  · exact nothing
  · exact absurd empty (pending_of_shown written)

theorem endFragment_of_empty (empty : s.pending = []) : s.endFragment = {} := by
  simp [endFragment, empty, Text.trimWhite, Text.trimBy]

theorem endFragment_ends (s : Scanner) (outside : s.region = none) :
    s.Ends s.index s.endFragment.sentences := by
  unfold endFragment
  dsimp only
  split
  · exact .nothing
  · exact .fragment outside rfl rfl

/-- The end of the input ends one piece of text at most, and then the accessor around it. -/
theorem finish_ends (s : Scanner) :
    ∃ sentences, s.Ends s.index sentences ∧ s.finish.sentences = sentences ++ s.missingEnd := by
  cases inside : s.region with
  | some region =>
    refine ⟨_, .contents inside, ?_⟩
    cases accessor : s.accessor with
    | none =>
      simp [finish, endRegion, inside, endAccessor, accessor, missingEnd, endFragment_of_empty]
    | some start =>
      simp only [finish, endRegion, inside, endAccessor, accessor, missingEnd, endFragment_of_empty]
      -- Nothing is pending behind the contents, so the accessor has no last item.
      rw [@ended_of_empty _ .accessorLastItem rfl rfl]
      simp
  | none =>
    cases accessor : s.accessor with
    | some start =>
      have item : s.Ends s.index (s.ended .accessorLastItem true s.index) :=
        .fragment inside rfl rfl
      refine ⟨_, item, ?_⟩
      simp [finish, endRegion, inside, endAccessor, accessor, missingEnd, endFragment_of_empty]
    | none =>
      refine ⟨_, s.endFragment_ends inside, ?_⟩
      simp [finish, endRegion, inside, endAccessor, accessor, missingEnd]

end Scanner

/-- What a sentence can be made of: the contents of a region, a fragment that was folded while it
was gathered, a semicolon behind nothing, or a mark. -/
inductive Sentence.Composed : Sentence → Prop where
  | contents {region : Region} {text : String} {span : Span} : Composed ⟨region.kind, text, span⟩
  | fragment {kind : Sentence.Kind} {gathered : List Char} {span : Span} :
      kind.isFragment = true → Text.Folded gathered → Text.trimPadding gathered.reverse ≠ [] →
      Composed ⟨kind, String.ofList (Text.trimPadding gathered.reverse), span⟩
  | semicolon {span : Span} : Composed ⟨.closing, "", span⟩
  | mark {kind : Sentence.Kind} {span : Span} : kind.isMark = true → Composed (.marker kind span)

namespace Scanner

variable {s : Scanner} {sentences : List Sentence}

theorem ended_composed {kind : Sentence.Kind} {stop : Nat} (fragment : kind.isFragment = true)
    (folded : Text.Folded s.pending) : ∀ sentence ∈ s.ended kind true stop, sentence.Composed := by
  intro sentence member
  rcases mem_ended member with ⟨alone, rfl⟩ | ⟨written, rfl⟩
  · obtain rfl : kind = .closing := by cases kind <;> cases fragment <;> cases alone; rfl
    exact .semicolon
  · exact .fragment fragment folded written

theorem Ends.composed {stop : Nat} (ends : s.Ends stop sentences) (folded : s.HoldsFolded) :
    ∀ sentence ∈ sentences, sentence.Composed := by
  cases ends with
  | nothing => nofun
  | fragment outside fragment => exact ended_composed fragment (folded outside)
  | contents =>
    intro sentence member
    rcases mem_ended member with ⟨_, rfl⟩ | ⟨_, rfl⟩ <;> exact .contents

theorem Yields.composed {wide : Bool} (yields : s.Yields sentences wide) (folded : s.HoldsFolded) :
    ∀ sentence ∈ sentences, sentence.Composed := by
  cases yields with
  | ends ends => exact ends.composed folded
  | closes outside => exact ended_composed rfl (folded outside)
  | marks ends marked =>
    intro sentence member
    rcases List.mem_append.mp member with ended | mark
    · exact ends.composed folded sentence ended
    · rw [List.mem_singleton.mp mark]
      exact .mark marked

theorem finish_composed (folded : s.HoldsFolded) :
    ∀ sentence ∈ s.finish.sentences, sentence.Composed := by
  obtain ⟨sentences, ends, finishes⟩ := s.finish_ends
  intro sentence member
  rw [finishes, List.mem_append] at member
  rcases member with ended | last
  · exact ends.composed folded sentence ended
  · rw [mem_missingEnd last]
    exact .mark rfl

theorem step_composed {c : Char} {next : Option Char} {after : Scanner} (folded : s.HoldsFolded)
    (stepped : s.step c next = .ok (sentences, after)) :
    ∀ sentence ∈ sentences, sentence.Composed := by
  obtain ⟨_, rfl, _⟩ | ⟨reads, action, chosen, rfl, _⟩ := step_eq_ok stepped
  · nofun
  · exact (perform_yields chosen reads).composed folded

end Scanner

theorem scan_composed (source : String) :
    ∃ scanned, scan source = .ok scanned ∧
      ∀ sentence ∈ scanned.sentences, sentence.Composed := by
  obtain ⟨done, last, ⟨folded, composed⟩, scanned⟩ := scan_induction source
    (motive := fun s done _ => s.HoldsFolded ∧ ∀ sentence ∈ done, sentence.Composed)
    ⟨fun _ => .nil, nofun⟩
    fun ⟨folded, composed⟩ stepped =>
      ⟨folded.step stepped, List.forall_mem_append.mpr
        ⟨composed, Scanner.step_composed folded stepped⟩⟩
  exact ⟨_, scanned, List.forall_mem_append.mpr ⟨composed, Scanner.finish_composed folded⟩⟩

end Clausal
