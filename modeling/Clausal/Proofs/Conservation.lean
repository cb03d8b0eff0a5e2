import Clausal.Proofs.Scanning

/-! Text is neither invented, nor doubled, nor moved.

White space and punctuation apart, the texts of the sentences make up the source again, up to what
comments, flags and target code discard. What carries the proof is the text in transit: the texts of
the finished sentences, the pending fragment and the rest of the source, in this order.
-/

set_option autoImplicit false

namespace Clausal

namespace Text

/-- The characters that sentences may end with or consist of. -/
def isPunctuation (c : Char) : Bool :=
  c ∈ [';', ':', ',', '=', '(', ')', '[', ']', '"', '\'', '!', '&', '|', '+', '-', '*', '/', '<',
    '>']

/-- The text without white space and punctuation. -/
def strip (cs : List Char) : List Char :=
  cs.filter fun c => !(isWhite c || isPunctuation c)

@[simp] theorem strip_nil : strip [] = [] := rfl

@[simp] theorem strip_append (first second : List Char) :
    strip (first ++ second) = strip first ++ strip second :=
  List.filter_append first second

theorem strip_cons (c : Char) (cs : List Char) : strip (c :: cs) = strip [c] ++ strip cs :=
  strip_append [c] cs

theorem strip_white {c : Char} (white : isWhite c = true) : strip [c] = [] := by
  simp [strip, white]

theorem strip_punctuation {c : Char} (mark : isPunctuation c = true) : strip [c] = [] := by
  simp [strip, mark]

theorem strip_trimBy {p : Char → Bool} (white : ∀ {c : Char}, p c = true → isWhite c = true)
    (cs : List Char) : strip (trimBy p cs) = strip cs := by
  apply filter_trimBy
  intro c trimmed
  simp [white trimmed]

theorem strip_trimPadding (cs : List Char) : strip (trimPadding cs) = strip cs :=
  strip_trimBy isWhite_of_isPadding cs

theorem strip_trimWhite (cs : List Char) : strip (trimWhite cs) = strip cs :=
  strip_trimBy id cs

end Text

open Text

/-- The texts of sentences, one after the other. -/
def Sentence.texts (sentences : List Sentence) : List Char :=
  sentences.flatMap fun sentence => sentence.text.toList

open Sentence

@[simp] theorem Sentence.texts_append (first second : List Sentence) :
    texts (first ++ second) = texts first ++ texts second :=
  List.flatMap_append

@[simp] theorem Sentence.texts_nil : texts [] = [] := rfl

namespace Scanner

@[simp] theorem texts_marker (kind : Sentence.Kind) (span : Span) :
    texts [Sentence.marker kind span] = [] := rfl

@[simp] theorem texts_markerHere (s : Scanner) (kind : Sentence.Kind) (wide : Bool) :
    texts [s.markerHere kind wide] = [] := rfl

@[simp] theorem strip_ended (s : Scanner) (kind : Sentence.Kind) (trims : Bool) (stop : Nat) :
    strip (texts (s.ended kind trims stop)) = strip s.pending.reverse := by
  have kept : strip (if trims then trimPadding s.pending.reverse else s.pending.reverse)
      = strip s.pending.reverse := by
    split
    · exact strip_trimPadding _
    · rfl
  rw [← kept, ended]
  generalize (if trims then trimPadding s.pending.reverse else s.pending.reverse) = text
  cases text with
  | nil =>
    -- Nothing is left of the text, so it does not matter whether a sentence comes of it.
    rw [List.isEmpty_nil, if_pos rfl]
    split <;> rfl
  | cons c rest => simp [texts]

@[simp] theorem strip_endedFragment (s : Scanner) :
    strip (texts s.endedFragment) = strip s.pending.reverse :=
  s.strip_ended _ _ _

theorem strip_gather (s : Scanner) (c : Char) :
    strip (s.gather c).pending.reverse = strip s.pending.reverse ++ strip [c] := by
  simp [gather]

theorem strip_gatherFolded (s : Scanner) (c : Char) :
    strip (s.gatherFolded c).pending.reverse = strip s.pending.reverse ++ strip [c] := by
  -- Folding drops white space or turns it into other white space.
  have folded : strip [if c = '\n' ∨ c = '\r' ∨ c = '\t' then ' ' else c] = strip [c] := by
    split
    · next white => rcases white with rfl | rfl | rfl <;> rfl
    · rfl
  unfold gatherFolded
  dsimp only
  rw [← folded]
  generalize (if c = '\n' ∨ c = '\r' ∨ c = '\t' then ' ' else c) = shown
  split
  · next dropped => rw [dropped.1, strip_white rfl, List.append_nil]
  · exact s.strip_gather shown

/-- The text that reading a character leaves behind, finished or pending. -/
def carried (result : List Sentence × Scanner) : List Char :=
  texts result.1 ++ result.2.pending.reverse

/-- Whether no region is open that discards text. A string keeps all of its contents. -/
def KeepsText (s : Scanner) : Prop :=
  ∀ region, s.region = some region → region.keepsFragment = true

/-- The characters that start a region which discards text. -/
def discarding : List Char := ['#', '@', '\x7b']

variable {s : Scanner} {c : Char} {next : Option Char}

theorem keepsFragment_iff {region : Region} :
    region.keepsFragment = true ↔ ∃ quote, region = .string quote := by
  cases region <;> simp [Region.keepsFragment]

theorem punctuation_of_quote (quote : Quote) : isPunctuation quote.char = true := by
  cases quote <;> rfl

theorem punctuation_of_operator (member : c ∈ operatorChars) : isPunctuation c = true := by
  revert member
  simp only [operatorChars, List.mem_cons, List.not_mem_nil, or_false]
  rintro (rfl | rfl | rfl | rfl | rfl | rfl | rfl | rfl | rfl | rfl | rfl | rfl) <;> rfl

theorem punctuation_of_tail (member : c ∈ operatorTails) : isPunctuation c = true := by
  revert member
  simp only [operatorTails, List.mem_cons, List.not_mem_nil, or_false]
  rintro (rfl | rfl | rfl) <;> rfl

theorem punctuation_of_terminator {kind : Sentence.Kind} (member : (c, kind) ∈ terminators) :
    isPunctuation c = true := by
  simp only [terminators, List.mem_cons, Prod.mk.injEq, List.not_mem_nil, or_false] at member
  rcases member with ⟨rfl, _⟩ | ⟨rfl, _⟩ | ⟨rfl, _⟩ | ⟨rfl, _⟩ <;> rfl

theorem punctuation_of_string {escaped : Bool} {region : Region}
    (opened : Region.ofOpening? escaped c = some region) (keeps : region.keepsFragment = true) :
    isPunctuation c = true := by
  -- Only strings keep the fragment in front of them, and only quotation marks start strings.
  obtain ⟨quote, rfl⟩ := keepsFragment_iff.mp keeps
  unfold Region.ofOpening? at opened
  repeat' split at opened
  all_goals try cases opened
  obtain ⟨_, found, same⟩ := Option.map_eq_some_iff.mp opened
  cases same
  rw [Quote.ofChar?_eq_some_iff.mp found]
  exact punctuation_of_quote quote

theorem keepsFragment_of_ofOpening? {escaped : Bool} {region : Region}
    (opened : Region.ofOpening? escaped c = some region) (harmless : c ∉ discarding) :
    region.keepsFragment = true := by
  simp only [discarding, List.mem_cons, List.not_mem_nil, or_false, not_or] at harmless
  obtain ⟨noComment, noFlag, noCode⟩ := harmless
  simp only [Region.ofOpening?, noComment, noFlag, noCode, if_false] at opened
  split at opened
  · cases opened
  · obtain ⟨quote, _, rfl⟩ := Option.map_eq_some_iff.mp opened
    rfl

theorem fate_string (escaped : Bool) (quote : Quote) :
    Region.fate escaped c next (.string quote) ≠ .dropped ∧
      (Region.fate escaped c next (.string quote) = .closes → c = quote.char) := by
  simp only [Region.fate]
  split
  · next closing => exact ⟨by decide, fun _ => closing.1⟩
  · exact ⟨by decide, fun closes => by cases closes⟩

/-- Text that passes on the pending fragment and a character: never more than they hold, and all of
it unless text is being discarded. -/
structure PassesOn (s : Scanner) (c : Char) (text : List Char) : Prop where
  sublist : (strip text).Sublist (strip s.pending.reverse ++ strip [c])
  all : s.KeepsText → c ∉ discarding → strip text = strip s.pending.reverse ++ strip [c]

theorem PassesOn.of_eq {text : List Char}
    (same : strip text = strip s.pending.reverse ++ strip [c]) : s.PassesOn c text :=
  ⟨same ▸ List.Sublist.refl _, fun _ _ => same⟩

theorem PassesOn.of_mark {text : List Char} (mark : isPunctuation c = true)
    (same : strip text = strip s.pending.reverse) : s.PassesOn c text :=
  .of_eq (by rw [same, strip_punctuation mark, List.append_nil])

theorem perform_passesOn {action : Action} (chosen : Chosen s c next action) :
    s.PassesOn c (carried (s.perform c action)) := by
  cases chosen with
  | keep => exact .of_eq (s.strip_gather c)
  | fold => exact .of_eq (s.strip_gatherFolded c)
  | drop inside dropped =>
    -- A string drops nothing, so this region discards text anyway.
    refine ⟨List.sublist_append_left _ _, fun keeps => ?_⟩
    obtain ⟨quote, rfl⟩ := keepsFragment_iff.mp (keeps _ inside)
    exact absurd dropped (fate_string _ quote).1
  | @leave region inside closes =>
    have passed : strip (carried (s.perform c (.leave region))) = strip s.pending.reverse := by
      simp [carried, perform]
    refine ⟨passed ▸ List.sublist_append_left _ _, fun keeps _ => ?_⟩
    obtain ⟨quote, rfl⟩ := keepsFragment_iff.mp (keeps _ inside)
    have mark : isPunctuation c = true := by
      rw [(fate_string _ quote).2 closes]
      exact punctuation_of_quote quote
    rw [passed, strip_punctuation mark, List.append_nil]
  | @enter region _ opened =>
    by_cases kept : region.keepsFragment = true
    · exact .of_mark (punctuation_of_string opened kept) (by simp [carried, perform, kept])
    · have passed : strip (carried (s.perform c (.enter region))) = [] := by
        simp [carried, perform, kept]
      refine ⟨passed ▸ List.nil_sublist _, fun _ harmless => ?_⟩
      exact absurd (keepsFragment_of_ofOpening? opened harmless) kept
  | operator _ _ spelled =>
    exact .of_mark (punctuation_of_operator spelled) (by simp [carried, perform])
  | openAccessor _ _ bracket =>
    exact .of_mark (by rw [bracket]; rfl) (by simp [carried, perform])
  | closeAccessor _ _ bracket =>
    exact .of_mark (by rw [bracket]; rfl) (by simp [carried, perform])
  | assignMember _ _ equals => exact .of_mark (by rw [equals]; rfl) (by simp [carried, perform])
  | terminate _ _ mark =>
    exact .of_mark (punctuation_of_terminator mark) (by simp [carried, perform])

theorem perform_keepsText {action : Action} (chosen : Chosen s c next action) (keeps : s.KeepsText)
    (harmless : c ∉ discarding) : (s.perform c action).2.KeepsText := by
  cases chosen with
  | enter _ opened =>
    rintro region ⟨rfl⟩
    exact keepsFragment_of_ofOpening? opened harmless
  | leave =>
    rintro region ⟨⟩
  | fold =>
    intro region inside
    exact keeps region ((s.gatherFolded_region c) ▸ inside)
  | _ => exact keeps

theorem perform_swallow {action : Action} (chosen : Chosen s c next action)
    (reads : s.swallow = false) (swallows : (s.perform c action).2.swallow = true) :
    ∃ tail, next = some tail ∧ isPunctuation tail = true := by
  -- The second character of a wide operator is punctuation too.
  obtain ⟨tail, member, follows⟩ := swallow_of_chosen chosen reads swallows
  exact ⟨tail, follows, punctuation_of_tail member⟩

theorem strip_endFragment (s : Scanner) :
    strip (texts s.endFragment.sentences) = strip s.pending.reverse := by
  unfold endFragment
  dsimp only
  split
  · next blank =>
    rw [← strip_trimWhite s.pending.reverse, List.isEmpty_iff.mp blank]
    rfl
  · exact s.strip_ended _ _ _

theorem strip_endAccessor (s : Scanner) :
    strip (texts s.endAccessor.1.sentences) ++ strip s.endAccessor.2.pending.reverse
      = strip s.pending.reverse := by
  unfold endAccessor
  split
  · rfl
  · simp

theorem strip_endRegion (s : Scanner) :
    strip (texts s.endRegion.1.sentences) ++ strip s.endRegion.2.pending.reverse
      = strip s.pending.reverse := by
  unfold endRegion
  split
  · rfl
  · simp

theorem strip_finish (s : Scanner) :
    strip (texts s.finish.sentences) = strip s.pending.reverse := by
  -- Each of the three ends passes on what is pending, or leaves it to the next one.
  calc strip (texts s.finish.sentences)
    _ = strip (texts s.endRegion.1.sentences)
          ++ (strip (texts s.endRegion.2.endAccessor.1.sentences)
          ++ strip (texts s.endRegion.2.endAccessor.2.endFragment.sentences)) := by
      simp [finish]
    _ = strip s.pending.reverse := by
      rw [strip_endFragment, strip_endAccessor, strip_endRegion]

/-- What is on its way from the source to the sentences: finished, pending, and not yet read. -/
def inTransit (s : Scanner) (done : List Sentence) (rest : List Char) : List Char :=
  strip (texts done) ++ strip s.pending.reverse ++ strip rest

/-- The text in transit comes from the source; and while nothing discards text, it is all of the
source. -/
structure Conserves (source : List Char) (s : Scanner) (done : List Sentence) (rest : List Char) :
    Prop where
  sublist : (s.inTransit done rest).Sublist (strip source)
  skipped : s.swallow = true → ∃ tail, rest.head? = some tail ∧ isPunctuation tail = true
  all : (∀ c ∈ source, c ∉ discarding) →
    s.inTransit done rest = strip source ∧ s.KeepsText ∧ ∀ c ∈ rest, c ∉ discarding

theorem Conserves.skip {source rest : List Char} {done : List Sentence}
    (held : Conserves source s done (c :: rest)) (swallow : s.swallow = true) :
    Conserves source (s.skip c) done rest := by
  obtain ⟨tail, first, mark⟩ := held.skipped swallow
  obtain rfl : c = tail := by simpa using first
  have same : (s.skip c).inTransit done rest = s.inTransit done (c :: rest) := by
    rw [inTransit, inTransit, strip_cons, strip_punctuation mark]
    rfl
  refine ⟨same ▸ held.sublist, (fun contra => by cases contra), fun harmless => ?_⟩
  obtain ⟨all, keeps, left⟩ := held.all harmless
  exact ⟨same.trans all, keeps, fun d member => left d (by simp [member])⟩

theorem Conserves.perform {source rest : List Char} {done : List Sentence} {action : Action}
    (held : Conserves source s done (c :: rest)) (reads : s.swallow = false)
    (chosen : Chosen s c rest.head? action) :
    Conserves source ((s.perform c action).2.advance c) (done ++ (s.perform c action).1) rest := by
  have passed := perform_passesOn chosen
  have before : s.inTransit done (c :: rest)
      = strip (texts done) ++ (strip s.pending.reverse ++ strip [c]) ++ strip rest := by
    rw [inTransit, strip_cons]
    simp
  have after : ((s.perform c action).2.advance c).inTransit (done ++ (s.perform c action).1) rest
      = strip (texts done) ++ strip (carried (s.perform c action)) ++ strip rest := by
    simp [inTransit, carried, advance]
  refine ⟨?_, fun swallows => perform_swallow chosen reads swallows, fun harmless => ?_⟩
  · calc ((s.perform c action).2.advance c).inTransit (done ++ (s.perform c action).1) rest
      _ = strip (texts done) ++ strip (carried (s.perform c action)) ++ strip rest := after
      List.Sublist _ (strip (texts done) ++ (strip s.pending.reverse ++ strip [c]) ++ strip rest) :=
        (passed.sublist.append_left _).append_right _
      _ = s.inTransit done (c :: rest) := before.symm
      List.Sublist _ (strip source) := held.sublist
  · obtain ⟨all, keeps, left⟩ := held.all harmless
    have plain : c ∉ discarding := left c (by simp)
    refine ⟨?_, perform_keepsText chosen keeps plain, fun d member => left d (by simp [member])⟩
    rw [after, passed.all keeps plain, ← before, all]

theorem Conserves.step {source rest : List Char} {done sentences : List Sentence} {after : Scanner}
    (held : Conserves source s done (c :: rest))
    (stepped : s.step c rest.head? = .ok (sentences, after)) :
    Conserves source after (done ++ sentences) rest := by
  obtain ⟨swallow, rfl, rfl⟩ | ⟨reads, action, chosen, rfl, rfl⟩ := step_eq_ok stepped
  · simpa using held.skip swallow
  · exact held.perform reads chosen

end Scanner

/-- Reading a source never fails. White space and punctuation apart, the texts of the sentences are
a subsequence of it, and all of it if nothing in it can start a comment, a flag or target code. -/
theorem scan_conserves_text (source : String) :
    ∃ scanned, scan source = .ok scanned ∧
      (strip (texts scanned.sentences)).Sublist (strip source.toList) ∧
      ((∀ c ∈ source.toList, c ≠ '#' ∧ c ≠ '@' ∧ c ≠ '\x7b') →
        strip (texts scanned.sentences) = strip source.toList) := by
  have start : Scanner.Conserves source.toList {} [] source.toList :=
    ⟨by simp [Scanner.inTransit], (fun contra => by cases contra),
      fun harmless => ⟨by simp [Scanner.inTransit], (fun _ contra => by cases contra), harmless⟩⟩
  obtain ⟨done, last, held, scanned⟩ := scan_induction source start Scanner.Conserves.step
  have ended : strip (texts (done ++ last.finish.sentences)) = last.inTransit done [] := by
    rw [texts_append, strip_append, Scanner.strip_finish]
    simp [Scanner.inTransit]
  refine ⟨_, scanned, ?_, fun harmless => ?_⟩
  · rw [ended]
    exact held.sublist
  · rw [ended]
    refine (held.all fun c member => ?_).1
    simpa [Scanner.discarding] using harmless c member

/-- Nothing is lost when the input ends inside a string inside an accessor. -/
theorem open_string_conserves_text :
    ∃ scanned, scan "[list at = \"a; b" = .ok scanned ∧
      strip (texts scanned.sentences) = ['l', 'i', 's', 't', 'a', 't', 'a', 'b'] := by
  obtain ⟨scanned, read, _, all⟩ := scan_conserves_text "[list at = \"a; b"
  exact ⟨scanned, read, all (by simp)⟩

end Clausal
