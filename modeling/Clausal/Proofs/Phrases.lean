import Clausal.Proofs.Contents
import Clausal.Proofs.Fragments
import Clausal.Proofs.Outcomes

/-! Phrases, and what they add to a program.

A phrase is text without punctuation that is gathered as it is written. The mark behind it makes it
a sentence, and leaves the scanner at rest. Texts that lead from rest to rest can be put one after
the other, and what they add to the program is put together in the same way.
-/

set_option autoImplicit false

namespace Clausal

/-- The characters that do more than add to a fragment outside of accessors. -/
def Scanner.marks : List Char :=
  ['\\', '[', ';', ':', ','] ++ operatorChars ++ regionMarks

namespace Text

/-- Words with single spaces between them. -/
structure Phrase (text : List Char) : Prop where
  folded : Folded text.reverse
  plain : ∀ c ∈ text, c ∉ Scanner.marks
  /-- The last character is part of a word. -/
  ends : ∃ c ∈ text.getLast?, c ∉ layout

variable {text first second : List Char}

theorem trimBy_of_ends {p : Char → Bool} (front : ∀ c ∈ text.head?, p c = false)
    (back : ∀ c ∈ text.getLast?, p c = false) : trimBy p text = text := by
  have kept {cs : List Char} (front : ∀ c ∈ cs.head?, p c = false) : cs.dropWhile p = cs := by
    cases cs with
    | nil => rfl
    | cons c rest => exact List.dropWhile_cons_of_neg (by simp [front c rfl])
  rw [trimBy, kept front, kept (by simpa using back), List.reverse_reverse]

theorem trimBy_concat {p : Char → Bool} {c : Char} (front : ∃ c ∈ text.head?, p c = false)
    (trimmed : p c = true) : trimBy p (text ++ [c]) = trimBy p text := by
  obtain ⟨d, first, kept⟩ := front
  cases text with
  | nil => cases first
  | cons e rest =>
    cases first
    have stays (rest : List Char) : (d :: rest).dropWhile p = d :: rest :=
      List.dropWhile_cons_of_neg (by simp [kept])
    rw [trimBy, trimBy, List.cons_append, stays, stays, ← List.cons_append, List.reverse_concat,
      List.dropWhile_cons_of_pos trimmed]

theorem Folded.append_word (before : Folded first) (word : ∀ c ∈ second, c ∉ layout) :
    Folded (second ++ first) := by
  induction second with
  | nil => exact before
  | cons c rest ih =>
    exact .letter (word c (by simp)) (ih fun d member => word d (by simp [member]))

namespace Phrase

theorem word (worded : text ≠ []) (plain : ∀ c ∈ text, c ∉ Scanner.marks ∧ c ∉ layout) :
    Phrase text := by
  refine ⟨?_, fun c member => (plain c member).1, ?_⟩
  · rw [← List.append_nil text.reverse]
    exact Folded.nil.append_word fun c member => (plain c (List.mem_reverse.mp member)).2
  · exact ⟨text.getLast worded, List.getLast?_eq_some_getLast worded,
      (plain _ (List.getLast_mem worded)).2⟩

theorem append_word (before : Phrase first) (worded : second ≠ [])
    (plain : ∀ c ∈ second, c ∉ Scanner.marks ∧ c ∉ layout) : Phrase (first ++ ' ' :: second) := by
  have after := word worded plain
  refine ⟨?_, ?_, ?_⟩
  · obtain ⟨c, last, letter⟩ := before.ends
    obtain ⟨init, rfl⟩ := List.getLast?_eq_some_iff.mp last
    have spaced : Folded (' ' :: c :: init.reverse) := by
      refine .space ?_ (by simpa using before.folded)
      rintro rfl
      exact letter (by decide)
    have word : ∀ c ∈ second.reverse, c ∉ layout :=
      fun c member => (plain c (List.mem_reverse.mp member)).2
    simpa using spaced.append_word word
  · intro c member
    rcases List.mem_append.mp member with early | late
    · exact before.plain c early
    · rcases List.mem_cons.mp late with rfl | late
      · decide
      · exact after.plain c late
  · obtain ⟨c, last, letter⟩ := after.ends
    exact ⟨c, by simp [List.getLast?_append, List.getLast?_cons, Option.mem_def.mp last], letter⟩

variable (phrase : Phrase text)
include phrase

theorem ne_nil : text ≠ [] := by
  obtain ⟨c, last, _⟩ := phrase.ends
  rintro rfl
  cases last

theorem front : ∀ c ∈ text.head?, isPadding c = false := by
  intro c first
  apply isPadding_of_notMem_layout
  exact phrase.folded.first (by simpa using first)

theorem trimPadding : Text.trimPadding text = text := by
  apply trimBy_of_ends phrase.front
  obtain ⟨c, last, letter⟩ := phrase.ends
  intro d same
  cases last.symm.trans same
  exact isPadding_of_notMem_layout letter

theorem trimPadding_space : Text.trimPadding (text ++ [' ']) = text := by
  have first := List.head?_eq_some_head phrase.ne_nil
  rw [Text.trimPadding, trimBy_concat ⟨_, first, phrase.front _ first⟩ (by decide)]
  exact phrase.trimPadding

end Phrase

end Text

namespace Scanner

variable {s : Scanner} {text : List Char} {c : Char} {next following : Option Char}

/-- Outside of regions and accessors, with the given text pending. -/
structure Gathers (text : List Char) (s : Scanner) : Prop where
  region : s.region = none
  accessor : s.accessor = none
  escaped : s.escaped = false
  pending : s.pending = text.reverse
  swallow : s.swallow = false

theorem Resting.gathers (rests : s.Resting) : Gathers [] s :=
  ⟨rests.1, rests.2.1, rests.2.2.1, rests.2.2.2.1, rests.2.2.2.2⟩

namespace Gathers

theorem action?_of_plain (gathers : Gathers text s) (plain : c ∉ operatorChars)
    (other : c ∉ regionMarks) (bracket : c ≠ '[') :
    s.action? c next = (terminatorRule s c next).or (some .fold) := by
  rw [Scanner.action?_of_plain gathers.region (ofOpening?_eq_none other) plain, accessorRule,
    gathers.accessor]
  simp [bracket]

theorem action?_of_unmarked (gathers : Gathers text s) (plain : c ∉ marks) :
    s.action? c next = some .fold := by
  simp only [marks, List.mem_append, List.mem_cons, List.not_mem_nil, or_false, not_or] at plain
  obtain ⟨⟨⟨_, bracket, semicolon, colon, comma⟩, operator⟩, region⟩ := plain
  rw [gathers.action?_of_plain operator region bracket]
  simp [terminatorRule, semicolon, colon, comma]

theorem gathered (gathers : Gathers text s) (plain : c ∉ marks) :
    Gathers (text ++ [c]) ((s.gather c).advance c) := by
  have unescaping : c ≠ '\\' := by
    rintro rfl
    exact plain (by decide)
  refine ⟨gathers.region, gathers.accessor, by simp [advance, unescaping], ?_, gathers.swallow⟩
  simp [gather, advance, gathers.pending]

theorem letter (gathers : Gathers text s) (plain : c ∉ marks) (word : c ∉ Text.layout)
    (next : Option Char) :
    ∃ after, s.step c next = .ok ([], after) ∧ Gathers (text ++ [c]) after := by
  refine ⟨_, step_of_action gathers.swallow (gathers.action?_of_unmarked plain), ?_⟩
  rw [perform, s.gatherFolded_of_notMem_layout word]
  exact gathers.gathered plain

theorem space (gathers : Gathers text s) (behind : text.getLast? = some c) (word : c ≠ ' ')
    (next : Option Char) :
    ∃ after, s.step ' ' next = .ok ([], after) ∧ Gathers (text ++ [' ']) after ∧
      after.previous = some ' ' := by
  have plain : ' ' ∉ marks := by decide
  refine ⟨_, step_of_action gathers.swallow (gathers.action?_of_unmarked plain), ?_, rfl⟩
  have apart : s.gatherFolded ' ' = s.gather ' ' := by
    obtain ⟨init, rfl⟩ := List.getLast?_eq_some_iff.mp behind
    simp [gatherFolded, gathers.pending, word]
  rw [perform, apart]
  exact gathers.gathered plain

theorem action?_assignment (gathers : Gathers text s) (white : s.previous = some ' ') :
    s.action? '=' (some ' ') = some (.terminate .assignmentKey) := by
  obtain ⟨_, _, _, _, _, _, _, _, _⟩ := s
  cases gathers.region
  cases gathers.accessor
  cases gathers.escaped
  cases white
  rfl

/-- A mark that ends a sentence leaves nothing pending. -/
theorem terminated {kind : Sentence.Kind} (gathers : Gathers text s)
    (claimed : s.action? c next = some (.terminate kind)) (ends : c ≠ '\\') :
    ∃ after, s.step c next = .ok (s.ended kind true (s.index + 1), after) ∧ after.Resting := by
  refine ⟨_, step_of_action gathers.swallow claimed, gathers.region, gathers.accessor, ?_, rfl,
    gathers.swallow⟩
  simp [perform, advance, ends]

theorem ended_of_trimmed (gathers : Gathers text s) (kind : Sentence.Kind) (stop : Nat)
    {phrase : List Char} (trimmed : Text.trimPadding text = phrase) (worded : phrase ≠ []) :
    s.ended kind true stop = [⟨kind, String.ofList phrase, .between s.pendingStart stop⟩] := by
  simp [ended, gathers.pending, trimmed, worded]

end Gathers

theorem scans_folded {reversed : List Char} (folded : Text.Folded reversed)
    (plain : ∀ c ∈ reversed, c ∉ marks) (rests : s.Resting) (following : Option Char) :
    ∃ last, Scans following s reversed.reverse [] last ∧ Gathers reversed.reverse last := by
  induction folded generalizing following with
  | nil => exact ⟨s, .nil, rests.gathers⟩
  | @letter c before word _ ih =>
    obtain ⟨between, scans, gathers⟩ := ih (fun d member => plain d (by simp [member])) (some c)
    obtain ⟨last, stepped, gathers⟩ := gathers.letter (plain c (by simp)) word following
    rw [List.reverse_cons]
    exact ⟨last, scans.concat stepped, gathers⟩
  | @space c before word _ ih =>
    obtain ⟨between, scans, gathers⟩ := ih (fun d member => plain d (by simp [member])) (some ' ')
    obtain ⟨last, stepped, gathers, _⟩ := gathers.space (by simp) word following
    rw [List.reverse_cons]
    exact ⟨last, scans.concat stepped, gathers⟩

theorem scans_phrase (phrase : Text.Phrase text) (rests : s.Resting) (following : Option Char) :
    ∃ last, Scans following s text [] last ∧ Gathers text last := by
  have scans := scans_folded phrase.folded
    (fun c member => phrase.plain c (List.mem_reverse.mp member)) rests following
  rwa [List.reverse_reverse] at scans

/-- A phrase and the mark behind it are one sentence. -/
theorem scans_sentence {kind : Sentence.Kind} (phrase : Text.Phrase text) (rests : s.Resting)
    (ends : (c, kind) ∈ terminators) (mark : c ≠ '=') (following : Option Char) :
    ∃ span last, Scans following s (text ++ [c]) [⟨kind, String.ofList text, span⟩] last ∧
      last.Resting := by
  obtain ⟨between, scans, gathers⟩ := scans_phrase phrase rests (some c)
  have claimed : between.action? c following = some (.terminate kind) := by
    simp only [terminators, List.mem_cons, Prod.mk.injEq, List.not_mem_nil, or_false] at ends
    rcases ends with ⟨rfl, rfl⟩ | ⟨rfl, rfl⟩ | ⟨rfl, rfl⟩ | ⟨rfl, _⟩
    case inr.inr.inr => exact absurd rfl mark
    all_goals
      rw [gathers.action?_of_plain (by decide) (by decide) (by decide)]
      rfl
  have unescaping : c ≠ '\\' := by
    rintro rfl
    simp [terminators] at ends
  obtain ⟨last, stepped, rests⟩ := gathers.terminated claimed unescaping
  rw [gathers.ended_of_trimmed kind _ phrase.trimPadding phrase.ne_nil] at stepped
  exact ⟨_, last, scans.concat stepped, rests⟩

/-- In front of a sentence a space is nothing. -/
theorem Resting.space (rests : s.Resting) (next : Option Char) :
    ∃ after, s.step ' ' next = .ok ([], after) ∧ after.Resting := by
  have gathers := rests.gathers
  have claimed : s.action? ' ' next = some .fold := gathers.action?_of_unmarked (by decide)
  have dropped : s.gatherFolded ' ' = s := by
    simp [gatherFolded, gathers.pending]
  refine ⟨_, step_of_action gathers.swallow claimed, ?_⟩
  rw [perform, dropped]
  exact ⟨gathers.region, gathers.accessor, rfl, gathers.pending, gathers.swallow⟩

/-- A key is told by the equals sign behind it, with spaces on both sides. -/
theorem scans_key (phrase : Text.Phrase text) (rests : s.Resting) (following : Option Char) :
    ∃ span last, Scans following s (text ++ [' '] ++ ['='] ++ [' '])
      [⟨.assignmentKey, String.ofList text, span⟩] last ∧ last.Resting := by
  obtain ⟨c, behind, word⟩ := phrase.ends
  have word : c ≠ ' ' := by
    rintro rfl
    exact word (by decide)
  obtain ⟨named, scans, gathers⟩ := scans_phrase phrase rests (some ' ')
  obtain ⟨spaced, stepped, gathers, white⟩ := gathers.space behind word (some '=')
  have scans := scans.concat stepped
  have claimed := gathers.action?_assignment white
  obtain ⟨ended, stepped, rests⟩ := gathers.terminated claimed (by decide)
  rw [gathers.ended_of_trimmed _ _ phrase.trimPadding_space phrase.ne_nil] at stepped
  have scans := scans.concat stepped
  obtain ⟨last, stepped, rests⟩ := rests.space following
  exact ⟨_, last, scans.concat stepped, rests⟩

end Scanner

/-- Text that is read from one point of rest to another without a notice, and the units that it
adds. -/
def Adds (options : Options) (before : ScopeState) (text : String) (units : List SemanticUnit)
    (after : ScopeState) : Prop :=
  ∀ (following : Option Char) {s : Scanner}, s.Resting → ∃ sentences last,
    s.Scans following text.toList sentences last ∧ last.Resting ∧
      Reads options before sentences { units, state := after }

namespace Adds

variable {options : Options} {before between after : ScopeState} {text : String}
  {units : List SemanticUnit}

theorem append {first second : String} {early late : List SemanticUnit}
    (start : Adds options before first early between)
    (rest : Adds options between second late after) :
    Adds options before (first ++ second) (early ++ late) after := by
  intro following s rests
  obtain ⟨sentences, middle, scans, rests, reads⟩ := start (second.toList.head?.or following) rests
  obtain ⟨others, last, scans', rests', reads'⟩ := rest following rests
  refine ⟨sentences ++ others, last, ?_, rests', reads.append reads'⟩
  rw [String.toList_append]
  exact scans.append scans'

theorem nothing : Adds options before "" [] before := by
  intro following s rests
  exact ⟨[], s, .nil, rests, .nil⟩

theorem space : Adds options before " " [] before := by
  intro following s rests
  obtain ⟨last, stepped, rests⟩ := rests.space following
  exact ⟨[], last, .cons stepped .nil, rests, .nil⟩

theorem sentence {kind : Sentence.Kind} {c : Char} {mark : String}
    (phrase : Text.Phrase text.toList) (spelled : mark.toList = [c])
    (ends : (c, kind) ∈ terminators) (other : c ≠ '=')
    (read : ∀ span, before.read options ⟨kind, text, span⟩ = .ok { units, state := after }) :
    Adds options before (text ++ mark) units after := by
  intro following s rests
  obtain ⟨span, last, scans, rests⟩ := Scanner.scans_sentence phrase rests ends other following
  rw [String.ofList_toList] at scans
  refine ⟨_, last, ?_, rests, .single (read span)⟩
  rw [String.toList_append, spelled]
  exact scans

theorem key (phrase : Text.Phrase text.toList)
    (read : ∀ span, before.read options ⟨.assignmentKey, text, span⟩
      = .ok { units, state := after }) :
    Adds options before (text ++ " = ") units after := by
  intro following s rests
  obtain ⟨span, last, scans, rests⟩ := Scanner.scans_key phrase rests following
  rw [String.ofList_toList] at scans
  refine ⟨_, last, ?_, rests, .single (read span)⟩
  rw [String.toList_append]
  simpa using scans

theorem contents {region : Region} {contents : String}
    (keeps : region.keepsFragment = true) (admits : region.Admits contents.toList) :
    Adds options before (region.enclose contents) [region.unit (region.text contents)] before := by
  intro following s rests
  obtain ⟨closed, outside, unescaped, empty, reads⟩ := rests
  obtain ⟨span, last, scans, outline, _⟩ :=
    Scanner.scans_enclosed admits closed reads unescaped following
  have nothing : s.endedFragment = [] := by
    rw [Scanner.endedFragment, outside]
    exact Scanner.ended_of_empty empty rfl _ _
  rw [if_pos keeps, nothing, List.nil_append] at scans
  refine ⟨_, last, scans, ?_, .single (before.read_contents options region _ span)⟩
  simp only [Scanner.outline, Prod.mk.injEq, outside, Option.isSome_none] at outline
  obtain ⟨closed, outside, unescaped, empty, reads⟩ := outline
  exact ⟨closed, by simpa using outside, unescaped, empty, reads⟩

/-- A comma by itself is no sentence. -/
theorem comma : Adds options before "," [] before := by
  intro following s rests
  have gathers := rests.gathers
  have claimed : s.action? ',' following = some (.terminate .enumerating) :=
    gathers.action?_of_plain (by decide) (by decide) (by decide)
  obtain ⟨last, stepped, rests⟩ := gathers.terminated claimed (by decide)
  rw [Scanner.ended_of_empty gathers.pending rfl] at stepped
  exact ⟨[], last, .cons stepped .nil, rests, .nil⟩

/-- A semicolon by itself is a sentence without text. -/
theorem semicolon
    (read : ∀ span, before.read options ⟨.closing, "", span⟩ = .ok { units, state := after }) :
    Adds options before ";" units after := by
  intro following s rests
  have gathers := rests.gathers
  have claimed : s.action? ';' following = some (.terminate .closing) :=
    gathers.action?_of_plain (by decide) (by decide) (by decide)
  obtain ⟨last, stepped, rests⟩ := gathers.terminated claimed (by decide)
  have alone : s.ended .closing true (s.index + 1) =
      [⟨.closing, "", .between s.index (s.index + 1)⟩] := by
    simp [Scanner.ended, gathers.pending, Text.trimPadding, Text.trimBy,
      Sentence.Kind.standsAlone]
  rw [alone] at stepped
  exact ⟨_, last, .cons stepped .nil, rests, .single (read _)⟩

/-- A source that leads back to the start is compiled with nothing to report and nothing left
open. -/
theorem compiled (adds : Adds options {} text units {}) :
    ∃ sentences, compile options text = { sentences, units } := by
  obtain ⟨sentences, last, scans, rests, reads⟩ := adds none (s := {}) (by decide)
  have scanned := scan_of_scans scans
  rw [rests.finish, List.append_nil] at scanned
  have assembled := assemble_eq_ok_iff.mpr ⟨_, reads, rfl⟩
  have parsed := parse_of_assembled scanned assembled
  exact ⟨sentences, compile_of_program parsed⟩

end Adds

end Clausal
