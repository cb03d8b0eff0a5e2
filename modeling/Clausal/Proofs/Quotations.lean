import Clausal.Proofs.Contents
import Mathlib.Data.List.Induction

/-! Which texts can be quoted.

A string ends at the first quotation mark of its kind that is not escaped, and whether a mark is
escaped depends on the run of backslashes in front of it. So a quoted text is read back as it was
written as long as it holds no mark that ends it early and its last backslash does not guard the
mark behind it. Any other text is cut short, or its string is never closed.
-/

set_option autoImplicit false

namespace Clausal

namespace Text

/-- Every `mark` in the text stands behind an odd run of backslashes. -/
def Guards (mark : Char) (text : List Char) : Prop :=
  ∀ before after, text = before ++ mark :: after → endsEscaping before = true

theorem guards_nil (mark : Char) : Guards mark [] := by
  intro before after split
  simp at split

theorem guards_concat {mark c : Char} {text : List Char} :
    Guards mark (text ++ [c]) ↔ Guards mark text ∧ (c = mark → endsEscaping text = true) := by
  constructor
  · intro guards
    refine ⟨fun before after split => guards before (after ++ [c]) (by simp [split]), ?_⟩
    rintro rfl
    exact guards text [] rfl
  · rintro ⟨guards, last⟩ before after split
    rcases List.eq_nil_or_concat after with rfl | ⟨init, d, rfl⟩
    · obtain ⟨rfl, same⟩ := List.append_inj' split rfl
      exact last (List.singleton_inj.mp same)
    · have longer : text ++ [c] = (before ++ mark :: init) ++ [d] := by simp [split]
      exact guards before init (List.append_inj' longer rfl).1

/-- A text with an unguarded mark has a first one. -/
theorem exists_first_unguarded {mark : Char} {text : List Char} (unguarded : ¬Guards mark text) :
    ∃ before after, text = before ++ mark :: after ∧ endsEscaping before = false ∧
      Guards mark before := by
  induction text using List.reverseRecOn with
  | nil => exact absurd (guards_nil mark) unguarded
  | append_singleton init last ih =>
    by_cases guards : Guards mark init
    · rw [guards_concat, not_and, Classical.not_imp, Bool.not_eq_true] at unguarded
      obtain ⟨rfl, ends⟩ := unguarded guards
      exact ⟨init, [], rfl, ends, guards⟩
    · obtain ⟨before, after, rfl, ends, first⟩ := ih guards
      exact ⟨before, after ++ [last], by simp, ends, first⟩

end Text

theorem Quote.char_ne_backslash (quote : Quote) : quote.char ≠ '\\' := by
  cases quote <;> decide

namespace Scanner

variable {s : Scanner} {c : Char} {next : Option Char} {action : Action}

/-- The contents of an open string have no gaps: all that was read since they started is pending. -/
def HoldsString (s : Scanner) : Prop :=
  ∀ quote, s.region = some (.string quote) →
    s.swallow = false ∧ (s.pending ≠ [] → s.pendingStart + s.pending.length = s.index)

theorem HoldsString.perform (chosen : Chosen s c next action) (reads : s.swallow = false)
    (holds : s.HoldsString) : ((s.perform c action).2.advance c).HoldsString := by
  intro quote inside
  cases chosen with
  | @keep region within =>
    have whole := (holds quote inside).2
    refine ⟨reads, fun _ => ?_⟩
    simp only [Scanner.perform, advance, gather, List.length_cons, List.isEmpty_iff]
    split
    · next empty => rw [empty, List.length_nil]
    · next held =>
      have whole := whole held
      omega
  | @drop region within fate =>
    have same : s.region = some (.string quote) := inside
    rw [within] at same
    cases same
    rw [Region.fate] at fate
    split at fate <;> cases fate
  | leave => cases inside
  | enter => exact ⟨reads, fun held => absurd rfl held⟩
  | fold outside =>
    simp only [Scanner.perform, advance, gatherFolded_region, outside] at inside
    cases inside
  | operator outside | openAccessor outside | closeAccessor outside | assignMember outside
  | terminate outside =>
    have same : s.region = some (.string quote) := inside
    rw [outside] at same
    cases same

theorem HoldsString.step {sentences : List Sentence} {after : Scanner} (holds : s.HoldsString)
    (stepped : s.step c next = .ok (sentences, after)) : after.HoldsString := by
  obtain ⟨swallow, _, rfl⟩ | ⟨reads, action, chosen, _, rfl⟩ := step_eq_ok stepped
  · intro quote inside
    have reads := (holds quote inside).1
    rw [swallow] at reads
    cases reads
  · exact holds.perform chosen reads

theorem HoldsString.scans {following : Option Char} {text : List Char} {sentences : List Sentence}
    {last : Scanner} (holds : s.HoldsString) (scans : Scans following s text sentences last) :
    last.HoldsString := by
  induction scans with
  | nil => exact holds
  | cons stepped _ ih => exact ih (holds.step stepped)

/-- A scanner in a string that began with the source, with `text` read into it. -/
structure Quoting (quote : Quote) (text : List Char) (s : Scanner) : Prop where
  region : s.region = some (.string quote)
  accessor : s.accessor = none
  escaped : s.escaped = Text.endsEscaping text
  pending : s.pending = text.reverse
  swallow : s.swallow = false
  index : s.index = text.length + 1
  start : text ≠ [] → s.pendingStart = 1

variable {quote : Quote} {text : List Char}

theorem fate_of_guards (guards : Text.Guards quote.char text) {before after : List Char}
    (split : text = before ++ c :: after) :
    Region.fate (Text.endsEscaping before) c next (.string quote) = .kept := by
  rw [Region.fate, if_neg]
  rintro ⟨rfl, bare⟩
  rw [guards before after split] at bare
  cases bare

/-- Behind a quotation mark, text is read into the string as long as its marks are guarded. -/
theorem scans_quoting (guards : Text.Guards quote.char text) (following : Option Char) :
    ∃ last, Scans following {} (quote.char :: text) [] last ∧ last.Quoting quote text := by
  let opened : Scanner := ({ region := some (.string quote) } : Scanner).advance quote.char
  have opening : ({} : Scanner).step quote.char (text.head?.or following) = .ok ([], opened) :=
    step_opens rfl rfl rfl (.string quote) _
  have fresh : opened.escaped = false := by
    simp [opened, advance, quote.char_ne_backslash]
  have kept : ∀ before c after, text = before ++ c :: after →
      Region.fate (Text.endsEscaping before) c (after.head?.or following) (.string quote)
        = .kept :=
    fun _ _ _ split => fate_of_guards guards split
  obtain ⟨last, scans, filled, escaped⟩ := scans_kept (s := opened) [] rfl rfl fresh kept
  have pending : last.pending = text.reverse := by
    rw [filled.pending]
    exact List.append_nil _
  have index : last.index = text.length + 1 := by
    rw [scans.index, Nat.add_comm]
    rfl
  have holds : opened.HoldsString := fun _ _ => ⟨rfl, fun held => absurd rfl held⟩
  refine ⟨last, .cons opening scans, filled.region, filled.accessor, escaped, pending,
    filled.swallow, index, fun written => ?_⟩
  have whole := (holds.scans scans quote filled.region).2 (by simpa [pending] using written)
  rw [pending, List.length_reverse, index] at whole
  omega

/-- The sentence of a string with the given contents, at the start of a source. -/
def quoted (quote : Quote) (text : List Char) : List Sentence :=
  if text = [] then []
  else [⟨.string quote, String.ofList text, .between 1 (text.length + 2)⟩]

/-- The first mark that is not guarded closes the string. -/
theorem scans_quoted (guards : Text.Guards quote.char text)
    (ends : Text.endsEscaping text = false) (following : Option Char) :
    ∃ last, Scans following {} (quote.char :: text ++ [quote.char]) (quoted quote text) last ∧
      last.Resting ∧ last.previous = some quote.char ∧ last.index = text.length + 2 := by
  obtain ⟨full, scans, quoting⟩ := scans_quoting guards (some quote.char)
  have closes : Region.fate full.escaped quote.char following (.string quote) = .closes := by
    rw [quoting.escaped, ends, Region.fate, if_pos ⟨rfl, rfl⟩]
  have sentence : full.ended (Region.string quote).kind (Region.string quote).trims
      (full.index + 1) = quoted quote text := by
    rw [ended, quoted, quoting.pending, quoting.index]
    by_cases blank : text = []
    · simp [blank, Region.kind, Sentence.Kind.standsAlone, Text.trimPadding, Text.trimBy]
    · simp [blank, quoting.start blank, Region.kind, Region.trims]
  have closing := step_closes quoting.region quoting.swallow closes
  rw [sentence] at closing
  refine ⟨_, scans.concat closing, ⟨rfl, quoting.accessor, ?_, rfl, quoting.swallow⟩, rfl, ?_⟩
  · simp [advance, quote.char_ne_backslash]
  · simp [advance, quoting.index]

end Scanner

section

variable {quote : Quote} {contents : String}

theorem toList_enclose_string (quote : Quote) (contents : String) :
    ((Region.string quote).enclose contents).toList =
      quote.char :: contents.toList ++ [quote.char] :=
  String.toList_ofList

/-- A string whose marks are all guarded holds its whole text. -/
theorem scan_guarded (guards : Text.Guards quote.char contents.toList)
    (ends : Text.endsEscaping contents.toList = false) :
    scan ((Region.string quote).enclose contents) =
      .ok { sentences := Scanner.quoted quote contents.toList } := by
  obtain ⟨last, scans, rests, _⟩ := Scanner.scans_quoted guards ends none
  rw [← toList_enclose_string] at scans
  rw [scan_of_scans scans, rests.finish, List.append_nil]

/-- If the closing mark is guarded too, the string is never closed, which is reported. -/
theorem scan_unclosed (guards : Text.Guards quote.char contents.toList)
    (ends : Text.endsEscaping contents.toList = true) :
    ∃ scanned, scan ((Region.string quote).enclose contents) = .ok scanned ∧
      scanned.notices ≠ [] := by
  obtain ⟨last, scans, quoting⟩ :=
    Scanner.scans_quoting (Text.guards_concat.mpr ⟨guards, fun _ => ends⟩) none
  rw [← List.cons_append, ← toList_enclose_string] at scans
  refine ⟨_, scan_of_scans scans, fun quiet => ?_⟩
  have closed := (Scanner.closed_of_quiet quiet).1
  rw [quoting.region] at closed
  cases closed

/-- A mark that is not guarded cuts the string short, and what follows is read behind it. -/
theorem scan_unguarded (unguarded : ¬Text.Guards quote.char contents.toList) :
    ∃ text : List Char, ∃ rest : Scanned, text.length < contents.length ∧
      scan ((Region.string quote).enclose contents) =
        .ok { rest with sentences := Scanner.quoted quote text ++ rest.sentences } ∧
      ∀ sentence ∈ rest.sentences, 1 < sentence.span.start := by
  obtain ⟨text, after, split, ends, guards⟩ := Text.exists_first_unguarded unguarded
  obtain ⟨last, scans, rests, previous, index⟩ :=
    Scanner.scans_quoted guards ends (after ++ [quote.char]).head?
  have behind : ∀ c ∈ (after ++ [quote.char]).head?, Scanner.SameBehind {} last c := by
    intro c _
    left
    rw [previous]
    cases quote <;> rfl
  -- The rest is read as a source of its own, only further on.
  obtain ⟨alone, completes⟩ := Scanner.exists_completes {} (after ++ [quote.char])
  have further : last.index = 0 + (text.length + 2) := by rw [index, Nat.zero_add]
  obtain ⟨rest, completes, shifted⟩ := (Scanner.Resting.alike (by decide) rests further).completes
    (.shift (text.length + 2)) behind completes
  refine ⟨text, rest, ?_, ?_, ?_⟩
  · rw [← String.length_toList, split]
    simp
  · rw [scan_eq_ok_iff, toList_enclose_string, split]
    simpa using scans.completes completes
  · rw [shifted.eq_shift]
    intro sentence member
    obtain ⟨other, _, rfl⟩ := List.mem_map.mp member
    simp only [Sentence.shift, Span.shift]
    omega

end

/-- A text between quotation marks is read as one string with just this text, and without a notice,
if and only if there is a text, every mark of the same kind in it stands behind an odd run of
backslashes, and its end does not. -/
theorem string_recognized_iff (quote : Quote) (contents : String) :
    scan ((Region.string quote).enclose contents) = .ok
        { sentences := [⟨.string quote, contents, .between 1 (contents.length + 2)⟩] } ↔
      contents ≠ "" ∧
      (∀ before after, contents.toList = before ++ quote.char :: after →
        Text.endsEscaping before = true) ∧
      Text.endsEscaping contents.toList = false := by
  have whole (written : contents ≠ "") : Scanner.quoted quote contents.toList =
      [⟨.string quote, contents, .between 1 (contents.length + 2)⟩] := by
    simp [Scanner.quoted, written, String.length_toList]
  constructor
  · intro read
    by_cases guards : Text.Guards quote.char contents.toList
    · cases ends : Text.endsEscaping contents.toList with
      | true =>
        obtain ⟨scanned, other, reported⟩ := scan_unclosed guards ends
        rw [read] at other
        cases other
        exact absurd rfl reported
      | false =>
        refine ⟨?_, guards, rfl⟩
        rintro rfl
        rw [scan_guarded guards ends] at read
        cases read
    · obtain ⟨text, rest, shorter, other, behind⟩ := scan_unguarded guards
      rw [read] at other
      have same := congrArg Scanned.sentences (Except.ok.inj other)
      by_cases blank : text = []
      · -- Nothing stands before the mark, so the sentence is among those that start behind it.
        rw [Scanner.quoted, if_pos blank, List.nil_append] at same
        have later := List.forall_mem_singleton.mp (same ▸ behind)
        exact absurd later (lt_irrefl 1)
      · rw [Scanner.quoted, if_neg blank] at same
        obtain ⟨first, _⟩ := List.cons.inj same
        have texts : contents = String.ofList text := congrArg Sentence.text first
        rw [texts, String.length_ofList] at shorter
        exact absurd shorter (lt_irrefl _)
  · rintro ⟨written, guards, ends⟩
    rw [scan_guarded guards ends, whole written]

end Clausal
