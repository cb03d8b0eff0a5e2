import Clausal.Proofs.Phrases

/-! Folded text.

What is gathered outside of regions is folded, and trimmed when the sentence ends. Of the layout
nothing is left but single spaces between words, so that cutting the text at its spaces leaves no
piece empty.
-/

set_option autoImplicit false

namespace Clausal

namespace Text

/-- Text without any layout but single spaces inside of it. -/
structure Tight (text : List Char) : Prop where
  layout : ∀ c ∈ text, c ∉ Text.layout ∨ c = ' '
  single : ¬[' ', ' '] <:+: text
  front : text.head? ≠ some ' '
  back : text.getLast? ≠ some ' '

variable {text before after : List Char}

namespace Folded

theorem single (folded : Folded text) : ¬[' ', ' '] <:+: text := by
  induction folded with
  | nil => simp
  | letter plain _ ih =>
    rw [List.infix_cons_iff]
    rintro (first | later)
    · obtain ⟨rfl, _⟩ := List.cons_prefix_cons.mp first
      exact plain (by decide)
    · exact ih later
  | space word _ ih =>
    rw [List.infix_cons_iff]
    rintro (first | later)
    · obtain ⟨_, second⟩ := List.cons_prefix_cons.mp first
      exact word (List.cons_prefix_cons.mp second).1.symm
    · exact ih later

theorem front (folded : Folded text) : text.reverse.head? ≠ some ' ' := by
  rw [List.head?_reverse]
  intro last
  exact folded.first last (by decide)

/-- Without a space behind it, folded text stays as it is. -/
theorem tight_of_back (folded : Folded text) (back : text.head? ≠ some ' ') :
    Tight (trimPadding text.reverse) := by
  have unpadded {c : Char} (member : c ∈ text) (word : c ≠ ' ') : isPadding c = false :=
    isPadding_of_notMem_layout ((folded.mem member).resolve_right word)
  have kept : trimPadding text.reverse = text.reverse := by
    apply trimBy_of_ends
    · intro c first
      rw [List.head?_reverse] at first
      exact isPadding_of_notMem_layout (folded.first first)
    · intro c last
      rw [List.getLast?_reverse] at last
      exact unpadded (List.mem_of_mem_head? last) fun space => back (space ▸ last)
  rw [kept]
  refine ⟨fun c member => folded.mem (List.mem_reverse.mp member), ?_, folded.front, ?_⟩
  · intro doubled
    exact folded.single (List.reverse_infix.mp doubled)
  · rwa [List.getLast?_reverse]

theorem tight (folded : Folded text) : Tight (trimPadding text.reverse) := by
  cases folded with
  | nil => exact tight_of_back .nil (by simp)
  | letter plain before =>
    refine tight_of_back (.letter plain before) ?_
    rintro ⟨⟩
    exact plain (by decide)
  | @space c before word folded =>
    have starts : ∃ d ∈ (c :: before).reverse.head?, isPadding d = false := by
      cases first : (c :: before).reverse.head? with
      | none => simp at first
      | some d =>
        rw [List.head?_reverse] at first
        exact ⟨d, rfl, isPadding_of_notMem_layout (folded.first first)⟩
    rw [List.reverse_cons, trimPadding, trimBy_concat starts (by decide)]
    exact folded.tight_of_back (by simpa using word)

end Folded

theorem splitOn_of_cutFirst (cut : cutFirst ' ' text = some (before, after)) :
    text.splitOn ' ' = before :: after.splitOn ' ' := by
  obtain ⟨rfl, absent⟩ := cutFirst_eq_some cut
  exact List.splitOn_append_cons_self_of_not_mem absent after

theorem splitOn_of_cutFirst_none (uncut : cutFirst ' ' text = none) : text.splitOn ' ' = [text] :=
  List.splitOn_eq_singleton (cutFirst_eq_none_iff.mp uncut)

/-- Behind the first space a second one makes three pieces. -/
theorem three_le_length_splitOn (cut : cutFirst ' ' text = some (before, after))
    (again : ' ' ∈ after) : 3 ≤ (text.splitOn ' ').length := by
  cases cut' : cutFirst ' ' after with
  | none => exact absurd again (cutFirst_eq_none_iff.mp cut')
  | some pieces =>
    have last := List.length_pos_of_ne_nil (List.splitOn_ne_nil ' ' pieces.2)
    rw [splitOn_of_cutFirst cut, splitOn_of_cutFirst cut', List.length_cons, List.length_cons]
    omega

namespace Tight

theorem cut (tight : Tight text) (cut : cutFirst ' ' text = some (before, after)) :
    before ≠ [] ∧ after ≠ [] ∧ Tight after := by
  obtain ⟨rfl, _⟩ := cutFirst_eq_some cut
  refine ⟨?_, ?_, ?_, ?_, ?_, ?_⟩
  · rintro rfl
    exact tight.front rfl
  · rintro rfl
    exact tight.back (by simp)
  · intro c member
    exact tight.layout c (by simp [member])
  · intro doubled
    exact tight.single (doubled.trans ((List.suffix_cons ' ' after).isInfix.trans
      (List.suffix_append before _).isInfix))
  · -- A space at this place would be the second one in a row.
    intro first
    obtain ⟨rest, rfl⟩ := List.head?_eq_some_iff.mp first
    exact tight.single ⟨before, rest, by simp⟩
  · intro last
    obtain ⟨init, rfl⟩ := List.getLast?_eq_some_iff.mp last
    exact tight.back (by simp [List.getLast?_append, List.getLast?_cons])

/-- Words are cut apart by single spaces, so none of them is empty. -/
theorem ne_nil_of_mem_splitOn (tight : Tight text) (written : text ≠ []) :
    ∀ word ∈ text.splitOn ' ', word ≠ [] := by
  induction length : text.length using Nat.strong_induction_on generalizing text with
  | _ _ ih =>
    intro word member
    cases cut : cutFirst ' ' text with
    | none =>
      rw [splitOn_of_cutFirst_none cut, List.mem_singleton] at member
      rwa [member]
    | some pieces =>
      obtain ⟨first, others, rest⟩ := tight.cut cut
      rw [splitOn_of_cutFirst cut] at member
      rcases List.mem_cons.mp member with rfl | later
      · exact first
      · have shorter : pieces.2.length < text.length := by
          rw [(cutFirst_eq_some cut).1, List.length_append, List.length_cons]
          omega
        exact ih _ (length ▸ shorter) rest others rfl word later

end Tight

end Text

namespace Sentence.Composed

variable {sentence : Sentence}

/-- A fragment is folded, and without text only a semicolon stands for itself. -/
theorem folded (composed : sentence.Composed) (fragment : sentence.kind.isFragment = true) :
    Text.Tight sentence.text.toList ∧ (sentence.kind ≠ .closing → sentence.text ≠ "") := by
  cases composed with
  | @contents region => cases region <;> cases fragment
  | fragment _ folded written =>
    rw [String.toList_ofList]
    exact ⟨folded.tight, fun _ => by simpa using written⟩
  | semicolon => exact ⟨Text.Folded.nil.tight, fun other => absurd rfl other⟩
  | mark marked => cases marked.symm.trans (Sentence.Kind.isMark_of_isFragment fragment)

theorem text_of_isMark (composed : sentence.Composed) (marked : sentence.kind.isMark = true) :
    sentence.text = "" := by
  cases composed with
  | @contents region => cases region <;> cases marked
  | fragment fragment => cases marked.symm.trans (Sentence.Kind.isMark_of_isFragment fragment)
  | semicolon | mark => rfl

end Sentence.Composed

/-- Of the layout in a source, sentences outside of regions keep single spaces between words and
nothing else, and only a semicolon becomes a sentence without words. Marks have no text. -/
theorem scan_folds_fragments (source : String) :
    ∃ scanned, scan source = .ok scanned ∧ ∀ sentence ∈ scanned.sentences,
      (sentence.kind.isFragment = true →
        (∀ c ∈ sentence.text.toList, c ≠ '\n' ∧ c ≠ '\r' ∧ c ≠ '\t') ∧
        ¬[' ', ' '] <:+: sentence.text.toList ∧
        sentence.text.toList.head? ≠ some ' ' ∧ sentence.text.toList.getLast? ≠ some ' ' ∧
        (sentence.kind ≠ .closing → sentence.text ≠ "")) ∧
      (sentence.kind.isMark = true → sentence.text = "") := by
  obtain ⟨scanned, cut, composed⟩ := scan_composed source
  refine ⟨scanned, cut, fun sentence member => ⟨fun fragment => ?_, ?_⟩⟩
  · obtain ⟨tight, worded⟩ := (composed sentence member).folded fragment
    refine ⟨fun c inside => ?_, tight.single, tight.front, tight.back, worded⟩
    rcases tight.layout c inside with other | rfl
    · simp only [Text.layout, List.mem_cons, List.not_mem_nil, or_false, not_or] at other
      exact ⟨other.2.2.1, other.2.2.2, other.2.1⟩
    · decide
  · exact (composed sentence member).text_of_isMark

/-- The text of a comment is not folded. -/
example :
    (scan "a\r\n\t b  ;; #  c \n d [ e  f\t] ").map (fun scanned =>
        scanned.sentences.map fun sentence => (sentence.kind, sentence.text)) =
      .ok [(.closing, "a b"), (.closing, ""), (.comment, "  c "), (.unknown, "d"),
        (.accessorStart, ""), (.accessorLastItem, "e f"), (.accessorEnd, "")] := rfl

end Clausal
