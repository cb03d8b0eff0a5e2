import Clausal.Proofs.Folding
import Clausal.Proofs.Names

/-! Squeezed text.

Words, and nothing but single spaces between them. Squeezing a text makes it so, trimming a part of
squeezed text keeps it so, and what is squeezed already stays as it is.
-/

set_option autoImplicit false

namespace Clausal

namespace Text

/-- Words with nothing but single spaces between them. -/
structure Squeezed (text : List Char) : Prop where
  white : ∀ c ∈ text, isWhite c = true → c = ' '
  single : ¬[' ', ' '] <:+: text
  front : text.head? ≠ some ' '
  back : text.getLast? ≠ some ' '

variable {text first second : List Char}

theorem single_append (before : ¬[' ', ' '] <:+: first) (after : ¬[' ', ' '] <:+: second)
    (apart : first.getLast? ≠ some ' ' ∨ second.head? ≠ some ' ') :
    ¬[' ', ' '] <:+: first ++ second := by
  rw [List.infix_append_iff_ne_nil]
  rintro (inside | inside | ⟨left, right, some, others, spaces, ends, starts⟩)
  · exact before inside
  · exact after inside
  · -- One space would end the first text, the other one start the second.
    obtain ⟨c, left, rfl⟩ := List.exists_cons_of_ne_nil some
    obtain ⟨d, right, rfl⟩ := List.exists_cons_of_ne_nil others
    obtain ⟨rfl, rest⟩ := List.cons_eq_cons.mp spaces
    cases left with
    | cons => simp at rest
    | nil =>
      obtain ⟨rfl, rfl⟩ := List.cons_eq_cons.mp rest
      obtain ⟨_, rfl⟩ := ends
      obtain ⟨_, rfl⟩ := starts
      simp at apart

theorem splitOnP_congr {p q : Char → Bool} (same : ∀ c ∈ text, p c = q c) :
    text.splitOnP p = text.splitOnP q := by
  induction text with
  | nil => rfl
  | cons c rest ih =>
    obtain ⟨here, later⟩ := List.forall_mem_cons.mp same
    rw [List.splitOnP_cons_eq_if_modifyHead, List.splitOnP_cons_eq_if_modifyHead, here, ih later]

theorem intercalate_cons (separator piece : List Char) (others : List (List Char)) :
    separator.intercalate (piece :: others) = piece ++ others.flatMap (separator ++ ·) := by
  induction others generalizing piece with
  | nil => simp
  | cons second others ih =>
    rw [List.intercalate_cons_cons, ih, List.flatMap_cons, List.append_assoc, List.append_assoc]

theorem intercalate_ne_nil {separator : List Char} {pieces : List (List Char)}
    (worded : ∀ piece ∈ pieces, piece ≠ []) (some : pieces ≠ []) :
    separator.intercalate pieces ≠ [] := by
  obtain ⟨piece, others, rfl⟩ := List.exists_cons_of_ne_nil some
  have written := worded piece List.mem_cons_self
  simp [intercalate_cons, written]

/-- The space behind a mark may as well be taken for the start of the next piece. -/
theorem cons_intercalate (space : Char) (mark : List Char) {pieces : List (List Char)}
    (some : pieces ≠ []) : space :: (mark ++ [space]).intercalate pieces =
      mark.intercalate (pieces.map (space :: ·)) := by
  obtain ⟨piece, others, rfl⟩ := List.exists_cons_of_ne_nil some
  simp [intercalate_cons, List.flatMap_map]

namespace Squeezed

theorem tight (squeezed : Squeezed text) : Tight text where
  layout c member := by
    by_cases white : isWhite c = true
    · exact .inr (squeezed.white c member white)
    · refine .inl fun laid => white ?_
      simp only [Text.layout, List.mem_cons, List.not_mem_nil, or_false] at laid
      rcases laid with rfl | rfl | rfl | rfl <;> rfl
  single := squeezed.single
  front := squeezed.front
  back := squeezed.back

theorem word (plain : ∀ c ∈ text, isWhite c = false) : Squeezed text := by
  have spaceless : ' ' ∉ text := fun space => Bool.noConfusion (plain ' ' space)
  refine ⟨fun c member white => ?_, fun doubled => ?_, fun head => ?_, fun last => ?_⟩
  · cases (plain c member).symm.trans white
  · exact spaceless (doubled.subset (by simp))
  · exact spaceless (List.mem_of_head? head)
  · exact spaceless (List.mem_of_getLast? last)

theorem append (before : Squeezed first) (after : Squeezed second) :
    Squeezed (first ++ second) where
  white c member := (List.mem_append.mp member).elim (before.white c) (after.white c)
  single := single_append before.single after.single (.inl before.back)
  front := by
    rw [List.head?_append]
    cases head : first.head? with
    | none => exact after.front
    | some c => exact fun space => before.front (head.trans space)
  back := by
    rw [List.getLast?_append]
    cases last : second.getLast? with
    | none => exact before.back
    | some c => exact fun space => after.back (last.trans space)

theorem space (before : Squeezed first) (after : Squeezed second) (words : first ≠ [])
    (others : second ≠ []) : Squeezed (first ++ ' ' :: second) where
  white c member := by
    rcases List.mem_append.mp member with early | late
    · exact before.white c early
    · rcases List.mem_cons.mp late with rfl | late
      · exact fun _ => rfl
      · exact after.white c late
  single := by
    have spaced : ¬[' ', ' '] <:+: [' '] ++ second :=
      single_append (by decide) after.single (.inr after.front)
    exact single_append before.single spaced (.inl before.back)
  front := by
    obtain ⟨c, rest, rfl⟩ := List.exists_cons_of_ne_nil words
    exact before.front
  back := by
    rw [List.getLast?_append, List.getLast?_cons_of_ne_nil others]
    cases last : second.getLast? with
    | none => exact absurd (List.getLast?_eq_none_iff.mp last) others
    | some c => exact fun space => after.back (last.trans space)

/-- Words joined by a space, with a mark in front of it or none. -/
theorem intercalate {pieces : List (List Char)} (mark : List Char)
    (plain : ∀ c ∈ mark, isWhite c = false)
    (worded : ∀ piece ∈ pieces, piece ≠ [] ∧ Squeezed piece) :
    Squeezed ((mark ++ [' ']).intercalate pieces) := by
  induction pieces with
  | nil => exact word nofun
  | cons first others ih =>
    obtain ⟨⟨written, squeezed⟩, worded⟩ := List.forall_mem_cons.mp worded
    cases others with
    | nil => rwa [List.intercalate_singleton]
    | cons second others =>
      have further : (mark ++ [' ']).intercalate (second :: others) ≠ [] :=
        intercalate_ne_nil (fun piece member => (worded piece member).1) nofun
      rw [List.intercalate_cons_cons, ← List.append_assoc, List.append_assoc, List.singleton_append]
      exact (squeezed.append (word plain)).space (ih worded) (by simp [written]) further

theorem cut (squeezed : Squeezed text) (cut : cutFirst ' ' text = some (first, second)) :
    Squeezed second := by
  have rest := (squeezed.tight.cut cut).2.2
  have later := (cutFirst_subset cut).2
  exact ⟨fun c member => squeezed.white c (later member), rest.single, rest.front, rest.back⟩

theorem trimWhite_eq (squeezed : Squeezed text) : trimWhite text = text := by
  apply trimBy_of_ends
  · intro c first
    rw [← Bool.not_eq_true]
    intro white
    exact squeezed.front (squeezed.white c (List.mem_of_head? first) white ▸ first)
  · intro c last
    rw [← Bool.not_eq_true]
    intro white
    exact squeezed.back (squeezed.white c (List.mem_of_getLast? last) white ▸ last)

theorem trimWhite_cons (squeezed : Squeezed text) : trimWhite (' ' :: text) = text :=
  squeezed.trimWhite_eq

theorem words_eq (squeezed : Squeezed text) (written : text ≠ []) :
    words text = text.splitOn ' ' := by
  have same : text.splitOnP isWhite = text.splitOn ' ' := by
    rw [List.splitOn_eq_splitOnP]
    apply splitOnP_congr
    intro c member
    rw [Bool.eq_iff_iff, beq_iff_eq]
    exact ⟨squeezed.white c member, fun space => space ▸ rfl⟩
  rw [words, same, List.filter_eq_self]
  intro word member
  simpa using squeezed.tight.ne_nil_of_mem_splitOn written word member

theorem squeeze_eq (squeezed : Squeezed text) : squeeze text = text := by
  by_cases written : text = []
  · subst written
    rfl
  · rw [squeeze, squeezed.words_eq written, List.intercalate_splitOn]

end Squeezed

theorem squeezed_squeeze (text : List Char) : Squeezed (squeeze text) := by
  refine Squeezed.intercalate [] nofun fun word member => ⟨ne_nil_of_mem_words member, ?_⟩
  exact .word (of_mem_splitOnP (List.mem_filter.mp member).1).2

theorem ends_trimBy (p : Char → Bool) (text : List Char) :
    (∀ c ∈ (trimBy p text).head?, p c = false) ∧ ∀ c ∈ (trimBy p text).getLast?, p c = false := by
  have starts (cs : List Char) : ∀ c ∈ (cs.dropWhile p).head?, p c = false := by
    intro c first
    have stays := List.head?_dropWhile_not p cs
    rwa [first] at stays
  constructor
  · intro c first
    obtain ⟨rest, whole⟩ := isPrefix_trimBy p text
    apply starts text
    rw [← whole, List.head?_append, first]
    rfl
  · rw [trimBy, List.getLast?_reverse]
    exact starts _

/-- A part of squeezed text is squeezed once it is trimmed. -/
theorem Squeezed.trimWhite (squeezed : Squeezed text) (part : first <:+: text) :
    Squeezed (trimWhite first) where
  white c member := squeezed.white c (part.subset (trimBy_subset _ _ member))
  single doubled := squeezed.single (doubled.trans ((isInfix_trimBy _ _).trans part))
  front space := Bool.noConfusion ((ends_trimBy isWhite first).1 ' ' space)
  back space := Bool.noConfusion ((ends_trimBy isWhite first).2 ' ' space)

theorem squeeze_space (text : List Char) : squeeze (' ' :: text) = squeeze text := by
  have spaced : (' ' :: text).splitOnP isWhite = [] :: text.splitOnP isWhite := by
    rw [List.splitOnP_cons_eq_if_modifyHead, if_pos (by rfl)]
  rw [squeeze, squeeze, words, words, spaced, List.filter_cons_of_neg (by simp)]

theorem takeWhile_append_of_notMem {separator : Char} (absent : separator ∉ first) :
    (first ++ second).takeWhile (· ≠ separator) = first ++ second.takeWhile (· ≠ separator) := by
  apply List.takeWhile_append_of_pos
  intro c member
  rw [decide_eq_true_eq]
  exact fun same => absent (same ▸ member)

theorem cutFirst_append {separator : Char} (absent : separator ∉ first) :
    cutFirst separator (first ++ separator :: second) = some (first, second) := by
  induction first with
  | nil => simp [cutFirst]
  | cons c rest ih =>
    rw [List.mem_cons, not_or] at absent
    simp [cutFirst, Ne.symm absent.1, ih absent.2]

end Text

end Clausal
