import Clausal.Proofs.Spans
import Mathlib.Data.List.DropRight

/-! Lines and columns order a source as its indices do.

Every character leads to a later position, be it on the same line or at the start of the next one.
So no two indices of a source share a position, and what comes later in the source is reported at a
later line, or at a later column of the same one.
-/

set_option autoImplicit false

namespace Clausal

/-- One position in front of another, by the line and then by the column. -/
def Position.Before (first second : Position) : Prop :=
  first.line < second.line ∨ first.line = second.line ∧ first.column < second.column

namespace Position

variable {first second third : Position}

theorem Before.trans (early : first.Before second) (late : second.Before third) :
    first.Before third := by
  unfold Before at *
  omega

theorem Before.asymm (early : first.Before second) : ¬ second.Before first := by
  unfold Before at *
  omega

theorem not_before_self (position : Position) : ¬ position.Before position :=
  fun before => before.asymm before

theorem before_advance (position : Position) (c : Char) : position.Before (position.advance c) := by
  unfold Before advance
  split
  · exact .inl (Nat.lt_succ_self _)
  · exact .inr ⟨rfl, Nat.lt_succ_self _⟩

theorem before_foldl_advance {cs : List Char} (some_read : cs ≠ []) (position : Position) :
    position.Before (cs.foldl advance position) := by
  induction cs generalizing position with
  | nil => exact absurd rfl some_read
  | cons c cs ih =>
    have first := position.before_advance c
    by_cases last : cs = []
    · rwa [last]
    · exact first.trans (ih last _)

theorem line_foldl_advance (cs : List Char) (position : Position) :
    (cs.foldl advance position).line = position.line + cs.count '\n' := by
  induction cs generalizing position with
  | nil => rfl
  | cons c cs ih =>
    rw [List.foldl_cons, ih, List.count_cons]
    by_cases newline : c = '\n'
    · simp only [advance, newline, beq_self_eq_true, if_true]
      omega
    · simp [advance, newline]

/-- The column counts from the last newline that was read, as the line does from the origin. -/
theorem column_foldl_advance (cs : List Char) :
    (cs.foldl advance origin).column = 1 + (cs.rtakeWhile (· != '\n')).length := by
  induction cs using List.reverseRecOn with
  | nil => rfl
  | append_singleton cs c ih =>
    rw [List.foldl_concat, List.rtakeWhile_concat]
    by_cases newline : c = '\n'
    · simp [advance, newline]
    · simp only [advance, newline, bne_iff_ne, ne_eq, not_false_eq_true, if_false, if_true, ih,
        List.length_append, List.length_singleton]
      omega

section

variable (source : String)

/-- What lies between two indices leads from the position of the one to that of the other. -/
theorem locate_of_le {i j : Nat} (ordered : i ≤ j) :
    locate source j =
      ((source.toList.drop i).take (j - i)).foldl advance (locate source i) := by
  rw [locate, locate, ← List.foldl_append, ← List.take_add, Nat.add_sub_cancel' ordered]

theorem locate_past (beyond : Nat) :
    locate source (source.length + beyond) = locate source source.length := by
  have length : source.toList.length = source.length := rfl
  rw [locate, locate, ← length, List.take_of_length_le (Nat.le_add_right _ _), List.take_length]

theorem locate_min (i : Nat) : locate source (min i source.length) = locate source i := by
  rcases Nat.le_total i source.length with inside | past
  · rw [Nat.min_eq_left inside]
  · obtain ⟨beyond, rfl⟩ := Nat.exists_eq_add_of_le past
    rw [Nat.min_eq_right past, locate_past]

theorem before_of_lt {i j : Nat} (ordered : i < j) (inside : i < source.length) :
    (locate source i).Before (locate source j) := by
  rw [locate_of_le source ordered.le]
  apply before_foldl_advance
  apply List.ne_nil_of_length_pos
  have length : source.toList.length = source.length := rfl
  rw [List.length_take, List.length_drop, length]
  omega

theorem locate_before_iff (i j : Nat) :
    (locate source i).Before (locate source j) ↔ i < j ∧ i < source.length := by
  constructor
  · intro before
    by_contra disordered
    rw [← locate_min source i, ← locate_min source j] at before
    -- Cut off at the end of the source, the indices are equal or the other way round.
    rcases Nat.lt_or_eq_of_le (show min j source.length ≤ min i source.length by omega) with
      lt | same
    · exact before.asymm (before_of_lt source lt (by omega))
    · rw [same] at before
      exact not_before_self _ before
  · exact fun ⟨ordered, inside⟩ => before_of_lt source ordered inside

end

end Position

theorem Sentence.pairwise_start {sentences : List Sentence} (chain : sentences.IsChain Precedes) :
    sentences.Pairwise fun first second => first.span.start < second.span.start := by
  have starts : (sentences.map (·.span.start)).IsChain (· < ·) :=
    (List.isChain_map _).mpr (chain.imp fun _ _ precedes => precedes.1)
  exact List.pairwise_map.mp starts.pairwise

/-- Sentences that start one behind the other in a source are reported in this order. -/
theorem Sentence.pairwise_position {source : String} {sentences : List Sentence}
    (chain : sentences.IsChain Precedes)
    (points : ∀ sentence ∈ sentences, sentence.Points source.toList) :
    sentences.Pairwise fun first second =>
      (first.span.position source).Before (second.span.position source) := by
  apply (pairwise_start chain).imp_of_mem
  intro first second _ later ordered
  obtain ⟨start, stop⟩ := (points second later).inside
  exact Position.before_of_lt source ordered (ordered.trans_le (start.trans stop))

open Position

/-- Positions are a coordinate of the source. They increase with the index up to the end of the
source, where they stay. A line is counted for every newline that comes before, and a column for
every character behind the last one. Each sentence is reported in front of all that follow it. -/
theorem positions_increase (source : String) :
    (∀ i j, (locate source i).Before (locate source j) ↔ i < j ∧ i < source.length) ∧
      (∀ beyond, locate source (source.length + beyond) = locate source source.length) ∧
      (∀ i, locate source i =
        ⟨1 + (source.toList.take i).count '\n',
          1 + ((source.toList.take i).rtakeWhile (· != '\n')).length⟩) ∧
      ∃ scanned, scan source = .ok scanned ∧
        scanned.sentences.Pairwise fun first second =>
          (first.span.position source).Before (second.span.position source) := by
  refine ⟨locate_before_iff source, locate_past source, fun i => ?_, ?_⟩
  · rw [locate, Position.mk.injEq]
    exact ⟨line_foldl_advance _ _, column_foldl_advance _⟩
  · obtain ⟨done, last, placed, scanned⟩ := Scanner.Placed.exists_scan source
    obtain ⟨body, ordered, points, all⟩ := placed.finish
    refine ⟨_, scanned, ?_⟩
    rw [all]
    apply Sentence.pairwise_position (Scanner.isChain_missingEnd ordered)
    intro sentence member
    rcases List.mem_append.mp member with early | late
    · exact points sentence early
    · exact Scanner.missingEnd_points placed.index sentence late

example : (List.range 5).map (locate "a\nb") = [⟨1, 1⟩, ⟨1, 2⟩, ⟨2, 1⟩, ⟨2, 2⟩, ⟨2, 2⟩] := by decide

end Clausal
