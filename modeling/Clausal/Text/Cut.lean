import Clausal.Text.Blank

/-! Cutting text at a separator.

`cutFirst` cuts once, and `words` are the pieces between white space that are not empty.
-/

set_option autoImplicit false

namespace Clausal.Text

/-- The text before and after the first `separator`, or `none` when there is none. -/
def cutFirst (separator : Char) : List Char → Option (List Char × List Char)
  | [] => none
  | c :: rest =>
    if c = separator then some ([], rest)
    else (cutFirst separator rest).map fun (before, after) => (c :: before, after)

/-- The maximal runs of characters that are not white space. -/
def words (cs : List Char) : List (List Char) :=
  (cs.splitOnP isWhite).filter fun piece => !piece.isEmpty

/-- Join words by single spaces, so that white space inside the text no longer varies. -/
def squeeze (cs : List Char) : List Char :=
  [' '].intercalate (words cs)

theorem cutFirst_eq_some {separator : Char} {cs before after : List Char}
    (cut : cutFirst separator cs = some (before, after)) :
    cs = before ++ separator :: after ∧ separator ∉ before := by
  induction cs generalizing before after with
  | nil => simp [cutFirst] at cut
  | cons c rest ih =>
    by_cases same : c = separator
    · simp only [cutFirst, if_pos same, Option.some.injEq, Prod.mk.injEq] at cut
      obtain ⟨rfl, rfl⟩ := cut
      simp [same]
    · simp only [cutFirst, if_neg same, Option.map_eq_some_iff, Prod.mk.injEq, Prod.exists] at cut
      obtain ⟨first, last, found, rfl, rfl⟩ := cut
      obtain ⟨whole, absent⟩ := ih found
      exact ⟨by simp [whole], by simp [absent, Ne.symm same]⟩

theorem cutFirst_eq_none_iff {separator : Char} {cs : List Char} :
    cutFirst separator cs = none ↔ separator ∉ cs := by
  induction cs with
  | nil => simp [cutFirst]
  | cons c rest ih =>
    by_cases same : c = separator
    · simp [cutFirst, same]
    · simp [cutFirst, same, ih, Ne.symm same]

theorem ne_nil_of_mem_words {cs word : List Char} (member : word ∈ words cs) : word ≠ [] := by
  simpa using (List.mem_filter.mp member).2

end Clausal.Text
