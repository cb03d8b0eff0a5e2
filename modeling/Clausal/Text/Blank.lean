/-! White space and the ways text is trimmed around it.

Two notions live side by side. The Unicode property `White_Space` decides where
operators may stand and what separates words; the narrower *padding* of spaces
and tabs is all that is removed from the ends of a finished sentence.
-/

set_option autoImplicit false

namespace Clausal.Text

/-- The code points with the Unicode property `White_Space`, as closed ranges. -/
def whiteRanges : List (Nat × Nat) :=
  [(0x9, 0xd), (0x20, 0x20), (0x85, 0x85), (0xa0, 0xa0), (0x1680, 0x1680), (0x2000, 0x200a),
   (0x2028, 0x2029), (0x202f, 0x202f), (0x205f, 0x205f), (0x3000, 0x3000)]

/-- Whether `n` lies in one of the closed ranges. -/
def inRanges (ranges : List (Nat × Nat)) (n : Nat) : Bool :=
  ranges.any fun range => range.1 ≤ n && n ≤ range.2

def isWhite (c : Char) : Bool :=
  inRanges whiteRanges c.toNat

/-- Space and tab, the only characters stripped from the ends of a sentence. -/
def isPadding (c : Char) : Bool :=
  c == ' ' || c == '\t'

/-- Drop the characters satisfying `p` from both ends. -/
def trimBy (p : Char → Bool) (cs : List Char) : List Char :=
  ((cs.dropWhile p).reverse.dropWhile p).reverse

def trimWhite (cs : List Char) : List Char :=
  trimBy isWhite cs

def trimPadding (cs : List Char) : List Char :=
  trimBy isPadding cs

theorem isWhite_of_isPadding {c : Char} (padding : isPadding c = true) : isWhite c = true := by
  simp only [isPadding, Bool.or_eq_true, beq_iff_eq] at padding
  rcases padding with rfl | rfl <;> rfl

theorem filter_dropWhile {p q : Char → Bool} (apart : ∀ {c : Char}, p c = true → q c = false)
    (cs : List Char) : (cs.dropWhile p).filter q = cs.filter q := by
  induction cs with
  | nil => rfl
  | cons c rest ih =>
    rw [List.dropWhile_cons]
    split
    · next dropped => rw [ih, List.filter_cons_of_neg (by simp [apart dropped])]
    · rfl

/-- Trimming takes nothing away from a selection that it stays clear of. -/
theorem filter_trimBy {p q : Char → Bool} (apart : ∀ {c : Char}, p c = true → q c = false)
    (cs : List Char) : (trimBy p cs).filter q = cs.filter q := by
  rw [trimBy, List.filter_reverse, filter_dropWhile apart, List.filter_reverse,
    List.reverse_reverse, filter_dropWhile apart]

theorem head?_trimBy {p : Char → Bool} {cs : List Char} (kept : ∀ c ∈ cs.head?, p c = false) :
    (trimBy p cs).head? = cs.head? := by
  cases cs with
  | nil => rfl
  | cons c rest =>
    have stays : p c = false := kept c rfl
    rw [trimBy, List.dropWhile_cons_of_neg (by simp [stays]), List.reverse_cons,
      List.dropWhile_append]
    split
    · simp [stays]
    · simp

end Clausal.Text
