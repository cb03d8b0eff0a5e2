import Clausal.Proofs.Outlines

/-! Layout does not matter outside of regions.

Outside of regions a run of spaces, tabs and line breaks is folded to one space or to nothing, and
the character before an operator is white space whichever of them comes last. So the scanner behind
the run is the same whatever the run was made of, up to the positions it counts.
-/

set_option autoImplicit false

namespace Clausal

/-- The characters that lay out a source. -/
def Text.layout : List Char := [' ', '\t', '\n', '\r']

namespace Scanner

variable {s : Scanner} {c first second : Char} {next : Option Char} {text : List Char}
  {sentences : List Sentence} {after last : Scanner}

theorem isWhite_of_layout (layout : c ∈ Text.layout) : Text.isWhite c = true :=
  List.all_eq_true.mp (by decide : Text.layout.all Text.isWhite = true) c layout

/-- The pending fragment behind a run of layout. -/
def spaced (pending : List Char) : List Char :=
  if pending = [] ∨ pending.head? = some ' ' then pending else ' ' :: pending

theorem spaced_spaced (pending : List Char) : spaced (spaced pending) = spaced pending := by
  unfold spaced
  split
  · rfl
  · simp

theorem shown_of_layout (layout : c ∈ Text.layout) :
    (if c = '\n' ∨ c = '\r' ∨ c = '\t' then ' ' else c) = ' ' := by
  simp only [Text.layout, List.mem_cons, List.not_mem_nil, or_false] at layout
  rcases layout with rfl | rfl | rfl | rfl <;> rfl

theorem gatherFolded_layout (layout : c ∈ Text.layout) :
    (s.gatherFolded c).pending = spaced s.pending := by
  simp only [gatherFolded, shown_of_layout layout, true_and, spaced]
  split
  · rfl
  · rfl

/-- What a run of layout makes of a scanner, positions aside. -/
structure Laid (before after : Scanner) : Prop where
  region : after.region = none
  accessor : after.accessor = before.accessor
  escaped : after.escaped = false
  pending : after.pending = spaced before.pending
  swallow : after.swallow = false
  previous : after.previous.any Text.isWhite = true

theorem Laid.trans {before : Scanner} (one : Laid before s) (more : Laid s after) :
    Laid before after :=
  { more with
    accessor := more.accessor.trans one.accessor
    pending := by rw [more.pending, one.pending, spaced_spaced] }

theorem Laid.outline (laid : Laid s after) :
    after.outline = (none, s.accessor.isSome, false, spaced s.pending, false) := by
  rw [Scanner.outline, laid.region, laid.accessor, laid.escaped, laid.pending, laid.swallow]

theorem step_layout (closed : s.region = none) (reads : s.swallow = false)
    (layout : c ∈ Text.layout) (next : Option Char) :
    ∃ after, s.step c next = .ok ([], after) ∧ Laid s after := by
  have unlike : c ≠ '\\' ∧ c ≠ '[' ∧ c ≠ ']' ∧ c ≠ '=' ∧ c ≠ ';' ∧ c ≠ ':' ∧ c ≠ ',' := by
    simp only [Text.layout, List.mem_cons, List.not_mem_nil, or_false] at layout
    rcases layout with rfl | rfl | rfl | rfl <;> decide
  have claimed : s.action? c next = some .fold := by
    have unopened : ∀ d ∈ Text.layout, d ∉ regionMarks := by simp [Text.layout, regionMarks]
    have plain : ∀ d ∈ Text.layout, d ∉ operatorChars := by simp [Text.layout, operatorChars]
    rw [action?_of_plain closed (ofOpening?_eq_none (unopened c layout)) (plain c layout)]
    cases accessor : s.accessor <;> simp [accessorRule, terminatorRule, accessor, unlike]
  refine ⟨_, step_of_action reads claimed, ?_⟩
  constructor
  case region => simpa [perform, advance] using closed
  case accessor => simp [perform, advance]
  case escaped => simp [advance, unlike]
  case pending => exact gatherFolded_layout layout
  case swallow => simpa [perform, advance] using reads
  case previous => exact isWhite_of_layout layout

/-- A run of layout completes no sentence. -/
theorem scans_layout (closed : s.region = none) (reads : s.swallow = false)
    (layout : ∀ c ∈ text, c ∈ Text.layout) (some : text ≠ []) (following : Option Char) :
    ∃ after, Scans following s text [] after ∧ Laid s after := by
  induction text generalizing s with
  | nil => exact absurd rfl some
  | cons c rest ih =>
    obtain ⟨after, stepped, laid⟩ :=
      step_layout closed reads (layout c (by simp)) (rest.head?.or following)
    cases rest with
    | nil => exact ⟨after, .cons stepped .nil, laid⟩
    | cons d rest =>
      obtain ⟨last, scans, more⟩ :=
        ih laid.region laid.swallow (fun e member => layout e (by simp [member])) (by simp)
      exact ⟨last, .cons stepped scans, laid.trans more⟩

theorem regionRule_of_closed (closed : s.regionAfter c = none) (next other : Option Char) :
    regionRule s c next = regionRule s c other := by
  cases inside : s.region with
  | none => simp [regionRule, inside]
  | some region =>
    have closes : region.fate s.escaped c none = .closes := by
      simpa [regionAfter, inside] using closed
    have here := (fate_closes_iff region s.escaped c next).mpr closes
    have there := (fate_closes_iff region s.escaped c other).mpr closes
    simp [regionRule, inside, here, there]

/-- Outside of regions, a character that looks ahead sees white space or not, but not which. -/
theorem action?_before_layout (closed : s.regionAfter c = none) (layout : first ∈ Text.layout)
    (layout' : second ∈ Text.layout) :
    s.action? c (some first) = s.action? c (some second) := by
  have unlike : ∀ d ∈ Text.layout, d ≠ '=' ∧ d ≠ '&' ∧ d ≠ '|' := by simp [Text.layout]
  have operators : operatorRule s c (some first) = operatorRule s c (some second) := by
    have equals {d : Char} (layout : d ∈ Text.layout) : (some d == some '=') = false := by
      simpa using (unlike d layout).1
    rw [operatorRule, operatorRule, equals layout, equals layout']
  have logicals : logicalRule s c (some first) = logicalRule s c (some second) := by
    simp [logicalRule, unlike first layout, unlike second layout']
  have assignments : assignmentRule s c (some first) = assignmentRule s c (some second) := by
    simp [assignmentRule, isWhite_of_layout layout, isWhite_of_layout layout']
  simp only [action?, rules, List.findSome?_cons, operators, logicals, assignments,
    regionRule_of_closed closed (some first) (some second), regionStartRule, parenthesesRule,
    accessorRule, terminatorRule, textRule]

theorem step_before_layout (layout : first ∈ Text.layout) (layout' : second ∈ Text.layout)
    (closed : after.region = none) (stepped : s.step c (some first) = .ok (sentences, after)) :
    s.step c (some second) = .ok (sentences, after) := by
  have mode := mode_of_step stepped
  rw [← stepped, step, step]
  cases swallow : s.swallow with
  | true => rfl
  | false =>
    have stays : s.regionAfter c = none := by
      rw [closed] at mode
      simpa [modeAfter, swallow] using (congrArg Prod.fst mode).symm
    rw [action?_before_layout stays layout layout']

theorem Scans.before_layout (scans : Scans (some first) s text sentences last)
    (layout : first ∈ Text.layout) (layout' : second ∈ Text.layout) (closed : last.region = none) :
    Scans (some second) s text sentences last := by
  induction scans with
  | nil => exact .nil
  | @cons s _ _ c rest _ _ stepped tail ih =>
    cases rest with
    | cons d rest => exact .cons stepped (ih closed)
    | nil =>
      cases tail
      exact .cons (step_before_layout layout layout' closed stepped) .nil

/-- Behind either run of layout the rest of the source is completed alike. -/
theorem completes_layout {w₁ w₂ : List Char} (closed : s.region = none) (reads : s.swallow = false)
    (nonempty₁ : w₁ ≠ []) (nonempty₂ : w₂ ≠ []) (layout₁ : ∀ c ∈ w₁, c ∈ Text.layout)
    (layout₂ : ∀ c ∈ w₂, c ∈ Text.layout) (q : List Char) :
    ∃ first second, s.Completes (w₁ ++ q) first ∧ s.Completes (w₂ ++ q) second ∧
      first.Alike (fun _ _ => True) second := by
  obtain ⟨a, scans₁, laid₁⟩ := scans_layout closed reads layout₁ nonempty₁ q.head?
  obtain ⟨b, scans₂, laid₂⟩ := scans_layout closed reads layout₂ nonempty₂ q.head?
  have behind : ∀ c ∈ q.head?, SameBehind a b c :=
    fun _ _ => .inl (laid₁.previous.trans laid₂.previous.symm)
  obtain ⟨first, rest⟩ := exists_completes a q
  have same : a.outline = b.outline := laid₁.outline.trans laid₂.outline.symm
  obtain ⟨second, rest', alike⟩ := (Alike.of_outline same).completes .any behind rest
  exact ⟨_, _, scans₁.completes rest, scans₂.completes rest', alike.sentences, alike.notices⟩

end Scanner

/-- Two sources with other layout in one place, where no region is open, are read alike. -/
theorem scan_layout {p w₁ w₂ q : String} {following : Option Char} {sentences : List Sentence}
    {s : Scanner} (read : Scanner.Scans following {} p.toList sentences s) (normal : s.region = none)
    (nonempty₁ : w₁ ≠ "") (nonempty₂ : w₂ ≠ "")
    (layout₁ : ∀ c ∈ w₁.toList, c ∈ Text.layout) (layout₂ : ∀ c ∈ w₂.toList, c ∈ Text.layout) :
    ∃ first second, scan (p ++ (w₁ ++ q)) = .ok first ∧ scan (p ++ (w₂ ++ q)) = .ok second ∧
      first.Alike (fun _ _ => True) second := by
  obtain ⟨l₁, r₁, whole₁⟩ := List.exists_cons_of_ne_nil (mt String.toList_eq_nil_iff.mp nonempty₁)
  obtain ⟨l₂, r₂, whole₂⟩ := List.exists_cons_of_ne_nil (mt String.toList_eq_nil_iff.mp nonempty₂)
  have first : l₁ ∈ Text.layout := layout₁ l₁ (by simp [whole₁])
  have second : l₂ ∈ Text.layout := layout₂ l₂ (by simp [whole₂])
  -- Neither run shows before it is read, so both meet the same scanner.
  obtain ⟨before, t, scans₁⟩ := Scanner.exists_scans (some l₁) {} p.toList
  have closed : t.region = none := (congrArg Prod.fst (read.mode scans₁)).symm.trans normal
  have scans₂ := scans₁.before_layout first second closed
  have reads : t.swallow = false := by
    have apart : ∀ d ∈ Text.layout, d ∉ operatorTails := by simp [Text.layout, operatorTails]
    refine scans₁.swallow_eq_false rfl ?_
    rintro d ⟨rfl⟩
    exact apart l₁ first
  obtain ⟨a, b, rest₁, rest₂, alike⟩ := Scanner.completes_layout closed reads (by simp [whole₁])
    (by simp [whole₂]) layout₁ layout₂ q.toList
  rw [← String.toList_append] at rest₁ rest₂
  have head₁ : (w₁ ++ q).toList.head? = some l₁ := by simp [whole₁]
  have head₂ : (w₂ ++ q).toList.head? = some l₂ := by simp [whole₂]
  exact ⟨_, _, scan_of_parts (head₁ ▸ scans₁) rest₁, scan_of_parts (head₂ ▸ scans₂) rest₂,
    alike.prepend (fun _ => trivial) before⟩

/-- Layout does not matter outside of regions. Where no region is open, one run of spaces, tabs and
line breaks does as well as another: the sentences have the same kinds and texts, the same is found
in the source, and it comes to the same program or fails for the same cause. -/
theorem layout_irrelevant (p w₁ w₂ q : String) (following : Option Char) (done : Array Sentence)
    (s : Scanner) (read : ({} : Scanner).run #[] following p.toList = .ok (done, s))
    (normal : s.region = none) (nonempty₁ : w₁ ≠ "") (nonempty₂ : w₂ ≠ "")
    (layout₁ : ∀ c ∈ w₁.toList, c ∈ Text.layout) (layout₂ : ∀ c ∈ w₂.toList, c ∈ Text.layout) :
    (∃ first second, scan (p ++ w₁ ++ q) = .ok first ∧ scan (p ++ w₂ ++ q) = .ok second ∧
      first.sentences.map Sentence.outline = second.sentences.map Sentence.outline ∧
      first.notices.map Notice.finding = second.notices.map Notice.finding) ∧
    ∀ options, parseOutline options (p ++ w₁ ++ q) = parseOutline options (p ++ w₂ ++ q) := by
  obtain ⟨first, second, here, there, alike⟩ := scan_layout (q := q) (Scanner.scans_of_run read)
    normal nonempty₁ nonempty₂ layout₁ layout₂
  have sentences := Sentence.map_outline_eq alike.sentences
  have findings := Notice.map_finding_eq alike.notices
  rw [← String.append_assoc] at here there
  refine ⟨⟨first, second, here, there, sentences, findings⟩, fun options => ?_⟩
  exact parseOutline_eq options here there sentences findings

/-- Inside an accessor, behind a backslash. With the second layout the source goes over two lines. -/
theorem broken_accessor_layout :
    (∃ first second, scan ("[list \\" ++ " " ++ "at = 'end") = .ok first ∧
      scan ("[list \\" ++ "\n\t" ++ "at = 'end") = .ok second ∧
      first.sentences.map Sentence.outline = second.sentences.map Sentence.outline ∧
      first.notices.map Notice.finding = second.notices.map Notice.finding) ∧
    parseOutline {} ("[list \\" ++ " " ++ "at = 'end")
      = parseOutline {} ("[list \\" ++ "\n\t" ++ "at = 'end") := by
  have read : ({} : Scanner).run #[] none "[list \\".toList = .ok
      (#[⟨.accessorStart, "", .between 0 1⟩],
        { index := 7, previous := some '\\', accessor := some 0, escaped := true,
          pending := ['\\', ' ', 't', 's', 'i', 'l'], pendingStart := 1 }) := rfl
  obtain ⟨scans, outlines⟩ := layout_irrelevant "[list \\" " " "\n\t" "at = 'end" none _ _ read rfl
    (by decide) (by decide) (by simp [Text.layout]) (by simp [Text.layout])
  exact ⟨scans, outlines {}⟩

end Clausal
