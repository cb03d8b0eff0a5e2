import Clausal.Sentence.Scan

/-! What reading a character can come to, and what follows for a whole source.

The rules are asked in order, so that a decision says not only which rule made it but also which
rules declined. This is stated once, and facts about a source follow by induction over its
characters.
-/

set_option autoImplicit false

namespace Clausal

/-- The kinds that operators and parentheses leave behind. -/
def Sentence.Kind.isOperator : Sentence.Kind → Bool
  | .logical _ | .calculation _ | .comparison _ | .parenthesesStart | .parenthesesEnd => true
  | _ => false

/-- The first characters of operators, and the parentheses. -/
def operatorChars : List Char :=
  ['+', '-', '*', '/', '<', '>', '!', '=', '&', '|', '(', ')']

/-- The second characters of operators. -/
def operatorTails : List Char :=
  ['=', '&', '|']

/-- The kind of the fragment that a character ends. -/
def terminators : List (Char × Sentence.Kind) :=
  [(';', .closing), (':', .opening), (',', .enumerating), ('=', .assignmentKey)]

namespace Scanner

/-- The decisions open to the rules, each with what it presupposes. -/
inductive Chosen (s : Scanner) (c : Char) (next : Option Char) : Action → Prop where
  | keep {region : Region} : s.region = some region → region.fate s.escaped c next = .kept →
      Chosen s c next .keep
  | drop {region : Region} : s.region = some region → region.fate s.escaped c next = .dropped →
      Chosen s c next .drop
  | leave {region : Region} : s.region = some region → region.fate s.escaped c next = .closes →
      Chosen s c next (.leave region)
  | enter {region : Region} : s.region = none → Region.ofOpening? s.escaped c = some region →
      Chosen s c next (.enter region)
  | operator {kind : Sentence.Kind} {wide : Bool} : s.region = none → s.accessor = none →
      c ∈ operatorChars → kind.isOperator = true →
      (wide = true → ∃ tail ∈ operatorTails, next = some tail) → Chosen s c next (.mark kind wide)
  | openAccessor : s.region = none → s.accessor = none → c = '[' → Chosen s c next .openAccessor
  | closeAccessor : s.region = none → s.accessor.isSome = true → c = ']' →
      Chosen s c next .closeAccessor
  | assignMember : s.region = none → s.accessor.isSome = true → c = '=' →
      Chosen s c next (.mark .accessorAssignment false)
  | terminate {kind : Sentence.Kind} : s.region = none → s.accessor = none →
      (c, kind) ∈ terminators → Chosen s c next (.terminate kind)
  | fold : s.region = none → Region.ofOpening? s.escaped c = none → Chosen s c next .fold

variable {s : Scanner} {c : Char} {next : Option Char} {action : Action}

theorem gatherFolded_eq (s : Scanner) (c : Char) :
    s.gatherFolded c = s ∨ ∃ shown, s.gatherFolded c = s.gather shown := by
  unfold gatherFolded
  dsimp only
  generalize (if c = '\n' ∨ c = '\r' ∨ c = '\t' then ' ' else c) = shown
  split
  · exact .inl rfl
  · exact .inr ⟨shown, rfl⟩

@[simp] theorem gatherFolded_region (s : Scanner) (c : Char) :
    (s.gatherFolded c).region = s.region := by
  obtain same | ⟨shown, same⟩ := s.gatherFolded_eq c
  · rw [same]
  · rw [same, gather]

@[simp] theorem gatherFolded_accessor (s : Scanner) (c : Char) :
    (s.gatherFolded c).accessor = s.accessor := by
  obtain same | ⟨shown, same⟩ := s.gatherFolded_eq c
  · rw [same]
  · rw [same, gather]

@[simp] theorem gatherFolded_swallow (s : Scanner) (c : Char) :
    (s.gatherFolded c).swallow = s.swallow := by
  obtain same | ⟨shown, same⟩ := s.gatherFolded_eq c
  · rw [same]
  · rw [same, gather]

@[simp] theorem gatherFolded_index (s : Scanner) (c : Char) :
    (s.gatherFolded c).index = s.index := by
  obtain same | ⟨shown, same⟩ := s.gatherFolded_eq c
  · rw [same]
  · rw [same, gather]

@[simp] theorem gatherFolded_escaped (s : Scanner) (c : Char) :
    (s.gatherFolded c).escaped = s.escaped := by
  obtain same | ⟨shown, same⟩ := s.gatherFolded_eq c
  · rw [same]
  · rw [same, gather]

@[simp] theorem perform_index (s : Scanner) (c : Char) (action : Action) :
    (s.perform c action).2.index = s.index := by
  cases action with
  | fold => exact s.gatherFolded_index c
  | _ => rfl

@[simp] theorem perform_escaped (s : Scanner) (c : Char) (action : Action) :
    (s.perform c action).2.escaped = s.escaped := by
  cases action with
  | fold => exact s.gatherFolded_escaped c
  | _ => rfl

theorem ended_eq (s : Scanner) (kind : Sentence.Kind) (trims : Bool) (stop : Nat) :
    s.ended kind trims stop = [] ∨
      ∃ text span, s.ended kind trims stop = [⟨kind, text, span⟩] := by
  unfold ended
  dsimp only
  generalize (if trims then Text.trimPadding s.pending.reverse else s.pending.reverse) = text
  split
  · split
    · exact .inr ⟨_, _, rfl⟩
    · exact .inl rfl
  · exact .inr ⟨_, _, rfl⟩

theorem isBare_iff : s.isBare = true ↔ s.region = none ∧ s.accessor = none := by
  simp [isBare]

theorem regionRule_chosen (claimed : regionRule s c next = some action) :
    Chosen s c next action := by
  obtain ⟨region, inside, rfl⟩ := Option.map_eq_some_iff.mp claimed
  split
  · next fate => exact .keep inside fate
  · next fate => exact .drop inside fate
  · next fate => exact .leave inside fate

theorem calculation_ofChar?_mem {operator : Calculation}
    (spelled : Calculation.ofChar? c = some operator) : c ∈ operatorChars := by
  obtain ⟨operation, named, _⟩ := Option.map_eq_some_iff.mp spelled
  unfold Arithmetic.ofChar? at named
  split at named
  case h_5 => cases named
  all_goals decide

theorem comparison_ofChar?_mem {equals : Bool} {operator : Comparison}
    (spelled : Comparison.ofChar? c equals = some operator) : c ∈ operatorChars := by
  unfold Comparison.ofChar? at spelled
  split at spelled
  case h_7 => cases spelled
  all_goals decide

theorem operatorRule_chosen (claimed : operatorRule s c next = some action) :
    Chosen s c next action := by
  unfold operatorRule at claimed
  split at claimed
  case isFalse => cases claimed
  next bare =>
  obtain ⟨noRegion, noAccessor⟩ := isBare_iff.mp bare.1
  simp only [Option.map_eq_some_iff, Option.orElse_eq_orElse, Option.orElse_eq_or,
    Option.or_eq_some_iff] at claimed
  obtain ⟨kind, spelled, rfl⟩ := claimed
  have wide : (next == some '=') = true → ∃ tail ∈ operatorTails, next = some tail := by
    intro equals
    exact ⟨'=', by decide, by simpa using equals⟩
  rcases spelled with ⟨operator, spelled, rfl⟩ | ⟨_, operator, spelled, rfl⟩
  · exact .operator noRegion noAccessor (calculation_ofChar?_mem spelled) rfl wide
  · exact .operator noRegion noAccessor (comparison_ofChar?_mem spelled) rfl wide

theorem logicalRule_chosen (claimed : logicalRule s c next = some action) :
    Chosen s c next action := by
  unfold logicalRule at claimed
  split at claimed
  case isFalse => cases claimed
  next bare =>
  obtain ⟨noRegion, noAccessor⟩ := isBare_iff.mp bare
  split at claimed
  · next spelled =>
    cases claimed
    exact .operator noRegion noAccessor (by simp [spelled, operatorChars]) rfl (by simp)
  · split at claimed
    · next spelled =>
      cases claimed
      exact .operator noRegion noAccessor (by simp [spelled.1, operatorChars]) rfl
        fun _ => ⟨'&', by decide, spelled.2⟩
    · split at claimed
      · next spelled =>
        cases claimed
        exact .operator noRegion noAccessor (by simp [spelled.1, operatorChars]) rfl
          fun _ => ⟨'|', by decide, spelled.2⟩
      · cases claimed

theorem parenthesesRule_chosen (claimed : parenthesesRule s c next = some action) :
    Chosen s c next action := by
  unfold parenthesesRule at claimed
  split at claimed
  case isFalse => cases claimed
  next bare =>
  obtain ⟨noRegion, noAccessor⟩ := isBare_iff.mp bare
  split at claimed
  · next spelled =>
    cases claimed
    exact .operator noRegion noAccessor (by simp [spelled, operatorChars]) rfl (by simp)
  · split at claimed
    · next spelled =>
      cases claimed
      exact .operator noRegion noAccessor (by simp [spelled, operatorChars]) rfl (by simp)
    · cases claimed

theorem accessorRule_chosen (noRegion : s.region = none)
    (noOpening : Region.ofOpening? s.escaped c = none)
    (claimed : accessorRule s c next = some action) : Chosen s c next action := by
  unfold accessorRule at claimed
  split at claimed
  · next noAccessor =>
    split at claimed
    · next bracket =>
      cases claimed
      exact .openAccessor noRegion noAccessor bracket
    · cases claimed
  · next inside =>
    -- Inside an accessor the rule claims every character.
    have inAccessor : s.accessor.isSome = true := by simp [inside]
    cases claimed
    split
    · next bracket => exact .closeAccessor noRegion inAccessor bracket
    · split
      · next equals => exact .assignMember noRegion inAccessor equals
      · exact .fold noRegion noOpening

theorem terminatorRule_chosen (noRegion : s.region = none) (noAccessor : s.accessor = none)
    (claimed : terminatorRule s c next = some action) : Chosen s c next action := by
  unfold terminatorRule at claimed
  split at claimed
  · next mark => cases claimed; exact .terminate noRegion noAccessor (by simp [mark, terminators])
  · split at claimed
    · next mark => cases claimed; exact .terminate noRegion noAccessor (by simp [mark, terminators])
    · split at claimed
      · next mark =>
        cases claimed
        exact .terminate noRegion noAccessor (by simp [mark, terminators])
      · cases claimed

theorem assignmentRule_chosen (noRegion : s.region = none) (noAccessor : s.accessor = none)
    (claimed : assignmentRule s c next = some action) : Chosen s c next action := by
  unfold assignmentRule at claimed
  split at claimed
  · next spaced =>
    cases claimed
    exact .terminate noRegion noAccessor (by simp [spaced.1, terminators])
  · cases claimed

/-- A decision of the rules is one of those open to them. -/
theorem chosen_of_action? (claimed : s.action? c next = some action) : Chosen s c next action := by
  simp only [action?, rules, List.findSome?_cons] at claimed
  split at claimed
  · next rule => cases claimed; exact regionRule_chosen rule
  next declined =>
  have noRegion : s.region = none := by simpa [regionRule] using declined
  split at claimed
  · next rule =>
    cases claimed
    obtain ⟨region, opened, rfl⟩ := Option.map_eq_some_iff.mp rule
    exact .enter noRegion opened
  next declined =>
  have noOpening : Region.ofOpening? s.escaped c = none := by
    simpa [regionStartRule] using declined
  split at claimed
  · next rule => cases claimed; exact operatorRule_chosen rule
  split at claimed
  · next rule => cases claimed; exact logicalRule_chosen rule
  split at claimed
  · next rule => cases claimed; exact parenthesesRule_chosen rule
  split at claimed
  · next rule => cases claimed; exact accessorRule_chosen noRegion noOpening rule
  next declined =>
  -- An accessor that is open claims everything, so the rules below see none.
  have noAccessor : s.accessor = none := by
    cases inside : s.accessor with
    | none => rfl
    | some start => simp [accessorRule, inside] at declined
  split at claimed
  · next rule => cases claimed; exact terminatorRule_chosen noRegion noAccessor rule
  split at claimed
  · next rule => cases claimed; exact assignmentRule_chosen noRegion noAccessor rule
  simp only [textRule] at claimed
  cases claimed
  exact .fold noRegion noOpening

/-- A step either skips a character that was read before, or carries out a decision. -/
theorem step_eq_ok {sentences : List Sentence} {after : Scanner}
    (stepped : s.step c next = .ok (sentences, after)) :
    (s.swallow = true ∧ sentences = [] ∧ after = s.skip c) ∨
    (s.swallow = false ∧ ∃ action, Chosen s c next action ∧
      sentences = (s.perform c action).1 ∧ after = (s.perform c action).2.advance c) := by
  unfold step at stepped
  split at stepped
  · next swallow =>
    cases stepped
    exact .inl ⟨swallow, rfl, rfl⟩
  · next reads =>
    split at stepped
    · next action claimed =>
      cases stepped
      exact .inr ⟨by simpa using reads, action, chosen_of_action? claimed, rfl, rfl⟩
    · cases stepped

theorem step_of_action (reads : s.swallow = false) (claimed : s.action? c next = some action) :
    s.step c next = .ok ((s.perform c action).1, (s.perform c action).2.advance c) := by
  simp [step, reads, claimed]

theorem swallow_of_chosen (chosen : Chosen s c next action) (reads : s.swallow = false)
    (swallows : (s.perform c action).2.swallow = true) :
    ∃ tail ∈ operatorTails, next = some tail := by
  cases chosen with
  | operator _ _ _ _ wide => exact wide swallows
  | assignMember => cases swallows
  | fold =>
    rw [perform, gatherFolded_swallow, reads] at swallows
    cases swallows
  | _ =>
    have contra : s.swallow = true := swallows
    rw [reads] at contra
    cases contra

/-- Only the second character of an operator is read together with the one before it. -/
theorem swallow_of_step {sentences : List Sentence} {after : Scanner}
    (stepped : s.step c next = .ok (sentences, after)) (swallows : after.swallow = true) :
    ∃ tail ∈ operatorTails, next = some tail := by
  obtain ⟨_, _, rfl⟩ | ⟨reads, action, chosen, _, rfl⟩ := step_eq_ok stepped
  · cases swallows
  · exact swallow_of_chosen chosen reads swallows

theorem operatorRule_eq_none (plain : c ∉ operatorChars) : operatorRule s c next = none := by
  have noCalculation : Calculation.ofChar? c = none :=
    Option.eq_none_iff_forall_ne_some.mpr fun _ spelled => plain (calculation_ofChar?_mem spelled)
  have noComparison : Comparison.ofChar? c (next == some '=') = none :=
    Option.eq_none_iff_forall_ne_some.mpr fun _ spelled => plain (comparison_ofChar?_mem spelled)
  simp [operatorRule, noCalculation, noComparison]

theorem assignmentRule_eq_none (plain : c ∉ operatorChars) : assignmentRule s c next = none := by
  have unequal : c ≠ '=' := by
    rintro rfl
    exact plain (by decide)
  simp [assignmentRule, unequal]

theorem logicalRule_eq_none (plain : c ∉ operatorChars) : logicalRule s c next = none := by
  have unlike : c ≠ '!' ∧ c ≠ '&' ∧ c ≠ '|' := by
    refine ⟨?_, ?_, ?_⟩ <;> rintro rfl <;> exact plain (by decide)
  simp [logicalRule, unlike]

theorem parenthesesRule_eq_none (plain : c ∉ operatorChars) : parenthesesRule s c next = none := by
  have unlike : c ≠ '(' ∧ c ≠ ')' := by
    constructor <;> rintro rfl <;> exact plain (by decide)
  simp [parenthesesRule, unlike]

/-- Outside of regions, a character that starts neither a region nor an operator is text, unless it
is punctuation of an accessor or ends a sentence. -/
theorem action?_of_plain (closed : s.region = none) (unopened : Region.ofOpening? s.escaped c = none)
    (plain : c ∉ operatorChars) :
    s.action? c next =
      (accessorRule s c next).or ((terminatorRule s c next).or (some .fold)) := by
  have noRegion : regionRule s c next = none := by simp [regionRule, closed]
  have noStart : regionStartRule s c next = none := by simp [regionStartRule, unopened]
  simp only [action?, rules, List.findSome?_cons, noRegion, noStart, operatorRule_eq_none plain,
    logicalRule_eq_none plain, parenthesesRule_eq_none plain, assignmentRule_eq_none plain, textRule]
  cases accessorRule s c next <;> cases terminatorRule s c next <;> rfl

/-- Only operators look at the character after them, and inside a region a backslash and a carriage
return. -/
def lookahead : List Char :=
  '\\' :: '\r' :: operatorChars

theorem fate_of_notMem_lookahead (blind : c ∉ lookahead) (escaped : Bool) (next other : Option Char)
    (region : Region) : region.fate escaped c next = region.fate escaped c other := by
  have unlike : c ≠ '\\' ∧ c ≠ '\r' := by
    constructor <;> rintro rfl <;> exact blind (by decide)
  cases region <;> simp [Region.fate, unlike]

theorem action?_of_notMem_lookahead (blind : c ∉ lookahead) (next other : Option Char) :
    s.action? c next = s.action? c other := by
  have plain : c ∉ operatorChars := fun operator => blind (by simp [lookahead, operator])
  have regions : regionRule s c next = regionRule s c other := by
    simp only [regionRule, fate_of_notMem_lookahead blind _ next other]
  simp only [action?, rules, List.findSome?_cons, regions, operatorRule_eq_none plain,
    assignmentRule_eq_none plain, logicalRule_eq_none plain, regionStartRule, parenthesesRule,
    accessorRule, terminatorRule, textRule]

theorem step_of_notMem_lookahead (blind : c ∉ lookahead) (next other : Option Char) :
    s.step c next = s.step c other := by
  rw [step, step, action?_of_notMem_lookahead blind next other]

/-- Text that is read character by character, with `following` behind it. -/
inductive Scans (following : Option Char) :
    Scanner → List Char → List Sentence → Scanner → Prop where
  | nil {s : Scanner} : Scans following s [] [] s
  | cons {s after last : Scanner} {c : Char} {rest : List Char} {first others : List Sentence} :
      s.step c (rest.head?.or following) = .ok (first, after) →
      Scans following after rest others last →
      Scans following s (c :: rest) (first ++ others) last

variable {following : Option Char} {text : List Char} {sentences : List Sentence} {last : Scanner}

theorem Scans.append {before after : List Char} {first second : List Sentence} {between : Scanner}
    (run : Scans (after.head?.or following) s before first between)
    (rest : Scans following between after second last) :
    Scans following s (before ++ after) (first ++ second) last := by
  induction run with
  | nil => exact rest
  | @cons s _ _ c tail _ _ stepped _ ih =>
    rw [List.append_assoc]
    refine .cons ?_ (ih rest)
    rw [← stepped]
    -- The last character of the first text is followed by the second text, if there is one.
    cases tail <;> rfl

theorem Scans.concat {first second : List Sentence} {between : Scanner}
    (run : Scans (some c) s text first between)
    (stepped : between.step c following = .ok (second, last)) :
    Scans following s (text ++ [c]) (first ++ second) last := by
  have whole : Scans ([c].head?.or following) s text first between := run
  have final : Scans following between [c] (second ++ []) last := .cons stepped .nil
  simpa using whole.append final

theorem Scans.split {before after : List Char}
    (run : Scans following s (before ++ after) sentences last) :
    ∃ first second between, Scans (after.head?.or following) s before first between ∧
      Scans following between after second last ∧ sentences = first ++ second := by
  induction before generalizing s sentences with
  | nil => exact ⟨[], sentences, s, .nil, run, rfl⟩
  | cons c tail ih =>
    cases run with
    | @cons _ _ _ _ _ head _ stepped rest =>
      obtain ⟨first, second, between, early, late, rfl⟩ := ih rest
      refine ⟨head ++ first, second, between, .cons ?_ early, late, (List.append_assoc ..).symm⟩
      rw [← stepped]
      cases tail <;> rfl

theorem Scans.of_notMem_lookahead (scans : Scans following s text sentences last)
    (blind : ∀ c ∈ text.getLast?, c ∉ lookahead) (other : Option Char) :
    Scans other s text sentences last := by
  induction scans with
  | nil => exact .nil
  | @cons s _ _ c rest _ _ stepped _ ih =>
    cases rest with
    | nil =>
      -- Only the last character sees what follows, and it does not look.
      refine .cons ?_ (ih (by simp))
      rw [← stepped, step_of_notMem_lookahead (blind c (by simp))]
    | cons d rest =>
      refine .cons stepped (ih ?_)
      intro e member
      exact blind e (by simpa using member)

theorem exists_scans (following : Option Char) (s : Scanner) (text : List Char) :
    ∃ sentences last, Scans following s text sentences last := by
  induction text generalizing s with
  | nil => exact ⟨[], s, .nil⟩
  | cons c rest ih =>
    obtain ⟨⟨first, after⟩, stepped⟩ := s.step_isOk c (rest.head?.or following)
    obtain ⟨others, last, scans⟩ := ih after
    exact ⟨first ++ others, last, .cons stepped scans⟩

theorem run_of_scans (scans : Scans following s text sentences last) (done : Array Sentence) :
    ∃ read, s.run done following text = .ok (read, last) ∧
      read.toList = done.toList ++ sentences := by
  induction scans generalizing done with
  | nil => exact ⟨done, rfl, by simp⟩
  | @cons s after last c rest first others stepped _ ih =>
    obtain ⟨read, run, whole⟩ := ih (done ++ first)
    refine ⟨read, ?_, by simp [whole]⟩
    rw [Scanner.run, stepped]
    exact run

theorem scans_of_run {done : Array Sentence} (run : s.run #[] following text = .ok (done, last)) :
    Scans following s text done.toList last := by
  obtain ⟨sentences, final, scans⟩ := exists_scans following s text
  obtain ⟨read, same, whole⟩ := run_of_scans scans #[]
  rw [run] at same
  cases same
  rw [whole]
  exact scans

/-- What every step keeps, from the text still to be read, is kept to the end of the text. -/
theorem Scans.induction {motive : Scanner → List Sentence → List Char → Prop}
    (step : ∀ {s : Scanner} {done : List Sentence} {c : Char} {rest : List Char}
      {sentences : List Sentence} {after : Scanner}, motive s done (c :: rest) →
      s.step c (rest.head?.or following) = .ok (sentences, after) →
      motive after (done ++ sentences) rest)
    (scans : Scans following s text sentences last) {done : List Sentence}
    (start : motive s done text) : motive last (done ++ sentences) [] := by
  induction scans generalizing done with
  | nil => simpa using start
  | cons stepped _ ih =>
    rw [← List.append_assoc]
    exact ih (step start stepped)

theorem Scans.swallow (scans : Scans following s text sentences last)
    (start : s.swallow = true → ∃ tail ∈ operatorTails, text.head?.or following = some tail)
    (swallows : last.swallow = true) : ∃ tail ∈ operatorTails, following = some tail := by
  induction scans with
  | nil => exact start swallows
  | cons stepped _ ih => exact ih (swallow_of_step stepped) swallows

theorem Scans.swallow_eq_false (scans : Scans following s text sentences last)
    (reads : s.swallow = false) (plain : ∀ c ∈ following, c ∉ operatorTails) :
    last.swallow = false := by
  rw [Bool.eq_false_iff]
  intro swallows
  obtain ⟨tail, member, follows⟩ :=
    scans.swallow (fun swallows => by rw [reads] at swallows; cases swallows) swallows
  exact plain tail follows member

end Scanner

theorem scan_of_scans {source : String} {sentences : List Sentence} {last : Scanner}
    (scans : Scanner.Scans none {} source.toList sentences last) :
    scan source = .ok ⟨sentences ++ last.finish.sentences, last.finish.notices⟩ := by
  obtain ⟨read, run, whole⟩ := Scanner.run_of_scans scans #[]
  rw [scan, run]
  simp [whole]

/-- A source is always read to its end, and what every step keeps holds there. -/
theorem scan_induction {motive : Scanner → List Sentence → List Char → Prop} (source : String)
    (start : motive {} [] source.toList)
    (step : ∀ {s : Scanner} {done : List Sentence} {c : Char} {rest : List Char}
      {sentences : List Sentence} {after : Scanner}, motive s done (c :: rest) →
      s.step c rest.head? = .ok (sentences, after) → motive after (done ++ sentences) rest) :
    ∃ done last, motive last done [] ∧
      scan source = .ok ⟨done ++ last.finish.sentences, last.finish.notices⟩ := by
  obtain ⟨sentences, last, scans⟩ := Scanner.exists_scans none {} source.toList
  refine ⟨sentences, last, ?_, scan_of_scans scans⟩
  refine scans.induction ?_ start
  intro s done c rest sentences after held stepped
  rw [Option.or_none] at stepped
  exact step held stepped

end Clausal
