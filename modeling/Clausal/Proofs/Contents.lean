import Clausal.Proofs.Outlines
import Mathlib.Data.List.TakeWhile

/-! The contents of regions are opaque.

Inside a region no punctuation is known but its own end. So whatever stands in it, the source around
it is read alike: the contents become one sentence and one unit, and leave no other trace.
-/

set_option autoImplicit false

namespace Clausal

/-- Whether the text ends in an odd run of backslashes, so that the last of them escapes what
follows. -/
def Text.endsEscaping (text : List Char) : Bool :=
  (text.reverse.takeWhile (· == '\\')).length % 2 == 1

theorem Text.endsEscaping_concat (text : List Char) (c : Char) :
    endsEscaping (text ++ [c]) = (c == '\\' && !endsEscaping text) := by
  by_cases backslash : c = '\\'
  · subst backslash
    simp only [endsEscaping, List.reverse_append, List.reverse_singleton, List.singleton_append,
      List.takeWhile_cons, beq_self_eq_true, if_true, List.length_cons, Bool.true_and]
    generalize (text.reverse.takeWhile (· == '\\')).length = count
    rcases Nat.mod_two_eq_zero_or_one count with even | odd
    · simp [Nat.add_mod, even]
    · simp [Nat.add_mod, odd]
  · simp [endsEscaping, backslash]

theorem Text.endsEscaping_of_notMem {text : List Char} (plain : '\\' ∉ text) :
    endsEscaping text = false := by
  rcases List.eq_nil_or_concat text with rfl | ⟨init, last, rfl⟩
  · rfl
  · have other : last ≠ '\\' := by
      rintro rfl
      exact plain (by simp)
    simp [endsEscaping_concat, other]

namespace Region

def opening : Region → Char
  | .comment => '#'
  | .flag => '@'
  | .code => '\x7b'
  | .string quote => quote.char

def closing : Region → Char
  | .comment | .flag => '\n'
  | .code => '\x7d'
  | .string quote => quote.char

/-- The region in a source, from its first character to its last. -/
def enclose (region : Region) (contents : String) : String :=
  String.ofList (region.opening :: contents.toList ++ [region.closing])

/-- The contents that a region holds to its end and that leave something to show. -/
def Admits (contents : List Char) : Region → Prop
  | .comment | .flag => '\n' ∉ contents ∧ ∃ c ∈ contents, c ≠ ' ' ∧ c ≠ '\t' ∧ c ≠ '\r'
  | .code => contents ≠ [] ∧ '\x7d' ∉ contents ∧ '\\' ∉ contents
  | .string quote =>
    contents ≠ [] ∧ Text.endsEscaping contents = false ∧
      ∀ before after, contents = before ++ quote.char :: after → Text.endsEscaping before = true

theorem forall_split_iff {contents : List Char} {c : Char} {P : List Char → Prop} :
    (∀ before after, contents = before ++ c :: after → P before) ↔
      ∀ n < contents.length, contents[n]? = some c → P (contents.take n) := by
  constructor
  · intro all n bound here
    refine all _ (contents.drop (n + 1)) ?_
    rw [List.getElem?_eq_getElem bound, Option.some.injEq] at here
    rw [← here, ← List.drop_eq_getElem_cons bound, List.take_append_drop]
  · rintro all before after rfl
    simpa using all before.length (by simp) (by simp)

instance (contents : List Char) (region : Region) : Decidable (region.Admits contents) :=
  match region with
  | .comment | .flag | .code => inferInstanceAs (Decidable (_ ∧ _))
  | .string _ => decidable_of_iff _ (and_congr_right' (and_congr_right' forall_split_iff.symm))

/-- What is kept of the contents. The carriage return of a line break is not. -/
def kept (contents : List Char) : Region → List Char
  | .comment | .flag => if contents.getLast? = some '\r' then contents.dropLast else contents
  | .code | .string _ => contents

/-- The text of the sentence that the contents become. -/
def shown (region : Region) (contents : List Char) : List Char :=
  if region.trims then Text.trimPadding (region.kept contents) else region.kept contents

def text (region : Region) (contents : String) : String :=
  String.ofList (region.shown contents.toList)

/-- The unit that the contents become. -/
def unit (content : String) : Region → SemanticUnit
  | .comment => .comment content
  | .flag => .compilerFlag content
  | .code => .targetCode content
  | .string .double => .safeString content
  | .string .single => .normalString content

theorem ofOpening?_opening (region : Region) : ofOpening? false region.opening = some region := by
  cases region with
  | string quote => cases quote <;> rfl
  | _ => rfl

theorem opening_notMem (region : Region) : region.opening ∉ operatorTails := by
  cases region with
  | string quote => cases quote <;> decide
  | _ => decide

theorem opening_ne_backslash (region : Region) : region.opening ≠ '\\' := by
  cases region with
  | string quote => cases quote <;> decide
  | _ => decide

theorem closing_ne_backslash (region : Region) : region.closing ≠ '\\' := by
  cases region with
  | string quote => cases quote <;> decide
  | _ => decide

theorem fate_line {contents : List Char} (unbroken : '\n' ∉ contents) (following : Option Char)
    (last : following = some '\n' → contents.getLast? ≠ some '\r') (region : Region)
    (line : region = .comment ∨ region = .flag) {before after : List Char} {c : Char}
    (split : contents = before ++ c :: after) (escaped : Bool) :
    region.fate escaped c (after.head?.or following) = .kept := by
  subst split
  have inside : c ≠ '\n' := by
    rintro rfl
    exact unbroken (by simp)
  have alone : ¬(c = '\r' ∧ after.head?.or following = some '\n') := by
    rintro ⟨rfl, newline⟩
    cases after with
    | nil => exact last newline (by simp)
    | cons d after =>
      cases newline
      exact unbroken (by simp)
  rcases line with rfl | rfl <;> rw [fate, if_neg inside, if_neg alone]

/-- What the region keeps of a text, with `done` in front of it and `following` behind. -/
def retained (region : Region) (following : Option Char) (done : List Char) :
    List Char → List Char
  | [] => []
  | c :: rest =>
    match region.fate (Text.endsEscaping done) c (rest.head?.or following) with
    | .kept => c :: region.retained following (done ++ [c]) rest
    | .dropped | .closes => region.retained following (done ++ [c]) rest

theorem retained_of_kept {region : Region} {following : Option Char} {done text : List Char}
    (kept : ∀ before c after, text = before ++ c :: after →
      region.fate (Text.endsEscaping (done ++ before)) c (after.head?.or following) = .kept) :
    region.retained following done text = text := by
  induction text generalizing done with
  | nil => rfl
  | cons c rest ih =>
    have here := kept [] c rest rfl
    rw [List.append_nil] at here
    rw [retained, here, ih]
    intro before d after split
    have later := kept (c :: before) d after (by rw [split]; rfl)
    simpa using later

end Region

namespace Text

theorem mem_dropWhile {p : Char → Bool} {text : List Char} {c : Char} (member : c ∈ text)
    (kept : p c = false) : c ∈ text.dropWhile p := by
  rw [← text.takeWhile_append_dropWhile (p := p), List.mem_append] at member
  rcases member with taken | left
  · rw [List.mem_takeWhile_imp taken] at kept
    cases kept
  · exact left

theorem mem_trimBy {p : Char → Bool} {text : List Char} {c : Char} (member : c ∈ text)
    (kept : p c = false) : c ∈ trimBy p text := by
  rw [trimBy, List.mem_reverse]
  apply mem_dropWhile _ kept
  rw [List.mem_reverse]
  exact mem_dropWhile member kept

end Text

namespace Region

theorem mem_kept {contents : List Char} {c : Char} (member : c ∈ contents) (other : c ≠ '\r')
    (region : Region) : c ∈ region.kept contents := by
  have line : c ∈ if contents.getLast? = some '\r' then contents.dropLast else contents := by
    split
    · next last =>
      obtain ⟨init, rfl⟩ := List.getLast?_eq_some_iff.mp last
      rw [List.dropLast_concat]
      rcases List.mem_append.mp member with early | late
      · exact early
      · exact absurd (List.mem_singleton.mp late) other
    · exact member
  cases region with
  | comment | flag => exact line
  | code | string => exact member

theorem shown_ne_nil {contents : List Char} {region : Region} (admits : region.Admits contents) :
    region.shown contents ≠ [] := by
  cases region with
  | code | string => exact admits.1
  | comment =>
    obtain ⟨_, c, member, _, _, other⟩ := admits
    exact List.ne_nil_of_mem (mem_kept member other .comment)
  | flag =>
    obtain ⟨_, c, member, space, tab, other⟩ := admits
    have unpadded : Text.isPadding c = false := by simp [Text.isPadding, space, tab]
    exact List.ne_nil_of_mem (Text.mem_trimBy (mem_kept member other .flag) unpadded)

end Region

/-- What was scanned after some sentences and one more, together with them. -/
def Scanned.behind (before : List Sentence) (sentence : Sentence) (rest : Scanned) : Scanned :=
  { rest with sentences := before ++ sentence :: rest.sentences }

namespace Scanner

variable {s : Scanner} {region : Region}

/-- What reading contents of a region makes of a scanner, positions aside. -/
structure Filled (region : Region) (text : List Char) (before after : Scanner) : Prop where
  region : after.region = some region
  accessor : after.accessor = before.accessor
  pending : after.pending = text.reverse ++ before.pending
  swallow : after.swallow = false

theorem step_kept {c : Char} {next : Option Char} (inside : s.region = some region)
    (reads : s.swallow = false) (kept : region.fate s.escaped c next = .kept) :
    s.step c next = .ok ([], (s.gather c).advance c) := by
  simp [step, reads, action?, rules, regionRule, inside, kept, perform]

theorem step_dropped {c : Char} {next : Option Char} (inside : s.region = some region)
    (reads : s.swallow = false) (dropped : region.fate s.escaped c next = .dropped) :
    s.step c next = .ok ([], s.advance c) := by
  simp [step, reads, action?, rules, regionRule, inside, dropped, perform]

theorem step_closes {c : Char} {next : Option Char} (inside : s.region = some region)
    (reads : s.swallow = false) (closes : region.fate s.escaped c next = .closes) :
    s.step c next =
      .ok (s.ended region.kind region.trims (s.index + 1),
        { s with pending := [], region := none }.advance c) := by
  simp [step, reads, action?, rules, regionRule, inside, closes, perform]

/-- A text that does not end the region is read into it, less what the region drops. The text read
before, `done`, tells which characters are escaped. -/
theorem scans_retained (done : List Char) {text : List Char} {following : Option Char}
    (inside : s.region = some region) (reads : s.swallow = false)
    (escaped : s.escaped = Text.endsEscaping done)
    (stays : ∀ before c after, text = before ++ c :: after →
      region.fate (Text.endsEscaping (done ++ before)) c (after.head?.or following) ≠ .closes) :
    ∃ after, Scans following s text [] after ∧
      Filled region (region.retained following done text) s after ∧
      after.escaped = Text.endsEscaping (done ++ text) := by
  induction text generalizing s done with
  | nil => exact ⟨s, .nil, ⟨inside, rfl, rfl, reads⟩, by simpa using escaped⟩
  | cons c rest ih =>
    have fate := stays [] c rest rfl
    have later : ∀ before d after, rest = before ++ d :: after →
        region.fate (Text.endsEscaping (done ++ [c] ++ before)) d (after.head?.or following)
          ≠ .closes := by
      intro before d after split
      have stays := stays (c :: before) d after (by rw [split]; rfl)
      simpa using stays
    have escapes (t : Scanner) (same : t.escaped = s.escaped) :
        (t.advance c).escaped = Text.endsEscaping (done ++ [c]) := by
      simp [advance, Text.endsEscaping_concat, same, escaped]
    rw [List.append_nil, ← escaped] at fate
    rw [Region.retained, ← escaped]
    cases read : region.fate s.escaped c (rest.head?.or following) with
    | closes => exact absurd read fate
    | kept =>
      obtain ⟨after, scans, filled, ends⟩ := ih (done ++ [c]) (s := (s.gather c).advance c) inside
        reads (escapes _ rfl) later
      refine ⟨after, .cons (step_kept inside reads read) scans, ?_, by simpa using ends⟩
      exact { filled with pending := by rw [filled.pending]; simp [advance, gather] }
    | dropped =>
      obtain ⟨after, scans, filled, ends⟩ := ih (done ++ [c]) (s := s.advance c) inside
        reads (escapes _ rfl) later
      exact ⟨after, .cons (step_dropped inside reads read) scans, { filled with },
        by simpa using ends⟩

/-- Contents are kept as long as the region keeps each of their characters. -/
theorem scans_kept (done : List Char) {text : List Char} {following : Option Char}
    (inside : s.region = some region) (reads : s.swallow = false)
    (escaped : s.escaped = Text.endsEscaping done)
    (kept : ∀ before c after, text = before ++ c :: after →
      region.fate (Text.endsEscaping (done ++ before)) c (after.head?.or following) = .kept) :
    ∃ after, Scans following s text [] after ∧ Filled region text s after ∧
      after.escaped = Text.endsEscaping (done ++ text) := by
  have read := scans_retained done inside reads escaped fun before c after split => by
    rw [kept before c after split]
    decide
  rwa [Region.retained_of_kept kept] at read

/-- The contents of a line are kept, up to the carriage return of the line break. -/
theorem scans_line {contents : List Char} (line : region = .comment ∨ region = .flag)
    (unbroken : '\n' ∉ contents) (inside : s.region = some region) (reads : s.swallow = false)
    (unescaped : s.escaped = false) :
    ∃ after, Scans (some '\n') s contents [] after ∧
      Filled region (region.kept contents) s after := by
  have kept : region.kept contents =
      if contents.getLast? = some '\r' then contents.dropLast else contents := by
    rcases line with rfl | rfl <;> rfl
  rw [kept]
  split
  · next last =>
    obtain ⟨init, rfl⟩ := List.getLast?_eq_some_iff.mp last
    have unbroken : '\n' ∉ init := fun member => unbroken (by simp [member])
    obtain ⟨after, scans, filled, _⟩ := scans_kept [] inside reads unescaped
      fun _ _ _ split => Region.fate_line unbroken (some '\r') (by simp) region line split _
    have dropped : region.fate after.escaped '\r' (some '\n') = .dropped := by
      rcases line with rfl | rfl <;> rfl
    refine ⟨after.advance '\r',
      scans.concat (step_dropped filled.region filled.swallow dropped), ?_⟩
    rw [List.dropLast_concat]
    exact ⟨filled.region, filled.accessor, filled.pending, filled.swallow⟩
  · next last =>
    obtain ⟨after, scans, filled, _⟩ := scans_kept [] inside reads unescaped
      fun _ _ _ split => Region.fate_line unbroken (some '\n') (fun _ => last) region line split _
    exact ⟨after, scans, filled⟩

/-- Admitted contents are read to the end of their region, which the closing character is. -/
theorem scans_contents {contents : List Char} (admits : region.Admits contents)
    (inside : s.region = some region) (reads : s.swallow = false) (unescaped : s.escaped = false) :
    ∃ after, Scans (some region.closing) s contents [] after ∧
      Filled region (region.kept contents) s after ∧
      ∀ next, region.fate after.escaped region.closing next = .closes := by
  cases region with
  | comment =>
    obtain ⟨after, scans, filled⟩ := scans_line (.inl rfl) admits.1 inside reads unescaped
    exact ⟨after, scans, filled, fun _ => rfl⟩
  | flag =>
    obtain ⟨after, scans, filled⟩ := scans_line (.inr rfl) admits.1 inside reads unescaped
    exact ⟨after, scans, filled, fun _ => rfl⟩
  | code =>
    obtain ⟨_, unclosed, plain⟩ := admits
    have kept : ∀ before c after, contents = before ++ c :: after →
        Region.fate (Text.endsEscaping before) c (after.head?.or (some '\x7d')) .code = .kept := by
      rintro before c after rfl
      have brace : c ≠ '\x7d' := by
        rintro rfl
        exact unclosed (by simp)
      have backslash : c ≠ '\\' := by
        rintro rfl
        exact plain (by simp)
      simp [Region.fate, brace, backslash]
    obtain ⟨after, scans, filled, escaped⟩ := scans_kept [] inside reads unescaped kept
    rw [List.nil_append, Text.endsEscaping_of_notMem plain] at escaped
    refine ⟨after, scans, filled, fun next => ?_⟩
    simp [Region.fate, Region.closing, escaped]
  | string quote =>
    obtain ⟨_, ends, quoted⟩ := admits
    have kept : ∀ before c after, contents = before ++ c :: after →
        Region.fate (Text.endsEscaping before) c (after.head?.or (some quote.char)) (.string quote)
          = .kept := by
      intro before c after split
      rw [Region.fate, if_neg]
      rintro ⟨rfl, bare⟩
      rw [quoted before after split] at bare
      cases bare
    obtain ⟨after, scans, filled, escaped⟩ := scans_kept [] inside reads unescaped kept
    rw [List.nil_append, ends] at escaped
    refine ⟨after, scans, filled, fun next => ?_⟩
    simp [Region.fate, Region.closing, escaped]

theorem step_opens (closed : s.region = none) (reads : s.swallow = false)
    (unescaped : s.escaped = false) (region : Region) (next : Option Char) :
    s.step region.opening next =
      .ok (if region.keepsFragment then s.endedFragment else [],
        { s with pending := [], region := some region, regionStart := s.index }.advance
          region.opening) := by
  have claimed : s.action? region.opening next = some (.enter region) := by
    simp [action?, rules, regionRule, regionStartRule, closed, unescaped, region.ofOpening?_opening]
  exact step_of_action reads claimed

theorem ended_of_shown {contents : List Char} (admits : region.Admits contents)
    (pending : s.pending = (region.kept contents).reverse) (stop : Nat) :
    s.ended region.kind region.trims stop =
      [⟨region.kind, String.ofList (region.shown contents), .between s.pendingStart stop⟩] := by
  have shown := Region.shown_ne_nil admits
  rw [Region.shown] at shown
  rw [ended, pending, List.reverse_reverse]
  simp [Region.shown, shown]

/-- A region becomes one sentence, and leaves the scanner as it leaves it with any contents. -/
theorem scans_enclosed {contents : String} (admits : region.Admits contents.toList)
    (closed : s.region = none) (reads : s.swallow = false) (unescaped : s.escaped = false)
    (following : Option Char) :
    ∃ span after, Scans following s (region.enclose contents).toList
        ((if region.keepsFragment then s.endedFragment else []) ++
          [⟨region.kind, region.text contents, span⟩]) after ∧
      after.outline = (none, s.accessor.isSome, false, [], false) ∧
      after.previous = some region.closing := by
  let opened : Scanner :=
    { s with pending := [], region := some region, regionStart := s.index }.advance region.opening
  have fresh : opened.escaped = false := by
    simp [opened, advance, region.opening_ne_backslash]
  obtain ⟨full, scans, filled, closes⟩ :=
    scans_contents (s := opened) admits rfl reads fresh
  have pending : full.pending = (region.kept contents.toList).reverse := by
    rw [filled.pending]
    exact List.append_nil _
  have opening := step_opens closed reads unescaped region
    ((contents.toList ++ [region.closing]).head?.or following)
  have closing := step_closes filled.region filled.swallow (closes following)
  rw [ended_of_shown admits pending] at closing
  refine ⟨.between full.pendingStart (full.index + 1),
    { full with pending := [], region := none }.advance region.closing, ?_, ?_, rfl⟩
  · rw [Region.enclose, String.toList_ofList]
    exact .cons opening (scans.concat closing)
  · simp [outline, advance, filled.accessor, filled.swallow, region.closing_ne_backslash, opened]

/-- Behind a region the rest of the source is completed alike, whatever the region holds. -/
theorem completes_enclosed {w₁ w₂ : String} (admits₁ : region.Admits w₁.toList)
    (admits₂ : region.Admits w₂.toList) (closed : s.region = none) (reads : s.swallow = false)
    (unescaped : s.escaped = false) (q : List Char) :
    ∃ before span₁ span₂, ∃ rest₁ rest₂ : Scanned, rest₁.Alike (fun _ _ => True) rest₂ ∧
      s.Completes ((region.enclose w₁).toList ++ q)
        (rest₁.behind before ⟨region.kind, region.text w₁, span₁⟩) ∧
      s.Completes ((region.enclose w₂).toList ++ q)
        (rest₂.behind before ⟨region.kind, region.text w₂, span₂⟩) := by
  obtain ⟨span₁, a, scans₁, outline₁, previous₁⟩ :=
    scans_enclosed admits₁ closed reads unescaped q.head?
  obtain ⟨span₂, b, scans₂, outline₂, previous₂⟩ :=
    scans_enclosed admits₂ closed reads unescaped q.head?
  have behind : ∀ c ∈ q.head?, SameBehind a b c := by
    intro c _
    left
    rw [previous₁, previous₂]
  obtain ⟨rest₁, completes₁⟩ := exists_completes a q
  obtain ⟨rest₂, completes₂, alike⟩ :=
    (Alike.of_outline (outline₁.trans outline₂.symm)).completes .any behind completes₁
  refine ⟨if region.keepsFragment then s.endedFragment else [], span₁, span₂, rest₁, rest₂, alike,
    ?_, ?_⟩
  · simpa [Scanned.behind] using scans₁.completes completes₁
  · simpa [Scanned.behind] using scans₂.completes completes₂

end Scanner

/-- Two sources with other contents in one region have the same sentences around it. -/
theorem scan_contents {region : Region} {p w₁ w₂ q : String} {following : Option Char}
    {sentences : List Sentence} {s : Scanner}
    (read : Scanner.Scans following {} p.toList sentences s) (normal : s.region = none)
    (unescaped : s.escaped = false) (admits₁ : region.Admits w₁.toList)
    (admits₂ : region.Admits w₂.toList) :
    ∃ before span₁ span₂, ∃ rest₁ rest₂ : Scanned, rest₁.Alike (fun _ _ => True) rest₂ ∧
      scan (p ++ (region.enclose w₁ ++ q)) = .ok
        (rest₁.behind before ⟨region.kind, region.text w₁, span₁⟩) ∧
      scan (p ++ (region.enclose w₂ ++ q)) = .ok
        (rest₂.behind before ⟨region.kind, region.text w₂, span₂⟩) := by
  have head (w : String) : (region.enclose w ++ q).toList.head? = some region.opening := by
    simp [Region.enclose]
  -- Either region shows its opening character only, so both meet the same scanner.
  obtain ⟨early, t, scans⟩ := Scanner.exists_scans (some region.opening) {} p.toList
  have mode := read.mode scans
  rw [normal, unescaped, Prod.mk.injEq] at mode
  have reads : t.swallow = false := by
    refine scans.swallow_eq_false rfl ?_
    rintro c ⟨rfl⟩
    exact region.opening_notMem
  obtain ⟨before, span₁, span₂, rest₁, rest₂, alike, completes₁, completes₂⟩ :=
    Scanner.completes_enclosed admits₁ admits₂ mode.1.symm reads mode.2.symm q.toList
  rw [← String.toList_append] at completes₁ completes₂
  refine ⟨early ++ before, span₁, span₂, rest₁, rest₂, alike, ?_, ?_⟩
  · simpa [Scanned.behind] using scan_of_parts (head w₁ ▸ scans) completes₁
  · simpa [Scanned.behind] using scan_of_parts (head w₂ ▸ scans) completes₂

/-- Contents mean one unit and leave the scopes as they are, whatever their text says. -/
theorem ScopeState.read_contents (options : Options) (state : ScopeState) (region : Region)
    (text : String) (span : Span) :
    state.read options ⟨region.kind, text, span⟩ = .ok { units := [region.unit text], state } := by
  have move : (state.situation ⟨region.kind, text, span⟩).move = .emit [region.unit text] := by
    cases region with
    | string quote => cases quote <;> rfl
    | _ => rfl
  rw [read_of_unpunctuated, move, perform]
  all_goals cases region <;> simp [Region.kind]

/-- Lists that agree but for one entry. -/
def AgreeBut {α : Type} (x y : α) (first second : List α) : Prop :=
  ∃ before after, first = before ++ x :: after ∧ second = before ++ y :: after

/-- Contents of other texts are assembled to the same program but for one unit, or rejected alike. -/
theorem assemble_contents (options : Options) (region : Region) {text₁ text₂ : String}
    {span₁ span₂ : Span} (before : List Sentence) {rest₁ rest₂ : List Sentence}
    (rests : rest₁.map Sentence.outline = rest₂.map Sentence.outline) :
    (∃ first second,
      assemble options (before ++ ⟨region.kind, text₁, span₁⟩ :: rest₁) = .ok first ∧
      assemble options (before ++ ⟨region.kind, text₂, span₂⟩ :: rest₂) = .ok second ∧
      AgreeBut (region.unit text₁) (region.unit text₂) first.units second.units ∧
      first.notices.map Notice.finding = second.notices.map Notice.finding ∧
      first.openScopes = second.openScopes) ∨
    ∃ rejection,
      assemble options (before ++ ⟨region.kind, text₁, span₁⟩ :: rest₁) = .error rejection ∧
      assemble options (before ++ ⟨region.kind, text₂, span₂⟩ :: rest₂) = .error rejection := by
  unfold assemble
  rw [Assembler.addAll_append, Assembler.addAll_append]
  cases ({ options } : Assembler).addAll 0 before with
  | error rejection => exact .inr ⟨rejection, rfl, rfl⟩
  | ok next =>
    let emitted (text : String) : Reading := { units := [region.unit text], state := next.state }
    have contents (text : String) (span : Span) :
        next.state.read next.options ⟨region.kind, text, span⟩ = .ok (emitted text) :=
      next.state.read_contents next.options region text span
    simp only [Except.bind, next.addAll_cons_of_read _ (contents _ _)]
    obtain ⟨first, second, read₁, read₂, same⟩ | ⟨rejection, failed₁, failed₂⟩ :=
      Assembler.addAll_outline (a := next.extend (emitted text₁)) (b := next.extend (emitted text₂))
        rfl rfl rests (0 + before.length + 1)
    · obtain ⟨findings, scopes⟩ := Assembler.finish_outline (a := next.extend (emitted text₁))
        (b := next.extend (emitted text₂)) rfl same
      have units : first.units = second.units := congrArg Prod.fst same
      rw [read₁, read₂]
      refine .inl ⟨_, _, rfl, rfl, ⟨next.units.toList, first.units, ?_, ?_⟩, findings, scopes⟩
      · rw [Assembler.extend_followedBy, Assembler.finish_units]
        rfl
      · rw [Assembler.extend_followedBy, Assembler.finish_units, units]
        rfl
    · rw [failed₁, failed₂]
      exact .inr ⟨rejection, rfl, rfl⟩

/-- The contents of regions are opaque. Outside of regions and unless the opening character is
escaped, a region with other contents changes one sentence and one unit: those around it keep their
kinds and texts, the same is found in the source, the same scopes are left open, and a source that
fails still fails for the same cause. -/
theorem contents_opaque (region : Region) (p w₁ w₂ q : String) (following : Option Char)
    (done : Array Sentence) (s : Scanner)
    (read : ({} : Scanner).run #[] following p.toList = .ok (done, s)) (normal : s.region = none)
    (unescaped : s.escaped = false) (admits₁ : region.Admits w₁.toList)
    (admits₂ : region.Admits w₂.toList) :
    (∃ first second, scan (p ++ region.enclose w₁ ++ q) = .ok first ∧
      scan (p ++ region.enclose w₂ ++ q) = .ok second ∧
      AgreeBut (region.kind, region.text w₁) (region.kind, region.text w₂)
        (first.sentences.map Sentence.outline) (second.sentences.map Sentence.outline) ∧
      first.notices.map Notice.finding = second.notices.map Notice.finding) ∧
    ∀ options,
      (∃ first second, parse options (p ++ region.enclose w₁ ++ q) = .ok first ∧
        parse options (p ++ region.enclose w₂ ++ q) = .ok second ∧
        AgreeBut (region.unit (region.text w₁)) (region.unit (region.text w₂)) first.units
          second.units ∧
        first.notices.map Notice.finding = second.notices.map Notice.finding ∧
        first.openScopes = second.openScopes) ∨
      ∃ first second, parse options (p ++ region.enclose w₁ ++ q) = .error first ∧
        parse options (p ++ region.enclose w₂ ++ q) = .error second ∧
        first.cause = second.cause := by
  rw [String.append_assoc, String.append_assoc]
  obtain ⟨before, span₁, span₂, rest₁, rest₂, alike, scan₁, scan₂⟩ :=
    scan_contents (q := q) (Scanner.scans_of_run read) normal unescaped admits₁ admits₂
  have rests := Sentence.map_outline_eq alike.sentences
  have findings := Notice.map_finding_eq alike.notices
  constructor
  · refine ⟨_, _, scan₁, scan₂, ⟨before.map Sentence.outline, rest₁.sentences.map Sentence.outline,
      ?_, ?_⟩, findings⟩
    · simp [Scanned.behind, Sentence.outline]
    · simp [Scanned.behind, Sentence.outline, rests]
  · intro options
    rw [parse, scan₁, parse, scan₂]
    dsimp only [Scanned.behind]
    obtain ⟨first, second, read₁, read₂, units, found, scopes⟩ | ⟨rejection, failed₁, failed₂⟩ :=
      assemble_contents options region before rests
    · rw [read₁, read₂]
      refine .inl ⟨_, _, rfl, rfl, units, ?_, scopes⟩
      simp [findings, found]
    · rw [failed₁, failed₂]
      exact .inr ⟨_, _, rfl, rfl, rfl⟩

/-- The first string holds a closed string, an end marker, an opening brace and a comment mark. Only
the `end while` behind it closes anything. -/
theorem end_marker_opaque :
    (∃ first second,
      scan ("while: x == " ++ Region.enclose (.string .double) "\\\"a\\\"; end while; \x7b#"
        ++ ": end while;") = .ok first ∧
      scan ("while: x == " ++ Region.enclose (.string .double) "b" ++ ": end while;") = .ok second ∧
      AgreeBut (.string .double, "\\\"a\\\"; end while; \x7b#") (.string .double, "b")
        (first.sentences.map Sentence.outline) (second.sentences.map Sentence.outline) ∧
      first.notices.map Notice.finding = second.notices.map Notice.finding) ∧
    ∃ first second,
      parse {} ("while: x == " ++ Region.enclose (.string .double) "\\\"a\\\"; end while; \x7b#"
        ++ ": end while;") = .ok first ∧
      parse {} ("while: x == " ++ Region.enclose (.string .double) "b" ++ ": end while;")
        = .ok second ∧
      AgreeBut (.safeString "\\\"a\\\"; end while; \x7b#") (.safeString "b") first.units
        second.units ∧
      first.notices.map Notice.finding = second.notices.map Notice.finding ∧
      first.openScopes = second.openScopes := by
  have read : ({} : Scanner).run #[] none "while: x == ".toList = .ok
      (#[⟨.opening, "while", .between 0 6⟩, ⟨.unknown, "x", .between 7 10⟩,
        ⟨.comparison .isEqual, "", .between 9 11⟩],
        { index := 12, previous := some ' ', pendingStart := 7 }) := rfl
  have accepted : (parse {} ("while: x == " ++ Region.enclose (.string .double) "b"
      ++ ": end while;")).isOk = true := by decide +kernel
  obtain ⟨scans, parses⟩ := contents_opaque (.string .double) "while: x == "
    "\\\"a\\\"; end while; \x7b#" "b" ": end while;" none _ _ read rfl rfl (by decide) (by decide)
  refine ⟨scans, ?_⟩
  obtain programs | ⟨_, _, _, failed, _⟩ := parses {}
  · exact programs
  · rw [failed] at accepted
    cases accepted

end Clausal
