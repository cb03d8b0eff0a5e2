import Clausal.CommandLine.Report
import Clausal.Proofs.Fragments
import Clausal.Proofs.Names
import Clausal.Proofs.Outcomes

/-! Everything that is printed stays on its line.

Free text is quoted, and quoting leaves no line break in it. Names are printed as they are, but they
are spelled in fragments, and line breaks are folded into spaces while a fragment is gathered.
-/

set_option autoImplicit false

namespace Clausal

namespace Text

/-- Text that stays on its line. -/
def OneLine (text : String) : Prop :=
  ∀ c ∈ text.toList, c ≠ '\n' ∧ c ≠ '\r'

@[simp] theorem oneLine_append (first second : String) :
    OneLine (first ++ second) ↔ OneLine first ∧ OneLine second := by
  simp only [OneLine, String.toList_append, List.forall_mem_append]

theorem OneLine.append {first second : String} (early : OneLine first) (late : OneLine second) :
    OneLine (first ++ second) :=
  (oneLine_append first second).mpr ⟨early, late⟩

theorem oneLine_ofList {cs : List Char} :
    OneLine (String.ofList cs) ↔ ∀ c ∈ cs, c ≠ '\n' ∧ c ≠ '\r' := by
  rw [OneLine, String.toList_ofList]

/-- A text that is written out is checked by its characters. -/
theorem OneLine.literal {cs : List Char}
    (plain : (cs.all fun c => c != '\n' && c != '\r') = true) :
    OneLine (String.ofList cs) := by
  simpa [oneLine_ofList] using plain

theorem oneLine_join {texts : List String} (lines : ∀ text ∈ texts, OneLine text) :
    OneLine (String.join texts) := by
  intro c member
  rw [String.toList_join, List.mem_flatMap] at member
  obtain ⟨text, inside, spelled⟩ := member
  exact lines text inside c spelled

theorem oneLine_intercalate {separator : String} {texts : List String} (between : OneLine separator)
    (lines : ∀ text ∈ texts, OneLine text) : OneLine (separator.intercalate texts) := by
  intro c member
  rw [String.toList_intercalate] at member
  rcases mem_intercalate member with inSeparator | ⟨piece, inside, spelled⟩
  · exact between c inSeparator
  · obtain ⟨text, inTexts, rfl⟩ := List.mem_map.mp inside
    exact lines text inTexts c spelled

/-- A name has no line break if the text has none that it is spelled with. -/
theorem Spells.oneLine {text name : String} (spelled : Spells text name) (line : OneLine text) :
    OneLine name := by
  intro c member
  rcases List.mem_cons.mp (spelled member) with rfl | inside
  · decide
  · exact line c inside

theorem digit_of_mem_toDigits {base n : Nat} {c : Char} (wide : 1 < base)
    (member : c ∈ Nat.toDigits base n) : ∃ digit, c = Nat.digitChar digit := by
  induction n using Nat.strongRecOn with
  | ind n ih =>
    rw [Nat.toDigits_eq_if wide] at member
    split at member
    · exact ⟨n, List.mem_singleton.mp member⟩
    · next large =>
      rcases List.mem_append.mp member with earlier | last
      · exact ih (n / base) (Nat.div_lt_self (by omega) wide) earlier
      · exact ⟨n % base, List.mem_singleton.mp last⟩

theorem plain_of_mem_toDigits {base n : Nat} {c : Char} (wide : 1 < base)
    (member : c ∈ Nat.toDigits base n) : c ≠ '\n' ∧ c ≠ '\r' := by
  obtain ⟨digit, rfl⟩ := digit_of_mem_toDigits wide member
  exact ⟨Nat.digitChar_ne '\n' rfl, Nat.digitChar_ne '\r' rfl⟩

@[simp] theorem oneLine_repr (n : Nat) : OneLine n.repr := by
  rw [Nat.repr_eq_ofList_toDigits, oneLine_ofList]
  exact fun c member => plain_of_mem_toDigits (by decide) member

theorem codePoint_plain (c : Char) : ∀ d ∈ codePoint c, d ≠ '\n' ∧ d ≠ '\r' := by
  have opening : ∀ d ∈ ['\\', 'u', '\x7b'], d ≠ '\n' ∧ d ≠ '\r' := by simp
  have closing : ∀ d ∈ ['\x7d'], d ≠ '\n' ∧ d ≠ '\r' := by simp
  rw [codePoint, List.forall_mem_append, List.forall_mem_append]
  exact ⟨⟨opening, fun d member => plain_of_mem_toDigits (by decide) member⟩, closing⟩

theorem escapeChar_plain (quote c : Char) : ∀ d ∈ escapeChar quote c, d ≠ '\n' ∧ d ≠ '\r' := by
  unfold escapeChar
  split
  · simp
  split
  · simp
  split
  · simp
  next notReturn =>
  split
  · simp
  next notNewline =>
  -- The line breaks have short names, so what is left stands for itself or has a code point.
  split
  · simp [notNewline, notReturn]
  split
  · simp [notNewline, notReturn]
  · exact codePoint_plain c

@[simp] theorem oneLine_quoted (text : String) : OneLine (quoted text) := by
  rw [quoted, oneLine_ofList]
  intro c member
  simp only [List.cons_append, List.mem_cons, List.mem_append, List.mem_flatMap,
    List.not_mem_nil, or_false] at member
  rcases member with rfl | ⟨d, _, escaped⟩ | rfl
  · decide
  · exact escapeChar_plain '"' d c escaped
  · decide

end Text

open Text

@[simp] theorem Scope.oneLine_name (scope : Scope) : OneLine scope.name := by
  cases scope <;> exact .literal rfl

@[simp] theorem Logical.oneLine_name (operator : Logical) : OneLine operator.name := by
  cases operator <;> exact .literal rfl

@[simp] theorem Calculation.oneLine_name (operator : Calculation) : OneLine operator.name := by
  obtain ⟨operation, stores⟩ := operator
  have operation : OneLine operation.name := by cases operation <;> exact .literal rfl
  cases stores with
  | false => exact operation
  | true => exact .append operation (.literal rfl)

@[simp] theorem Comparison.oneLine_name (operator : Comparison) : OneLine operator.name := by
  cases operator <;> exact .literal rfl

@[simp] theorem Falsy.oneLine_name (value : Falsy) : OneLine value.name := by
  cases value <;> exact .literal rfl

@[simp] theorem Traversal.oneLine_name (kind : Traversal) : OneLine kind.name := by
  cases kind <;> exact .literal rfl

@[simp] theorem Sentence.Kind.oneLine_name (kind : Sentence.Kind) : OneLine kind.name := by
  cases kind with
  | string quote => cases quote <;> exact .literal rfl
  | logical | calculation | comparison => exact .append (.literal rfl) (by simp)
  | _ => exact .literal rfl

theorem Decimal.plain_render (decimal : Decimal) : ∀ c ∈ decimal.render, c ≠ '\n' ∧ c ≠ '\r' := by
  have digits {n : Nat} {c : Char} (member : c ∈ Nat.toDigits 10 n) : c ≠ '\n' ∧ c ≠ '\r' :=
    plain_of_mem_toDigits (by decide) member
  intro c member
  unfold render at member
  dsimp only at member
  split at member
  · exact digits member
  · rcases List.mem_append.mp member with whole | fraction
    · exact digits whole
    · rcases List.mem_cons.mp fraction with rfl | fraction
      · decide
      · rw [fractionDigits, List.mem_reverse] at fraction
        have padded := (List.dropWhile_sublist _).subset fraction
        rw [List.mem_reverse, List.mem_append] at padded
        rcases padded with zero | digit
        · rw [List.eq_of_mem_replicate zero]
          decide
        · exact digits digit

@[simp] theorem Binary64.oneLine_render (x : Binary64) : OneLine x.render := by
  unfold render
  split
  · exact oneLine_ofList.mpr x.shortest.plain_render
  · exact .literal rfl

theorem AccessorPath.oneLine_render {path : AccessorPath}
    (lines : ∀ name ∈ path.names, OneLine name) : OneLine path.render := by
  simp only [names, List.cons_append, List.forall_mem_cons, List.forall_mem_append,
    Option.mem_toList] at lines
  obtain ⟨item, ⟨members, method⟩, parameters⟩ := lines
  have joined : OneLine (String.join (path.members.map ("." ++ ·))) := by
    apply oneLine_join
    intro text inside
    obtain ⟨name, member, rfl⟩ := List.mem_map.mp inside
    exact .append (.literal rfl) (members name member)
  refine .append (.append item joined) ?_
  cases found : path.method with
  | none => exact .literal rfl
  | some name =>
    have called := method name found
    dsimp only
    split
    · exact .append (.literal rfl) called
    · exact .append (.append (.append (.literal rfl) called) (.literal rfl))
        (oneLine_intercalate (.literal rfl) parameters)

theorem SemanticUnit.oneLine_optionalWord {word : Option String}
    (lines : ∀ name ∈ word.toList, OneLine name) : OneLine (optionalWord word) := by
  cases word with
  | none => exact .literal rfl
  | some name => exact .append (.literal rfl) (lines name (by simp))

/-- A unit without a line break in its names is shown on one line. -/
theorem SemanticUnit.oneLine_render {unit : SemanticUnit}
    (lines : ∀ name ∈ unit.names, OneLine name) : OneLine unit.render := by
  cases unit with
  | boolean value => cases value <;> exact .literal rfl
  | comment | compilerFlag | targetCode | safeString | normalString | unknown =>
    exact .append (.literal rfl) (oneLine_quoted _)
  | falsy | integer | float | logical | calculation | comparison | endMarker =>
    exact .append (.literal rfl) (by simp)
  | accessor => exact .append (.literal rfl) (AccessorPath.oneLine_render lines)
  | switchHead | caseHead => exact .append (.literal rfl) (oneLine_optionalWord lines)
  | loopHead kind iterable =>
    exact .append (.append (.append (.literal rfl) kind.oneLine_name) (.literal rfl))
      (lines iterable List.mem_cons_self)
  | variableDeclaration isMutable dataType name =>
    obtain ⟨typed, named⟩ := List.forall_mem_cons.mp lines
    refine .append (.append (.append (.literal rfl) ?_) typed) (oneLine_optionalWord named)
    cases isMutable <;> exact .literal rfl
  | twoWordCluster first second =>
    exact .append (.append (.append (.literal rfl) (lines first (by simp [names]))) (.literal rfl))
      (lines second (by simp [names]))
  | loopIteratorName name | functionHead name | methodHead name | functionReturnType name
  | functionTypeReturn name | structHead name | classHead name | typeDefinitionStart name
  | command name | importSource name | languageDefinition name | moduleName name
  | sectionMarker name | assignmentKey name | functionCallStart name
  | objectConstructionStart name | reference name =>
    exact .append (.literal rfl) (lines name List.mem_cons_self)
  | _ => exact .literal rfl

theorem Sentence.oneLine_render (sentence : Sentence) : OneLine sentence.render := by
  unfold render
  split
  · exact sentence.kind.oneLine_name
  · exact .append (.append sentence.kind.oneLine_name (.literal rfl)) (oneLine_quoted _)

theorem Position.oneLine_render (position : Position) : OneLine position.render := by
  have colon : OneLine ":" := .literal rfl
  simp [render, colon, toString]

theorem Finding.oneLine_message (finding : Finding) : OneLine finding.message := by
  cases finding with
  | commentAtEnd | flagAtEnd | openCode | openAccessor => exact .literal rfl
  | openString quote =>
    refine .append (.literal rfl) ?_
    cases quote <;> exact .literal rfl
  | missingTerminator text => exact .append (.literal rfl) (oneLine_quoted text)
  | mismatchedEnd requested found =>
    exact .append (.append (.append requested.oneLine_name (.literal rfl)) found.oneLine_name)
      (.literal rfl)
  | misplacedElif found => exact .append (.literal rfl) found.oneLine_name
  | unknownSentence kind text =>
    exact .append (.append (.append (.literal rfl) kind.oneLine_name) (.literal rfl))
      (oneLine_quoted text)
  | missingReturns routine =>
    refine .append (.append (.literal rfl) ?_) (.literal rfl)
    cases routine <;> exact .literal rfl
  | openScopes scopes =>
    refine .append (.append (oneLine_repr _) (.literal rfl)) (oneLine_intercalate (.literal rfl) ?_)
    intro name member
    obtain ⟨scope, _, rfl⟩ := List.mem_map.mp member
    exact scope.oneLine_name

theorem Rejection.oneLine_message (rejection : Rejection) : OneLine rejection.message := by
  obtain ⟨index, fault⟩ := rejection
  have numbered : OneLine ("sentence " ++ toString index) :=
    .append (.literal rfl) (oneLine_repr index)
  cases fault with
  | mismatchedEnd requested found =>
    exact .append (.append (.append (.append numbered (.literal rfl)) requested.oneLine_name)
      (.literal rfl)) found.oneLine_name
  | underflow requested =>
    exact .append (.append (.append numbered (.literal rfl)) requested.oneLine_name) (.literal rfl)
  | misplacedElif found =>
    exact .append (.append (.append numbered (.literal rfl)) found.oneLine_name) (.literal rfl)
  | unrecognized text =>
    exact .append (.append (.append (.literal rfl) (oneLine_repr index)) (.literal rfl))
      (oneLine_quoted text)

/-- Outside of regions the text of a sentence stays on its line. -/
def Sentence.KeepsLine (sentence : Sentence) : Prop :=
  sentence.kind.isVerbatim = false → OneLine sentence.text

theorem Sentence.Composed.keepsLine {sentence : Sentence} (composed : sentence.Composed) :
    sentence.KeepsLine := by
  cases composed with
  | @contents region =>
    have verbatim : region.kind.isVerbatim = true := by cases region <;> rfl
    intro spoken
    rw [verbatim] at spoken
    cases spoken
  | @fragment kind gathered _ _ folded =>
    intro _
    apply oneLine_ofList.mpr
    intro c member
    rcases folded.mem (List.mem_reverse.mp (trimBy_subset _ _ member)) with notLayout | rfl
    · constructor <;> rintro rfl <;> exact notLayout (by decide)
    · decide
  | semicolon | mark => exact fun _ => .literal rfl

theorem scan_keepsLine (source : String) :
    ∃ scanned, scan source = .ok scanned ∧
      ∀ sentence ∈ scanned.sentences, sentence.KeepsLine := by
  obtain ⟨scanned, cut, composed⟩ := scan_composed source
  exact ⟨scanned, cut, fun sentence member => (composed sentence member).keepsLine⟩

theorem Notice.oneLine_locate (notice : Notice) (source : String) :
    OneLine (notice.diagnostic.locate source) := by
  unfold Diagnostic.locate
  split
  · exact .append (.append (Position.oneLine_render _) (.literal rfl))
      notice.finding.oneLine_message
  · exact notice.finding.oneLine_message

theorem Outcome.oneLine_located {source : String} {notices : List Notice} {severity : Severity}
    {message : String}
    (member : message ∈ located source (notices.map Notice.diagnostic) severity) :
    OneLine message := by
  obtain ⟨diagnostic, kept, rfl⟩ := List.mem_map.mp member
  obtain ⟨notice, _, rfl⟩ := List.mem_map.mp (List.mem_filter.mp kept).1
  exact notice.oneLine_locate source

/-- An outcome that is printed one item to a line. -/
structure Outcome.OneLineEach (outcome : Outcome) : Prop where
  units : ∀ unit ∈ outcome.units, OneLine unit.render
  sentences : ∀ sentence ∈ outcome.sentences, OneLine sentence.render
  messages : ∀ message ∈ outcome.errors ++ outcome.warnings ++ outcome.notes, OneLine message

theorem compile_oneLineEach (options : Options) (source : String) :
    (compile options source).OneLineEach := by
  obtain ⟨scanned, cut, lines⟩ := scan_keepsLine source
  cases result : assemble options scanned.sentences with
  | ok assembled =>
    obtain ⟨reading, run, rfl⟩ := assemble_eq_ok_iff.mp result
    rw [compile_of_program (parse_of_assembled cut result)]
    refine ⟨fun unit member => ?_, fun sentence _ => sentence.oneLine_render, ?_⟩
    · apply SemanticUnit.oneLine_render
      intro name named
      obtain ⟨sentence, inside, spoken, spelled⟩ :=
        run.names (List.mem_flatMap.mpr ⟨unit, member, named⟩)
      exact spelled.oneLine (lines sentence inside spoken)
    · intro message member
      rcases List.mem_append.mp member with warning | note
      · exact Outcome.oneLine_located warning
      · exact Outcome.oneLine_located note
  | error rejection =>
    obtain ⟨inside, failed⟩ := parse_of_rejected cut result
    rw [compile_of_failure failed]
    refine ⟨nofun, nofun, fun message member => ?_⟩
    rw [List.mem_singleton.mp member]
    exact .append (.append (Position.oneLine_render _) (.literal rfl)) rejection.oneLine_message

theorem oneLine_headed {heading : String} {messages : List String} (known : OneLine heading)
    (lines : ∀ message ∈ messages, OneLine message) :
    ∀ line ∈ messages.map (heading ++ ·), OneLine line := by
  intro line member
  obtain ⟨message, inside, rfl⟩ := List.mem_map.mp member
  exact .append known (lines message inside)

open CommandLine in
/-- Whatever the source, each unit, each sentence and each message of its outcome is one line, and
so is all that is printed for the source under the header with its path. -/
theorem compile_prints_lines (options : Options) (source : String) :
    (compile options source).OneLineEach ∧
      ∀ (stage : Stage) (path : String),
        (outputLines stage ⟨path, compile options source⟩).head? = some ("==> " ++ path) ∧
        (∀ line ∈ (outputLines stage ⟨path, compile options source⟩).tail, OneLine line) ∧
        ∀ line ∈ messageLines ⟨path, compile options source⟩, OneLine line := by
  have each := compile_oneLineEach options source
  refine ⟨each, fun stage path => ⟨rfl, ?_, ?_⟩⟩
  · intro line member
    cases stage with
    | units =>
      obtain ⟨unit, inside, rfl⟩ := List.mem_map.mp member
      exact each.units unit inside
    | sentences =>
      obtain ⟨sentence, inside, rfl⟩ := List.mem_map.mp member
      exact each.sentences sentence inside
  · have lines := each.messages
    simp only [List.forall_mem_append] at lines
    obtain ⟨⟨errors, warnings⟩, notes⟩ := lines
    refine List.forall_mem_append.mpr ⟨List.forall_mem_append.mpr ⟨?_, ?_⟩, ?_⟩
    · exact oneLine_headed (.literal rfl) errors
    · exact oneLine_headed (.literal rfl) warnings
    · exact oneLine_headed (.literal rfl) notes

end Clausal
