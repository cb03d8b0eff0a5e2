import Clausal.Proofs.Folding
import Clausal.Proofs.Moves
import Clausal.Proofs.Relaxing
import Clausal.Proofs.Spans

/-! Sentences that no rule knows.

A sentence that every rule declines becomes an unknown unit and a warning, or the whole source is
rejected for it; the options choose between the two, and nothing else depends on them. One word is a
reference and two words are a cluster, so the text of such a sentence has at least three words.
-/

set_option autoImplicit false

namespace Clausal

/-- The text that an unknown unit carries. -/
def SemanticUnit.unknownText? : SemanticUnit → Option String
  | .unknown text => some text
  | _ => none

/-- Whether a finding is about a sentence that no rule knows. -/
def Finding.isUnknownSentence : Finding → Bool
  | .unknownSentence _ _ => true
  | _ => false

/-- Whether a diagnostic warns that the unit of a sentence could not be determined, by its words. -/
def Diagnostic.deniesUnit (diagnostic : Diagnostic) : Bool :=
  diagnostic.severity == .warning &&
    "could not determine unit of ".toList.isPrefixOf diagnostic.message.toList

/-- The notice that no rule knows a sentence. -/
def Sentence.unknownNotice (sentence : Sentence) : Notice :=
  ⟨.unknownSentence sentence.kind sentence.text, some sentence.span⟩

theorem SemanticUnit.unknownText?_of_isSimple {unit : SemanticUnit}
    (simple : unit.isSimple = true) : unit.unknownText? = none := by
  unfold unknownText?
  split
  · cases simple
  · rfl

theorem Scope.unknownText?_endUnit {scope : Scope} {unit : SemanticUnit}
    (ends : scope.endUnit? = some unit) : unit.unknownText? = none := by
  cases scope <;> cases ends <;> rfl

theorem Reading.unknownTexts_punctuate (reading : Reading) (kind : Sentence.Kind) :
    (reading.punctuate kind).units.filterMap SemanticUnit.unknownText? =
      reading.units.filterMap SemanticUnit.unknownText? :=
  reading.filterMap_punctuate rfl Scope.unknownText?_endUnit kind

theorem Finding.message_unknownSentence (kind : Sentence.Kind) (text : String) :
    (unknownSentence kind text).message =
      "could not determine unit of " ++ kind.name ++ " sentence " ++ Text.quoted text := rfl

/-- Whether one of its first three letters tells a text from one that starts with `could`. -/
def Text.startsApart (text : String) : Bool :=
  (text.toList.zip ['c', 'o', 'u']).any fun pair => pair.1 != pair.2

namespace Text

theorem startsApart_literal {letters : List Char}
    (apart : ((letters.zip ['c', 'o', 'u']).any fun pair => pair.1 != pair.2) = true) :
    startsApart (String.ofList letters) = true := by
  rwa [startsApart, String.toList_ofList]

theorem any_zip_append {α β : Type} {differ : α × β → Bool} {first : List α} {others : List β}
    (found : (first.zip others).any differ = true) (rest : List α) :
    ((first ++ rest).zip others).any differ = true := by
  induction first generalizing others with
  | nil => cases found
  | cons letter first ih =>
    cases others with
    | nil => cases found
    | cons other others =>
      rw [List.zip_cons_cons, List.any_cons, Bool.or_eq_true] at found
      rw [List.cons_append, List.zip_cons_cons, List.any_cons, Bool.or_eq_true]
      exact found.imp_right ih

theorem startsApart_append {first : String} (apart : startsApart first = true) (rest : String) :
    startsApart (first ++ rest) = true := by
  rw [startsApart, String.toList_append]
  exact any_zip_append apart rest.toList

theorem startsApart_toString (n : Nat) : startsApart (toString n) = true := by
  obtain ⟨digit, others, written⟩ := List.exists_cons_of_ne_nil (@Nat.toDigits_ne_nil n 10)
  have isDigit : digit.isDigit = true :=
    Nat.isDigit_of_mem_toDigits (by decide) (by decide) (written ▸ List.mem_cons_self)
  have other : (digit != 'c') = true := by
    rw [bne_iff_ne]
    rintro rfl
    cases isDigit
  rw [startsApart, Nat.toString_eq_ofList_toDigits, String.toList_ofList, written,
    List.zip_cons_cons, List.any_cons, other, Bool.true_or]

theorem not_leads_of_startsApart {text : String} (apart : startsApart text = true) :
    ¬"could not determine unit of ".toList <+: text.toList := by
  rintro ⟨tail, whole⟩
  obtain ⟨rest, spelled⟩ :
      ∃ rest, "could not determine unit of ".toList = 'c' :: 'o' :: 'u' :: rest := ⟨_, rfl⟩
  rw [startsApart, ← whole, spelled] at apart
  simp at apart

end Text

/-- No other finding is worded in this way. -/
theorem Finding.startsApart_message {finding : Finding}
    (other : finding.isUnknownSentence = false) : Text.startsApart finding.message = true := by
  cases finding with
  | unknownSentence kind text => cases other
  | commentAtEnd | flagAtEnd | openCode | openAccessor => exact Text.startsApart_literal rfl
  | openString | missingTerminator | misplacedElif =>
    refine Text.startsApart_append ?_ _
    exact Text.startsApart_literal rfl
  | missingReturns =>
    refine Text.startsApart_append (Text.startsApart_append ?_ _) _
    exact Text.startsApart_literal rfl
  | mismatchedEnd requested found =>
    refine Text.startsApart_append (Text.startsApart_append (Text.startsApart_append ?_ _) _) _
    cases requested <;> exact Text.startsApart_literal rfl
  | openScopes scopes =>
    exact Text.startsApart_append (Text.startsApart_append (Text.startsApart_toString _) _) _

theorem Notice.deniesUnit_diagnostic (notice : Notice) :
    notice.diagnostic.deniesUnit = notice.finding.isUnknownSentence := by
  obtain ⟨finding, span⟩ := notice
  cases known : finding.isUnknownSentence with
  | true =>
    cases finding <;> cases known
    next kind text =>
    have leads : "could not determine unit of ".toList <+:
        (Finding.unknownSentence kind text).message.toList := by
      rw [Finding.message_unknownSentence, String.append_assoc, String.append_assoc,
        String.toList_append]
      exact List.prefix_append _ _
    exact List.isPrefixOf_iff_prefix.mpr leads
  | false =>
    have apart := Text.not_leads_of_startsApart (Finding.startsApart_message known)
    rw [← List.isPrefixOf_iff_prefix, Bool.not_eq_true] at apart
    rw [Diagnostic.deniesUnit, diagnostic, apart, Bool.and_false]

theorem Notice.filter_deniesUnit (notices : List Notice) :
    (notices.map Notice.diagnostic).filter Diagnostic.deniesUnit =
      (notices.filter (·.finding.isUnknownSentence)).map Notice.diagnostic := by
  rw [List.filter_map]
  congr 1
  apply List.filter_congr
  intro notice _
  exact notice.deniesUnit_diagnostic

namespace Situation

variable {s : Situation}

theorem map_ne_unknown {α : Type} {found : Option α} {move : α → Move}
    (known : ∀ chosen, move chosen ≠ .unknown) : found.map move ≠ some .unknown := by
  intro chosen
  obtain ⟨value, _, same⟩ := Option.map_eq_some_iff.mp chosen
  exact known value same

theorem bind_ne_unknown {α : Type} {found : Option α} {move? : α → Option Move}
    (known : ∀ chosen, move? chosen ≠ some .unknown) : found.bind move? ≠ some .unknown := by
  intro chosen
  obtain ⟨value, _, same⟩ := Option.bind_eq_some_iff.mp chosen
  exact known value same

theorem command?_ne_unknown : s.command? ≠ some .unknown := by
  unfold command?
  split <;> nofun

theorem openingByHead?_ne_unknown : s.openingByHead? ≠ some .unknown := by
  unfold openingByHead?
  split
  case h_3 | h_11 => exact command?_ne_unknown
  case h_5 | h_6 =>
    split
    · nofun
    · exact command?_ne_unknown
  case h_7 => exact map_ne_unknown nofun
  all_goals nofun

theorem openingRule_ne_unknown : openingRule s ≠ some .unknown := by
  unfold openingRule
  split
  case isFalse => nofun
  split
  case h_6 => split <;> nofun
  case h_11 =>
    split
    · nofun
    · exact openingByHead?_ne_unknown
  case h_12 => exact openingByHead?_ne_unknown
  all_goals nofun

theorem closingRule_ne_unknown : closingRule s ≠ some .unknown := by
  unfold closingRule
  split
  case isFalse => nofun
  split
  case h_4 =>
    apply bind_ne_unknown
    intro body
    split <;> nofun
  all_goals nofun

/-- A rule that knows a sentence does not leave it unknown. -/
theorem rule_ne_unknown {rule : Rule} (member : rule ∈ rules) : rule s ≠ some .unknown := by
  simp only [rules, List.mem_cons, List.not_mem_nil, or_false] at member
  rcases member with rfl | rfl | rfl | rfl | rfl | rfl | rfl | rfl | rfl | rfl | rfl | rfl | rfl |
    rfl
  · unfold contentRule
    split <;> rintro ⟨⟩
  · unfold literalRule
    split
    · rintro ⟨⟩
    · rintro ⟨⟩
    · exact map_ne_unknown (by rintro _ ⟨⟩)
  · unfold accessorRule
    split <;> rintro ⟨⟩
  · unfold compoundRule
    split <;> rintro ⟨⟩
  · unfold operatorRule
    split <;> rintro ⟨⟩
  · exact closingRule_ne_unknown
  · exact openingRule_ne_unknown
  · unfold enumeratingRule
    split
    · apply bind_ne_unknown
      intro body
      split
      · rintro ⟨⟩
      · exact map_ne_unknown (by rintro _ ⟨⟩)
    · rintro ⟨⟩
  · unfold assignmentRule
    split <;> rintro ⟨⟩
  · unfold declarationRule
    split
    · apply map_ne_unknown
      intro body
      dsimp only
      split <;> rintro ⟨⟩
    · rintro ⟨⟩
  · unfold callRule
    split
    · apply bind_ne_unknown
      intro body
      split <;> rintro ⟨⟩
    · rintro ⟨⟩
  · unfold endMarkerRule
    split
    · exact map_ne_unknown (by rintro _ ⟨⟩)
    · rintro ⟨⟩
  · apply bind_ne_unknown
    intro body
    split <;> rintro ⟨⟩
  · unfold referenceRule
    split <;> rintro ⟨⟩

/-- A sentence is unknown if every rule declines it. -/
theorem declined_of_unknown (unknown : s.move = .unknown) : ∀ rule ∈ rules, rule s = none := by
  have declined : rules.findSome? (fun rule => rule s) = none := by
    cases found : rules.findSome? fun rule => rule s with
    | none => rfl
    | some move =>
      obtain ⟨rule, member, chosen⟩ := List.exists_of_findSome?_eq_some found
      rw [Situation.move, found, Option.getD_some] at unknown
      exact absurd (unknown ▸ chosen) (rule_ne_unknown member)
  exact List.findSome?_eq_none_iff.mp declined

/-- Where the text is folded, two words are a cluster and one word is a reference. -/
theorem three_le_words_of_unknown (unknown : s.move = .unknown) (worded : s.text ≠ "")
    (tight : Text.Tight s.text.toList) : 3 ≤ (s.text.toList.splitOn ' ').length := by
  have declined := declined_of_unknown unknown
  have noReference : referenceRule s = none := declined _ (by simp [rules])
  have noCluster : twoWordRule s = none := declined _ (by simp [rules])
  have spaced : ' ' ∈ s.text.toList := by
    simpa [referenceRule, worded, unit] using noReference
  cases cut : Text.cutFirst ' ' s.text.toList with
  | none => exact absurd spaced (Text.cutFirst_eq_none_iff.mp cut)
  | some pieces =>
    obtain ⟨before, after⟩ := pieces
    obtain ⟨_, written, _⟩ := tight.cut cut
    have body : s.sentence.body = String.ofList after := by
      have cut : Text.cutFirst ' ' s.sentence.text.toList = some (before, after) := cut
      rw [Sentence.body, Sentence.parts, cut]
    have body? : s.body? = some (String.ofList after) :=
      body?_eq_some_iff.mpr ⟨body, by simpa using written⟩
    have again : ' ' ∈ after := by
      simpa [twoWordRule, body?, unit] using noCluster
    exact Text.three_le_length_splitOn cut again

end Situation

theorem Sentence.Composed.tight_of_unknown {state : ScopeState} {sentence : Sentence}
    (composed : sentence.Composed) (unknown : (state.situation sentence).move = .unknown) :
    Text.Tight sentence.text.toList := by
  cases composed with
  | @contents region text span =>
    have content : region.kind.isContent = true := by cases region <;> rfl
    obtain ⟨unit, known⟩ :=
      (state.situation ⟨region.kind, text, span⟩).move_of_isContent content
    cases known.symm.trans unknown
  | fragment _ folded =>
    rw [String.toList_ofList]
    exact folded.tight
  | semicolon | mark => exact Text.Folded.nil.tight

namespace ScopeState

variable {mismatches : MismatchPolicy} {options : Options} {state : ScopeState}
  {sentence : Sentence} {move : Move} {reading : Reading}

/-- The sentences that stand for an unknown unit, each with its index. -/
def unrecognized (options : Options) (state : ScopeState) (index : Nat)
    (sentences : List Sentence) : List (Sentence × Nat) :=
  (((sentences.zipIdx index).zip (state.unitsOfEach options sentences)).filter fun entry =>
    entry.2.any fun unit => unit.unknownText?.isSome).map Prod.fst

/-- What degrading makes of a sentence, in comparison to rejecting it. -/
inductive Degrades (mismatches : MismatchPolicy) (state : ScopeState) (sentence : Sentence)
    (reading : Reading) : Prop where
  | known : reading.units.filterMap SemanticUnit.unknownText? = [] →
      reading.notices.filter (·.finding.isUnknownSentence) = [] →
      state.read ⟨mismatches, .reject⟩ sentence = .ok reading →
      Degrades mismatches state sentence reading
  | unknown : (state.situation sentence).move = .unknown → sentence.text ≠ "" →
      reading.units.filterMap SemanticUnit.unknownText? = [sentence.text] →
      reading.notices = [sentence.unknownNotice] →
      state.read ⟨mismatches, .reject⟩ sentence =
        .error { fault := .unrecognized sentence.text, state := state.enter sentence } →
      Degrades mismatches state sentence reading

theorem Performs.reject_or_unknown
    (performs : Performs ⟨mismatches, .degrade⟩ state sentence move reading) :
    (Performs ⟨mismatches, .reject⟩ state sentence move reading ∧
      reading.notices.filter (·.finding.isUnknownSentence) = []) ∨
    (move = .unknown ∧ sentence.text.isEmpty = false ∧
      reading =
        { units := [.unknown sentence.text], state, notices := [sentence.unknownNotice] }) := by
  cases performs with
  | emit => exact .inl ⟨.emit, rfl⟩
  | opens => exact .inl ⟨.opens, rfl⟩
  | closes closing top closes => exact .inl ⟨.closes closing top closes, rfl⟩
  | repairs closing top differs lenient => exact .inl ⟨.repairs closing top differs lenient, rfl⟩
  | elif top => exact .inl ⟨.elif top, rfl⟩
  | strayElif other lenient => exact .inl ⟨.strayElif other lenient, rfl⟩
  | sharedCase shared => exact .inl ⟨.sharedCase shared, rfl⟩
  | newCase new => exact .inl ⟨.newCase new, rfl⟩
  | announces => exact .inl ⟨.announces, rfl⟩
  | startsBody => exact .inl ⟨.startsBody, rfl⟩
  | reassigns top => exact .inl ⟨.reassigns top, rfl⟩
  | assigns other => exact .inl ⟨.assigns other, rfl⟩
  | blank blank => exact .inl ⟨.blank blank, rfl⟩
  | degrades worded => exact .inr ⟨rfl, worded, rfl⟩

/-- No unit is unknown where unknown sentences are rejected. -/
theorem perform_known {s : Situation} (means : s.Means move)
    (performs : Performs ⟨mismatches, .reject⟩ s.state s.sentence move reading) :
    reading.units.filterMap SemanticUnit.unknownText? = [] := by
  cases performs with
  | emit =>
    cases means with
    | emit simple =>
      exact List.filterMap_eq_nil_iff.mpr fun unit member =>
        SemanticUnit.unknownText?_of_isSimple (simple unit member)
  | @opens opener => cases opener <;> rfl
  | closes closing | repairs closing =>
    obtain rfl | ⟨rfl, _⟩ := closing?_eq_some closing <;> cases closing <;> rfl
  | elif | strayElif | sharedCase | newCase | reassigns | assigns | blank => rfl
  | @announces routine | @startsBody routine => cases routine <;> rfl
  | degrades _ degrade => cases degrade

theorem degrades_of_read (read : state.read ⟨mismatches, .degrade⟩ sentence = .ok reading) :
    Degrades mismatches state sentence reading := by
  obtain ⟨performed, moved, rfl⟩ := read_eq_ok read
  have texts := performed.unknownTexts_punctuate sentence.kind
  rcases (performs_of_perform moved).reject_or_unknown with
    ⟨performs, quiet⟩ | ⟨unknown, worded, rfl⟩
  · refine .known ?_ ?_ ?_
    · rw [texts]
      exact perform_known (state.situation sentence).move_means performs
    · rwa [performed.punctuate_notices]
    · rw [read_eq, performs.perform]
      rfl
  · refine .unknown unknown (by simpa using worded) texts (Reading.punctuate_notices _ _) ?_
    rw [read_eq, unknown]
    simp [perform, ScopeState.unknown, worded, Except.map]

theorem unrecognized_of_known (read : state.read options sentence = .ok reading)
    (known : reading.units.filterMap SemanticUnit.unknownText? = []) (index : Nat)
    (rest : List Sentence) :
    state.unrecognized options index (sentence :: rest) =
      reading.state.unrecognized options (index + 1) rest := by
  have none_left : (reading.units.any fun unit => unit.unknownText?.isSome) = false := by
    rw [List.filterMap_eq_nil_iff] at known
    rw [List.any_eq_false]
    intro unit member
    simp [known unit member]
  simp [unrecognized, unitsOfEach_cons read, none_left]

theorem unrecognized_of_unknown (read : state.read options sentence = .ok reading)
    {text : String} (unknown : reading.units.filterMap SemanticUnit.unknownText? = [text])
    (index : Nat) (rest : List Sentence) :
    state.unrecognized options index (sentence :: rest) =
      (sentence, index) :: reading.state.unrecognized options (index + 1) rest := by
  have found : (reading.units.any fun unit => unit.unknownText?.isSome) = true := by
    obtain ⟨unit, member, shown⟩ :=
      List.mem_filterMap.mp (unknown ▸ List.mem_singleton_self text)
    exact List.any_eq_true.mpr ⟨unit, member, by simp [shown]⟩
  simp [unrecognized, unitsOfEach_cons read, found]

theorem getElem?_of_mem_unrecognized {sentences : List Sentence} {entry : Sentence × Nat}
    (member : entry ∈ state.unrecognized options 0 sentences) :
    sentences[entry.2]? = some entry.1 := by
  obtain ⟨pair, inside, rfl⟩ := List.mem_map.mp member
  have listed := (List.of_mem_zip (List.mem_filter.mp inside).1).1
  exact List.mem_zipIdx_iff_getElem?.mp listed

end ScopeState

namespace Reads

variable {mismatches : MismatchPolicy} {state : ScopeState} {sentences : List Sentence}
  {reading : Reading}

theorem unknownTexts (run : Reads ⟨mismatches, .degrade⟩ state sentences reading) (index : Nat) :
    reading.units.filterMap SemanticUnit.unknownText? =
      (state.unrecognized ⟨mismatches, .degrade⟩ index sentences).map (·.1.text) := by
  induction run generalizing index with
  | nil => rfl
  | cons read _ ih =>
    rw [Reading.followedBy, List.filterMap_append, ih (index + 1)]
    cases ScopeState.degrades_of_read read with
    | known texts =>
      rw [ScopeState.unrecognized_of_known read texts, texts]
      rfl
    | unknown _ _ texts =>
      rw [ScopeState.unrecognized_of_unknown read texts, texts]
      rfl

theorem unknownNotices (run : Reads ⟨mismatches, .degrade⟩ state sentences reading) (index : Nat) :
    reading.notices.filter (·.finding.isUnknownSentence) =
      (state.unrecognized ⟨mismatches, .degrade⟩ index sentences).map (·.1.unknownNotice) := by
  induction run generalizing index with
  | nil => rfl
  | cons read _ ih =>
    rw [Reading.followedBy, List.filter_append, ih (index + 1)]
    cases ScopeState.degrades_of_read read with
    | known texts quiet =>
      rw [ScopeState.unrecognized_of_known read texts, quiet]
      rfl
    | unknown _ _ texts notices =>
      rw [ScopeState.unrecognized_of_unknown read texts, notices]
      rfl

/-- Without an unknown unit nothing is left to reject. -/
theorem reject (run : Reads ⟨mismatches, .degrade⟩ state sentences reading) (index : Nat)
    (known : state.unrecognized ⟨mismatches, .degrade⟩ index sentences = []) :
    Reads ⟨mismatches, .reject⟩ state sentences reading := by
  induction run generalizing index with
  | nil => exact .nil
  | cons read _ ih =>
    cases ScopeState.degrades_of_read read with
    | known texts _ same =>
      rw [ScopeState.unrecognized_of_known read texts] at known
      exact .cons same (ih (index + 1) known)
    | unknown _ _ texts =>
      rw [ScopeState.unrecognized_of_unknown read texts] at known
      cases known

/-- Up to the first unknown unit both policies read the same, and there the sentence is
rejected. -/
theorem reject_first (run : Reads ⟨mismatches, .degrade⟩ state sentences reading) (index : Nat)
    {sentence : Sentence} {place : Nat} {others : List (Sentence × Nat)}
    (first : state.unrecognized ⟨mismatches, .degrade⟩ index sentences =
      (sentence, place) :: others) :
    ∃ before after early, sentences = before ++ sentence :: after ∧
      place = index + before.length ∧ Reads ⟨mismatches, .reject⟩ state before early ∧
      early.state.read ⟨mismatches, .reject⟩ sentence =
        .error { fault := .unrecognized sentence.text, state := early.state.enter sentence } := by
  induction run generalizing index with
  | nil => cases first
  | @cons state head rest reading _ read _ ih =>
    cases ScopeState.degrades_of_read read with
    | known texts _ same =>
      rw [ScopeState.unrecognized_of_known read texts] at first
      obtain ⟨before, after, early, rfl, rfl, reads, failed⟩ := ih (index + 1) first
      refine ⟨head :: before, after, reading.followedBy early, rfl, ?_, .cons same reads, failed⟩
      rw [List.length_cons]
      omega
    | unknown _ _ texts _ failed =>
      rw [ScopeState.unrecognized_of_unknown read texts] at first
      cases first
      exact ⟨[], rest, .start state, rfl, rfl, .nil, failed⟩

/-- Folded sentences that are read as unknown have three words or more. -/
theorem unknown_words (run : Reads ⟨mismatches, .degrade⟩ state sentences reading)
    (composed : ∀ sentence ∈ sentences, sentence.Composed) {text : String}
    (member : text ∈ reading.units.filterMap SemanticUnit.unknownText?) :
    3 ≤ (text.toList.splitOn ' ').length ∧ ∀ word ∈ text.toList.splitOn ' ', word ≠ [] := by
  induction run with
  | nil => cases member
  | @cons state head rest reading others read _ ih =>
    obtain ⟨first, later⟩ := List.forall_mem_cons.mp composed
    rw [Reading.followedBy, List.filterMap_append, List.mem_append] at member
    rcases member with here | there
    · cases ScopeState.degrades_of_read read with
      | known texts =>
        rw [texts] at here
        cases here
      | unknown unknown worded texts =>
        rw [texts, List.mem_singleton] at here
        subst here
        have tight := first.tight_of_unknown unknown
        exact ⟨Situation.three_le_words_of_unknown unknown worded tight,
          tight.ne_nil_of_mem_splitOn (by simpa using worded)⟩
    · exact ih later there

end Reads

theorem Assembler.endNotices_known (state : ScopeState) :
    (endNotices state).filter (·.finding.isUnknownSentence) = [] := by
  rw [List.filter_eq_nil_iff]
  intro notice member
  rcases List.mem_append.mp member with awaited | left
  · obtain ⟨_, _, rfl⟩ := List.mem_map.mp awaited
    simp [Finding.isUnknownSentence]
  · split at left
    · cases left
    · rw [List.mem_singleton.mp left]
      simp [Finding.isUnknownSentence]

theorem scan_notices_known {source : String} {scanned : Scanned}
    (cut : scan source = .ok scanned) :
    scanned.notices.filter (·.finding.isUnknownSentence) = [] := by
  obtain ⟨_, last, scans⟩ := Scanner.exists_scans none {} source.toList
  cases cut.symm.trans (scan_of_scans scans)
  rw [List.filter_eq_nil_iff]
  intro notice member
  rcases Scanner.finish_notices member with ⟨region, _, rfl⟩ | ⟨_, _, rfl⟩ | ⟨_, _, rfl⟩
  · cases region <;> simp [Scanner.noticeFrom, Region.unclosed, Finding.isUnknownSentence]
  · simp [Scanner.noticeFrom, Finding.isUnknownSentence]
  · simp [Scanner.noticeFrom, Finding.isUnknownSentence]

theorem parse_relax {options relaxed : Options} {source : String} {program : Program}
    (relaxes : options.RelaxTo relaxed) (accepted : parse options source = .ok program) :
    parse relaxed source = .ok program := by
  obtain ⟨scanned, reading, cut, run, rfl⟩ := parse_eq_ok accepted
  exact parse_of_assembled cut (assemble_eq_ok_iff.mpr ⟨reading, run.relax relaxes, rfl⟩)

/-- Rejecting fails at the first sentence that degrading leaves unknown. -/
theorem parse_reject_first {mismatches : MismatchPolicy} {source : String} {scanned : Scanned}
    {reading : Reading} (cut : scan source = .ok scanned)
    (run : Reads ⟨mismatches, .degrade⟩ {} scanned.sentences reading) {entry : Sentence × Nat}
    {others : List (Sentence × Nat)}
    (first : ({} : ScopeState).unrecognized ⟨mismatches, .degrade⟩ 0 scanned.sentences =
      entry :: others) :
    parse ⟨mismatches, .reject⟩ source =
      .error ⟨.rejection ⟨entry.2, .unrecognized entry.1.text⟩,
        some (.source (Position.locate source entry.1.span.start))⟩ := by
  obtain ⟨sentence, place⟩ := entry
  obtain ⟨before, after, early, whole, rfl, reads, failed⟩ := run.reject_first 0 first
  have rejected : assemble ⟨mismatches, .reject⟩ scanned.sentences =
      .error ⟨0 + before.length, .unrecognized sentence.text⟩ := by
    rw [whole, Nat.zero_add]
    exact assemble_of_refusal reads failed after
  obtain ⟨inside, fails⟩ := parse_of_rejected cut rejected
  have place : scanned.sentences[0 + before.length] = sentence := by
    simp [whole]
  rw [fails, place]

/-- Where unknown sentences are degraded, each unknown unit carries the text of its sentence, at
least three words between single spaces, and each has its warning about that sentence, in the same
order. Rejecting them changes nothing if there are none, and fails at the first one otherwise. -/
theorem unknown_units_reported {mismatches : MismatchPolicy} {source : String} {program : Program}
    (degraded : parse ⟨mismatches, .degrade⟩ source = .ok program) :
    let unknown := ({} : ScopeState).unrecognized ⟨mismatches, .degrade⟩ 0 program.sentences
    (∀ entry ∈ unknown, program.sentences[entry.2]? = some entry.1) ∧
    program.units.filterMap SemanticUnit.unknownText? = unknown.map (·.1.text) ∧
    (program.notices.map Notice.diagnostic).filter Diagnostic.deniesUnit =
      unknown.map (fun entry =>
        ⟨.warning, "could not determine unit of " ++ entry.1.kind.name ++ " sentence "
          ++ Text.quoted entry.1.text, some entry.1.span⟩) ∧
    (∀ text ∈ program.units.filterMap SemanticUnit.unknownText?,
      3 ≤ (text.toList.splitOn ' ').length ∧ ∀ word ∈ text.toList.splitOn ' ', word ≠ []) ∧
    ((∃ other, parse ⟨mismatches, .reject⟩ source = .ok other) ↔
      ∀ unit ∈ program.units, unit.unknownText? = none) ∧
    (∀ other, parse ⟨mismatches, .reject⟩ source = .ok other → other = program ∧
      compile ⟨mismatches, .reject⟩ source = compile ⟨mismatches, .degrade⟩ source) ∧
    ∀ entry ∈ unknown.head?, parse ⟨mismatches, .reject⟩ source =
      .error ⟨.rejection ⟨entry.2, .unrecognized entry.1.text⟩,
        some (.source (Position.locate source entry.1.span.start))⟩ := by
  obtain ⟨scanned, cut, composed⟩ := scan_composed source
  obtain ⟨scanned, reading, cut', run, rfl⟩ := parse_eq_ok degraded
  cases cut.symm.trans cut'
  intro unknown
  have texts := run.unknownTexts 0
  have rejects : unknown = [] → parse ⟨mismatches, .reject⟩ source = .ok _ := fun none_left =>
    parse_of_assembled cut (assemble_eq_ok_iff.mpr ⟨reading, run.reject 0 none_left, rfl⟩)
  have fails : ∀ entry ∈ unknown.head?, parse ⟨mismatches, .reject⟩ source =
      .error ⟨.rejection ⟨entry.2, .unrecognized entry.1.text⟩,
        some (.source (Position.locate source entry.1.span.start))⟩ := by
    intro entry first
    obtain ⟨others, first⟩ := List.head?_eq_some_iff.mp first
    exact parse_reject_first cut run first
  refine ⟨fun entry => ScopeState.getElem?_of_mem_unrecognized, texts, ?_,
    fun text => run.unknown_words composed, ?_, ?_, fails⟩
  · rw [Notice.filter_deniesUnit, List.filter_append, List.filter_append, scan_notices_known cut,
      Assembler.endNotices_known, run.unknownNotices 0, List.nil_append, List.append_nil,
      List.map_map]
    rfl
  · rw [← List.filterMap_eq_nil_iff, texts, List.map_eq_nil_iff]
    constructor
    · rintro ⟨other, accepted⟩
      by_contra some_left
      obtain ⟨entry, others, first⟩ := List.exists_cons_of_ne_nil some_left
      cases accepted.symm.trans (parse_reject_first cut run first)
    · intro none_left
      exact ⟨_, rejects none_left⟩
  · intro other accepted
    cases degraded.symm.trans (parse_relax (.degrade mismatches) accepted)
    exact ⟨rfl, by rw [compile_of_program accepted, compile_of_program degraded]⟩

/-- Two words are a cluster; with three or four a sentence is unknown, and the first such sentence
is rejected. -/
theorem long_sentences_reported :
    ∃ program, parse ⟨.strict, .degrade⟩ "a b;one two  three;x y z w:" = .ok program ∧
      program.units.filterMap SemanticUnit.unknownText? = ["one two three", "x y z w"] ∧
      (program.notices.map Notice.diagnostic).filter Diagnostic.deniesUnit =
        [⟨.warning, "could not determine unit of closing sentence \"one two three\"",
            some (.between 4 19)⟩,
          ⟨.warning, "could not determine unit of opening sentence \"x y z w\"",
            some (.between 19 27)⟩] ∧
      parse ⟨.strict, .reject⟩ "a b;one two  three;x y z w:" =
        .error ⟨.rejection ⟨1, .unrecognized "one two three"⟩, some (.source ⟨1, 5⟩)⟩ := by
  have degraded : parse ⟨.strict, .degrade⟩ "a b;one two  three;x y z w:" =
      .ok
        ⟨[⟨.closing, "a b", .between 0 4⟩, ⟨.closing, "one two three", .between 4 19⟩,
            ⟨.opening, "x y z w", .between 19 27⟩],
          [.twoWordCluster "a" "b", .closing, .unknown "one two three", .closing,
            .unknown "x y z w"],
          [⟨.unknownSentence .closing "one two three", some (.between 4 19)⟩,
            ⟨.unknownSentence .opening "x y z w", some (.between 19 27)⟩],
          []⟩ := rfl
  obtain ⟨_, _, warnings, _, _, _, fails⟩ := unknown_units_reported degraded
  exact ⟨_, degraded, rfl, warnings, fails (⟨.closing, "one two three", .between 4 19⟩, 1) rfl⟩

end Clausal
