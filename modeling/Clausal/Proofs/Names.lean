import Clausal.Proofs.Moves
import Clausal.Proofs.Performing
import Clausal.Proofs.Reading

/-! Where the names of a program come from.

A unit shows some of its texts as they are, and these are called its names here. Every name is
spelled with the characters of one sentence, up to spaces. Comments, flags, strings and target code
give no names at all, because the rules that quote their text are asked before all others.
-/

set_option autoImplicit false

namespace Clausal

namespace Text

theorem isPrefix_trimBy (p : Char → Bool) (cs : List Char) : trimBy p cs <+: cs.dropWhile p := by
  rw [← List.reverse_suffix, trimBy, List.reverse_reverse]
  exact List.dropWhile_suffix p

theorem isInfix_trimBy (p : Char → Bool) (cs : List Char) : trimBy p cs <:+: cs :=
  (isPrefix_trimBy p cs).isInfix.trans (List.dropWhile_suffix p).isInfix

theorem trimBy_subset (p : Char → Bool) (cs : List Char) : trimBy p cs ⊆ cs :=
  (isInfix_trimBy p cs).subset

theorem cutFirst_subset {separator : Char} {cs before after : List Char}
    (cut : cutFirst separator cs = some (before, after)) : before ⊆ cs ∧ after ⊆ cs := by
  rw [(cutFirst_eq_some cut).1]
  simp

/-- The pieces of a text are parts of it, and no separator stands in them. -/
theorem of_mem_splitOnP {p : Char → Bool} {cs piece : List Char} (member : piece ∈ cs.splitOnP p) :
    piece <:+: cs ∧ ∀ c ∈ piece, p c = false := by
  induction length : cs.length using Nat.strongRecOn generalizing cs with
  | _ _ ih =>
    cases found : cs.find? p with
    | none =>
      have uncut : ∀ c ∈ cs, p c = false := by simpa using List.find?_eq_none.mp found
      rw [List.splitOnP_eq_singleton uncut, List.mem_singleton] at member
      subst member
      exact ⟨List.infix_refl _, uncut⟩
    | some separator =>
      obtain ⟨holds, first, rest, rfl, before⟩ := List.find?_eq_some_iff_append.mp found
      have before : ∀ c ∈ first, p c = false := by simpa using before
      rw [List.splitOnP_append_cons_of_forall_mem before separator holds] at member
      rcases List.mem_cons.mp member with rfl | later
      · exact ⟨(List.prefix_append _ _).isInfix, before⟩
      · have shorter : rest.length < (first ++ separator :: rest).length := by
          rw [List.length_append, List.length_cons]
          omega
        obtain ⟨part, free⟩ := ih _ (length ▸ shorter) later rfl
        exact ⟨part.trans ((List.suffix_cons _ _).trans (List.suffix_append _ _)).isInfix, free⟩

theorem of_mem_splitOn {separator : Char} {cs piece : List Char}
    (member : piece ∈ cs.splitOn separator) : piece <:+: cs ∧ separator ∉ piece := by
  rw [List.splitOn_eq_splitOnP] at member
  obtain ⟨part, free⟩ := of_mem_splitOnP member
  exact ⟨part, fun inside => by simpa using free separator inside⟩

theorem mem_intercalate {separator : List Char} {pieces : List (List Char)} {c : Char}
    (member : c ∈ separator.intercalate pieces) :
    c ∈ separator ∨ ∃ piece ∈ pieces, c ∈ piece := by
  induction pieces with
  | nil => cases member
  | cons first others ih =>
    cases others with
    | nil => exact .inr ⟨first, by simp, by simpa using member⟩
    | cons second others =>
      rw [List.intercalate_cons_cons, List.mem_append, List.mem_append] at member
      rcases member with (early | between) | late
      · exact .inr ⟨first, by simp, early⟩
      · exact .inl between
      · refine (ih late).imp_right fun found => ?_
        obtain ⟨piece, inside, spelled⟩ := found
        exact ⟨piece, by simp [inside], spelled⟩

theorem squeeze_subset (cs : List Char) : squeeze cs ⊆ ' ' :: cs := by
  intro c member
  rcases mem_intercalate member with space | ⟨word, inside, spelled⟩
  · exact List.mem_cons.mpr (.inl (List.mem_singleton.mp space))
  · have piece := (List.mem_filter.mp inside).1
    exact List.mem_cons_of_mem _ ((of_mem_splitOnP piece).1.subset spelled)

/-- A name that is spelled with the characters of a text, and spaces. -/
def Spells (text name : String) : Prop :=
  name.toList ⊆ ' ' :: text.toList

theorem spells_ofList {text : String} {cs : List Char} (part : cs ⊆ ' ' :: text.toList) :
    Spells text (String.ofList cs) := by
  rw [Spells, String.toList_ofList]
  exact part

theorem spells_self (text : String) : Spells text text :=
  List.subset_cons_of_subset _ (List.Subset.refl _)

end Text

open Text

theorem Sentence.spells_head (sentence : Sentence) : Spells sentence.text sentence.head := by
  unfold head parts
  split
  · next cut => exact spells_ofList (List.subset_cons_of_subset _ (cutFirst_subset cut).1)
  · exact spells_self _

theorem Sentence.spells_body (sentence : Sentence) : Spells sentence.text sentence.body := by
  unfold body parts
  split
  · next cut => exact spells_ofList (List.subset_cons_of_subset _ (cutFirst_subset cut).2)
  · exact List.nil_subset _

namespace AccessorPath

/-- All that a path names. -/
def names (path : AccessorPath) : List String :=
  path.item :: path.members ++ path.method.toList ++ path.parameters

variable {text name : String} {cs : List Char}

theorem mem_keepNonempty {parts : List (List Char)} (member : name ∈ keepNonempty parts) :
    name ≠ "" ∧ name.toList ∈ parts := by
  obtain ⟨part, kept, rfl⟩ := List.mem_map.mp member
  obtain ⟨inside, written⟩ := List.mem_filter.mp kept
  rw [String.toList_ofList]
  exact ⟨by simpa using written, inside⟩

theorem methodName?_eq_some_iff :
    methodName? cs = some name ↔ name ≠ "" ∧ name.toList = trimWhite cs := by
  have shown : name.toList = trimWhite cs ↔ String.ofList (trimWhite cs) = name := by
    rw [← String.toList_inj, String.toList_ofList, eq_comm]
  by_cases empty : trimWhite cs = []
  · simp only [methodName?, empty, List.isEmpty_nil, if_pos, reduceCtorEq, false_iff]
    rintro ⟨written, none⟩
    exact written (String.toList_eq_nil_iff.mp none)
  · simp only [methodName?, List.isEmpty_iff, if_neg empty, Option.some.injEq, shown]
    refine ⟨?_, And.right⟩
    rintro rfl
    exact ⟨by simpa using empty, rfl⟩

theorem spells_keepNonempty {parts : List (List Char)}
    (spelled : ∀ part ∈ parts, part ⊆ ' ' :: text.toList) (member : name ∈ keepNonempty parts) :
    Spells text name :=
  spelled _ (mem_keepNonempty member).2

theorem spells_methodName? (part : cs ⊆ ' ' :: text.toList)
    (found : methodName? cs = some name) : Spells text name := by
  rw [Spells, (methodName?_eq_some_iff.mp found).2]
  exact List.Subset.trans (trimBy_subset _ cs) part

theorem spells_ofPath (part : cs ⊆ ' ' :: text.toList) :
    Spells text (ofPath cs).1 ∧ ∀ name ∈ (ofPath cs).2, Spells text name := by
  have pieces {piece : List Char} (member : piece ∈ cs.splitOn '.') : piece ⊆ ' ' :: text.toList :=
    List.Subset.trans (of_mem_splitOn member).1.subset part
  unfold ofPath
  split
  · exact ⟨List.nil_subset _, nofun⟩
  · next item members split =>
    refine ⟨spells_ofList (pieces (by simp [split])), fun name member => ?_⟩
    exact spells_keepNonempty (fun piece inside => pieces (by simp [split, inside])) member

theorem spells_ofCall (part : cs ⊆ ' ' :: text.toList) :
    (∀ name ∈ (ofCall cs).1, Spells text name) ∧ ∀ name ∈ (ofCall cs).2, Spells text name := by
  unfold ofCall
  split
  · next name parameters cut =>
    obtain ⟨before, after⟩ := cutFirst_subset cut
    refine ⟨fun method => spells_methodName? (List.Subset.trans before part), fun name member => ?_⟩
    refine spells_keepNonempty (fun parameter inside => ?_) member
    obtain ⟨piece, split, rfl⟩ := List.mem_map.mp inside
    exact List.Subset.trans (trimBy_subset _ piece)
      (List.Subset.trans (of_mem_splitOn split).1.subset (List.Subset.trans after part))
  · exact ⟨fun method => spells_methodName? part, nofun⟩

theorem ofText_of_cut {place call : List Char}
    (cut : cutFirst ' ' (squeeze text.toList) = some (place, call)) :
    ofText text = ⟨(ofPath place).1, (ofPath place).2, (ofCall call).1, (ofCall call).2⟩ := by
  simp only [ofText, cut]

theorem ofText_of_uncut (uncut : cutFirst ' ' (squeeze text.toList) = none) :
    ofText text =
      ⟨(ofPath (squeeze text.toList)).1, (ofPath (squeeze text.toList)).2, none, []⟩ := by
  simp only [ofText, uncut]

theorem spells_ofText (member : name ∈ (ofText text).names) : Spells text name := by
  have squeezed := squeeze_subset text.toList
  cases cut : cutFirst ' ' (squeeze text.toList) with
  | some pieces =>
    obtain ⟨before, after⟩ := cutFirst_subset cut
    obtain ⟨item, members⟩ := spells_ofPath (List.Subset.trans before squeezed)
    obtain ⟨method, parameters⟩ := spells_ofCall (List.Subset.trans after squeezed)
    rw [ofText_of_cut cut] at member
    simp only [names, List.cons_append, List.mem_cons, List.mem_append, Option.mem_toList] at member
    rcases member with rfl | (inMembers | inMethod) | inParameters
    · exact item
    · exact members name inMembers
    · exact method name inMethod
    · exact parameters name inParameters
  | none =>
    obtain ⟨item, members⟩ := spells_ofPath squeezed
    rw [ofText_of_uncut cut] at member
    simp only [names, Option.toList_none, List.append_nil, List.mem_cons] at member
    rcases member with rfl | inMembers
    · exact item
    · exact members name inMembers

end AccessorPath

/-- The texts that a unit shows as they are. -/
def SemanticUnit.names : SemanticUnit → List String
  | .accessor path => path.names
  | .switchHead name | .caseHead name => name.toList
  | .variableDeclaration _ dataType name => dataType :: name.toList
  | .twoWordCluster first second => [first, second]
  | .loopHead _ name | .loopIteratorName name | .functionHead name | .methodHead name
  | .functionReturnType name | .functionTypeReturn name | .structHead name | .classHead name
  | .typeDefinitionStart name | .command name | .importSource name | .languageDefinition name
  | .moduleName name | .sectionMarker name | .assignmentKey name | .functionCallStart name
  | .objectConstructionStart name | .reference name => [name]
  | _ => []

/-- The names in the units of a move. -/
def Move.names : Move → List String
  | .emit units => units.flatMap SemanticUnit.names
  | .opens opener => opener.units.flatMap SemanticUnit.names
  | .caseHead value => value.toList
  | .announces _ name | .startsBody _ name | .assigns name => [name]
  | .closeAccessor | .closes _ | .elif | .unknown => []

namespace Situation

/-- Whether all that a move names is spelled in the sentence. -/
def Spells (s : Situation) (move : Move) : Prop :=
  ∀ name ∈ move.names, Text.Spells s.text name

variable {s : Situation} {move : Move} {name : String}

theorem spells_of_nameless (nameless : move.names = []) : s.Spells move := by
  rw [Spells, nameless]
  nofun

theorem spells_of_named (named : move.names = [name]) (spelled : Text.Spells s.text name) :
    s.Spells move := by
  rw [Spells, named]
  simpa using spelled

theorem spells_body? (found : s.body? = some name) : Text.Spells s.text name := by
  unfold body? at found
  split at found
  · cases found
  · cases found
    exact s.sentence.spells_body

theorem contentRule_spells (chosen : contentRule s = some move) : s.Spells move := by
  unfold contentRule at chosen
  split at chosen
  case h_4 => cases chosen
  all_goals cases chosen; exact spells_of_nameless rfl

theorem literalRule_spells (chosen : literalRule s = some move) : s.Spells move := by
  unfold literalRule at chosen
  split at chosen
  · cases chosen; exact spells_of_nameless rfl
  · cases chosen; exact spells_of_nameless rfl
  · obtain ⟨literal, read, rfl⟩ := Option.map_eq_some_iff.mp chosen
    apply spells_of_nameless
    obtain ⟨_, rfl⟩ | ⟨_, rfl⟩ | ⟨_, rfl⟩ | ⟨_, rfl⟩ := Literal.read?_eq_some read <;> rfl

theorem accessorRule_spells (chosen : accessorRule s = some move) : s.Spells move := by
  have path : s.Spells (.emit [.accessor (AccessorPath.ofText s.text)]) := by
    intro name member
    simp only [Move.names, List.flatMap_cons, List.flatMap_nil, List.append_nil,
      SemanticUnit.names] at member
    exact AccessorPath.spells_ofText member
  unfold accessorRule at chosen
  split at chosen
  case h_2 | h_3 => cases chosen; exact path
  case h_6 => cases chosen
  all_goals cases chosen; exact spells_of_nameless rfl

theorem compoundRule_spells (chosen : compoundRule s = some move) : s.Spells move := by
  unfold compoundRule at chosen
  split at chosen
  case h_3 => cases chosen
  all_goals cases chosen; exact spells_of_nameless rfl

theorem operatorRule_spells (chosen : operatorRule s = some move) : s.Spells move := by
  unfold operatorRule at chosen
  split at chosen
  case h_6 => cases chosen
  all_goals cases chosen; exact spells_of_nameless rfl

theorem closingRule_spells (chosen : closingRule s = some move) : s.Spells move := by
  unfold closingRule at chosen
  split at chosen
  case isFalse => cases chosen
  split at chosen
  case h_4 =>
    obtain ⟨_, found, named⟩ := Option.bind_eq_some_iff.mp chosen
    split at named
    case h_6 => cases named
    all_goals cases named; exact spells_of_named rfl (spells_body? found)
  all_goals cases chosen; exact spells_of_nameless rfl

theorem command?_spells (chosen : s.command? = some move) : s.Spells move := by
  unfold command? at chosen
  split at chosen
  · cases chosen
    exact spells_of_named rfl (Text.spells_self _)
  · cases chosen

theorem openingByHead?_spells (chosen : s.openingByHead? = some move) : s.Spells move := by
  have optional {shown : Move} (same : shown.names = s.body?.toList) : s.Spells shown := by
    intro name member
    rw [same, Option.mem_toList] at member
    exact spells_body? member
  unfold openingByHead? at chosen
  split at chosen
  case h_1 => cases chosen; exact optional (List.append_nil _)
  case h_2 => cases chosen; exact optional rfl
  case h_3 | h_11 => exact command?_spells chosen
  case h_5 found | h_6 found =>
    split at chosen
    · cases chosen
      exact spells_of_named rfl (spells_body? found)
    · exact command?_spells chosen
  case h_7 found =>
    obtain ⟨_, _, rfl⟩ := Option.map_eq_some_iff.mp chosen
    exact spells_of_named rfl (spells_body? found)
  all_goals
    next found =>
    cases chosen
    exact spells_of_named rfl (spells_body? found)

theorem openingRule_spells (chosen : openingRule s = some move) : s.Spells move := by
  unfold openingRule at chosen
  split at chosen
  case isFalse => cases chosen
  split at chosen
  case h_6 =>
    split at chosen
    · cases chosen; exact spells_of_nameless rfl
    · cases chosen; exact spells_of_nameless rfl
  case h_11 =>
    split at chosen
    · cases chosen; exact spells_of_nameless rfl
    · exact openingByHead?_spells chosen
  case h_12 => exact openingByHead?_spells chosen
  all_goals cases chosen; exact spells_of_nameless rfl

theorem enumeratingRule_spells (chosen : enumeratingRule s = some move) : s.Spells move := by
  unfold enumeratingRule at chosen
  split at chosen
  case isFalse => cases chosen
  obtain ⟨_, found, chosen⟩ := Option.bind_eq_some_iff.mp chosen
  split at chosen
  · cases chosen
    exact spells_of_named rfl (spells_body? found)
  · obtain ⟨_, _, rfl⟩ := Option.map_eq_some_iff.mp chosen
    exact spells_of_named rfl (spells_body? found)

theorem assignmentRule_spells (chosen : assignmentRule s = some move) : s.Spells move := by
  unfold assignmentRule at chosen
  split at chosen
  · cases chosen
    exact spells_of_named rfl (Text.spells_self _)
  · cases chosen

theorem declarationRule_spells (chosen : declarationRule s = some move) : s.Spells move := by
  unfold declarationRule at chosen
  split at chosen
  case isFalse => cases chosen
  obtain ⟨body, found, rfl⟩ := Option.map_eq_some_iff.mp chosen
  dsimp only
  split
  · next dataType name cut =>
    obtain ⟨before, after⟩ := cutFirst_subset cut
    have body := spells_body? found
    intro shown member
    have named : shown = String.ofList dataType ∨ shown = String.ofList name := by
      simpa [Move.names, Opener.units, SemanticUnit.names] using member
    rcases named with rfl | rfl
    · exact spells_ofList (List.Subset.trans before body)
    · exact spells_ofList (List.Subset.trans after body)
  · exact spells_of_named rfl (spells_body? found)

theorem callRule_spells (chosen : callRule s = some move) : s.Spells move := by
  unfold callRule at chosen
  split at chosen
  case isFalse => cases chosen
  obtain ⟨_, found, named⟩ := Option.bind_eq_some_iff.mp chosen
  split at named
  case h_3 => cases named
  all_goals cases named; exact spells_of_named rfl (spells_body? found)

theorem endMarkerRule_spells (chosen : endMarkerRule s = some move) : s.Spells move := by
  unfold endMarkerRule at chosen
  split at chosen
  · obtain ⟨_, _, rfl⟩ := Option.map_eq_some_iff.mp chosen
    exact spells_of_nameless rfl
  · cases chosen

theorem twoWordRule_spells (chosen : twoWordRule s = some move) : s.Spells move := by
  obtain ⟨body, found, named⟩ := Option.bind_eq_some_iff.mp chosen
  split at named
  · cases named
  · cases named
    intro shown member
    have named : shown = s.head ∨ shown = body := by
      simpa [Move.names, SemanticUnit.names] using member
    rcases named with rfl | rfl
    · exact s.sentence.spells_head
    · exact spells_body? found

theorem referenceRule_spells (chosen : referenceRule s = some move) : s.Spells move := by
  unfold referenceRule at chosen
  split at chosen
  · cases chosen
  · cases chosen
    exact spells_of_named rfl (Text.spells_self _)

theorem move_spells (s : Situation) : s.Spells s.move := by
  unfold Situation.move
  cases found : rules.findSome? fun rule => rule s with
  | none => exact spells_of_nameless rfl
  | some move =>
    obtain ⟨rule, member, chosen⟩ := List.exists_of_findSome?_eq_some found
    simp only [rules, List.mem_cons, List.not_mem_nil, or_false] at member
    rcases member with rfl | rfl | rfl | rfl | rfl | rfl | rfl | rfl | rfl | rfl | rfl | rfl |
      rfl | rfl
    · exact contentRule_spells chosen
    · exact literalRule_spells chosen
    · exact accessorRule_spells chosen
    · exact compoundRule_spells chosen
    · exact operatorRule_spells chosen
    · exact closingRule_spells chosen
    · exact openingRule_spells chosen
    · exact enumeratingRule_spells chosen
    · exact assignmentRule_spells chosen
    · exact declarationRule_spells chosen
    · exact callRule_spells chosen
    · exact endMarkerRule_spells chosen
    · exact twoWordRule_spells chosen
    · exact referenceRule_spells chosen

end Situation

/-- The kinds of the regions, whose text is kept as it was written. -/
def Sentence.Kind.isVerbatim : Sentence.Kind → Bool
  | .comment | .compilerFlag | .string _ | .targetCode => true
  | _ => false

/-- What stands in a region is quoted, whatever it spells. -/
theorem Situation.move_of_isVerbatim (s : Situation) (verbatim : s.kind.isVerbatim = true) :
    s.move.names = [] := by
  cases kind : s.kind with
  | comment | compilerFlag | targetCode =>
    simp [move, rules, contentRule, kind, unit, Move.names, SemanticUnit.names]
  | string quote =>
    cases quote <;>
      simp [move, rules, contentRule, literalRule, kind, unit, Move.names, SemanticUnit.names]
  | _ =>
    rw [kind] at verbatim
    cases verbatim

/-- The names in the units of a reading. -/
def Reading.names (reading : Reading) : List String :=
  reading.units.flatMap SemanticUnit.names

/-- A move is performed with the names it has. -/
theorem ScopeState.Performs.names_eq {options : Options} {state : ScopeState} {sentence : Sentence}
    {move : Move} {reading : Reading} (performs : Performs options state sentence move reading) :
    reading.names = move.names := by
  cases performs with
  | emit | opens | elif | strayElif | reassigns | assigns | blank | degrades => rfl
  | @closes _ _ _ _ closing | @repairs _ _ _ _ closing =>
    cases move <;> cases closing <;> rfl
  | sharedCase | newCase => exact List.append_nil _
  | @announces routine | @startsBody routine => cases routine <;> rfl

namespace Reading

theorem names_endUnits (scopes : List Scope) :
    (scopes.filterMap Scope.endUnit?).flatMap SemanticUnit.names = [] := by
  rw [List.flatMap_eq_nil_iff]
  intro unit member
  obtain ⟨scope, _, ends⟩ := List.mem_filterMap.mp member
  cases scope <;> cases ends <;> rfl

theorem names_punctuate (reading : Reading) (kind : Sentence.Kind) :
    (reading.punctuate kind).names = reading.names := by
  unfold punctuate
  split
  · split
    · rfl
    · rw [names, endStatement_units, List.flatMap_append, names]
      split
      · simp [SemanticUnit.names]
      · rw [names_endUnits, List.append_nil]
  · unfold endElement
    split
    · simp [names, SemanticUnit.names]
    · rfl
  · rfl

end Reading

theorem ScopeState.read_names {options : Options} {state : ScopeState} {sentence : Sentence}
    {reading : Reading} {name : String} (read : state.read options sentence = .ok reading)
    (member : name ∈ reading.names) :
    sentence.kind.isVerbatim = false ∧ Spells sentence.text name := by
  obtain ⟨performed, succeeds, rfl⟩ := read_eq_ok read
  rw [Reading.names_punctuate, (performs_of_perform succeeds).names_eq] at member
  refine ⟨?_, (state.situation sentence).move_spells name member⟩
  rw [Bool.eq_false_iff]
  intro verbatim
  rw [(state.situation sentence).move_of_isVerbatim verbatim] at member
  cases member

/-- Every name in a program is spelled in one of its sentences, and not in a region. -/
theorem Reads.names {options : Options} {state : ScopeState} {sentences : List Sentence}
    {reading : Reading} {name : String} (run : Reads options state sentences reading)
    (member : name ∈ reading.names) :
    ∃ sentence ∈ sentences, sentence.kind.isVerbatim = false ∧ Spells sentence.text name := by
  induction run with
  | nil => cases member
  | @cons state sentence rest first others read _ ih =>
    rw [Reading.names, Reading.followedBy, List.flatMap_append, List.mem_append] at member
    rcases member with early | late
    · exact ⟨sentence, List.mem_cons_self, ScopeState.read_names read early⟩
    · obtain ⟨spelling, inside, spelled⟩ := ih late
      exact ⟨spelling, List.mem_cons_of_mem _ inside, spelled⟩

end Clausal
