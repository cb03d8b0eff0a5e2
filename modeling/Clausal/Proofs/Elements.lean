import Clausal.Proofs.Moves
import Clausal.Proofs.Phrases
import Mathlib.Data.List.Chain

/-! Lists of elements in calls, arrays and objects.

A comma ends the assignment of the value in front of it. Behind a string there is nothing left for
the comma to end, so the assignment of a string stays open until something else ends it: the next
key, the next comma behind a number, or the semicolon.
-/

set_option autoImplicit false

namespace Clausal

namespace Text

def isWordChar (c : Char) : Bool :=
  c.isLower || c.isDigit || c == '_'

/-- A letter in lower case, then letters, digits and underscores. -/
def isIdentifier : List Char → Bool
  | [] => false
  | first :: rest => first.isLower && rest.all isWordChar

end Text

structure Identifier where
  text : String
  spelled : Text.isIdentifier text.toList = true

/-- A key is no literal. -/
structure Key extends Identifier where
  free : Literal.keyword? text = none

/-- An integer in decimal digits. -/
structure Numeral where
  text : String
  digits : Decimal.areDigits text.toList = true
  bounded : Nat.ofDigitChars 10 text.toList 0 < Literal.integerBound

/-- Text between quotation marks that holds neither quotation marks nor backslashes. -/
structure Quotation where
  quote : Quote
  text : String
  written : text ≠ ""
  unquoted : ∀ quote : Quote, quote.char ∉ text.toList
  unescaped : '\\' ∉ text.toList

inductive Value where
  | number (numeral : Numeral)
  | string (quotation : Quotation)

/-- A value, perhaps under a key. -/
structure Element where
  key? : Option Key
  value : Value

/-- What holds a list of elements. -/
inductive Listing where
  | call (name : Identifier)
  | array
  | object

/-- The end of the assignment that is open, if one is. -/
def assignmentEnds (isOpen : Bool) : List SemanticUnit :=
  if isOpen then [.assignmentEnd] else []

@[simp] theorem assignmentEnds_false : assignmentEnds false = [] := rfl

@[simp] theorem assignmentEnds_true : assignmentEnds true = [.assignmentEnd] := rfl

namespace Value

def text : Value → String
  | .number numeral => numeral.text
  | .string quotation => (Region.string quotation.quote).enclose quotation.text

def unit : Value → SemanticUnit
  | .number numeral => .integer (Nat.ofDigitChars 10 numeral.text.toList 0)
  | .string quotation => (Region.string quotation.quote).unit quotation.text

def isString : Value → Bool
  | .number _ => false
  | .string _ => true

end Value

namespace Element

def keyText (element : Element) : String :=
  match element.key? with
  | some key => key.text ++ " = "
  | none => ""

def text (element : Element) : String :=
  element.keyText ++ element.value.text

/-- The key ends the assignment in front of it. -/
def keyUnits (isOpen : Bool) (element : Element) : List SemanticUnit :=
  match element.key? with
  | some key => assignmentEnds isOpen ++ [.assignmentKey key.text]
  | none => []

/-- The units of an element that is complete in itself. -/
def units (element : Element) : List SemanticUnit :=
  match element.key? with
  | some key => [.assignmentKey key.text, element.value.unit, .assignmentEnd]
  | none => [element.value.unit]

end Element

namespace Listing

def opener : Listing → Opener
  | .call name => .call name.text
  | .array => .array
  | .object => .object

def text : Listing → String
  | .call name => "call " ++ name.text
  | .array => "array"
  | .object => "object"

def startUnit : Listing → SemanticUnit
  | .call name => .functionCallStart name.text
  | .array => .arrayStart
  | .object => .objectStart

def endUnit : Listing → SemanticUnit
  | .call _ => .functionCallEnd
  | .array => .arrayEnd
  | .object => .objectEnd

/-- The source of a list of elements. -/
def source (listing : Listing) (elements : List Element) : String :=
  listing.text ++ ": " ++ ", ".intercalate (elements.map Element.text) ++ ";"

end Listing

/-- The units of elements behind which an assignment may be open. A key ends it, and so does the
comma behind a number. -/
def elementUnits (isOpen : Bool) : List Element → List SemanticUnit
  | [] => assignmentEnds isOpen
  | element :: rest =>
    let keyed := isOpen || element.key?.isSome
    element.keyUnits isOpen ++ element.value.unit ::
      if element.value.isString then elementUnits keyed rest
      else assignmentEnds keyed ++ elementUnits false rest

namespace Text

theorem plain_of_isWordChar {c : Char} (word : isWordChar c = true) :
    c ∉ Scanner.marks ∧ c ∉ layout := by
  have others : (Scanner.marks ++ layout).all (!isWordChar ·) = true := by decide
  have apart : c ∉ Scanner.marks ++ layout := by
    intro member
    have other := List.all_eq_true.mp others c member
    simp [word] at other
  simpa using apart

theorem phrase_of_word {text : List Char} (worded : text ≠ [])
    (word : text.all isWordChar = true) : Phrase text :=
  .word worded fun c member => plain_of_isWordChar (List.all_eq_true.mp word c member)

variable {text : List Char} (spelled : isIdentifier text = true)
include spelled

theorem exists_isLower : ∃ first ∈ text, first.isLower = true := by
  cases text with
  | nil => cases spelled
  | cons first rest =>
    simp only [isIdentifier, Bool.and_eq_true] at spelled
    exact ⟨first, by simp, spelled.1⟩

theorem plain_of_isIdentifier : ∀ c ∈ text, c ∉ Scanner.marks ∧ c ∉ layout := by
  intro c member
  apply plain_of_isWordChar
  cases text with
  | nil => cases spelled
  | cons first rest =>
    simp only [isIdentifier, Bool.and_eq_true, List.all_eq_true] at spelled
    rcases List.mem_cons.mp member with rfl | later
    · simp [isWordChar, spelled.1]
    · exact spelled.2 c later

end Text

theorem Identifier.ne_nil (name : Identifier) : name.text.toList ≠ [] := by
  obtain ⟨first, member, _⟩ := Text.exists_isLower name.spelled
  exact List.ne_nil_of_mem member

theorem Key.read?_eq_none (key : Key) : Literal.read? key.text = none := by
  obtain ⟨first, member, lower⟩ := Text.exists_isLower key.spelled
  have digit : first.isDigit = false := by
    have lower : (97 ≤ first.val && first.val ≤ 122) = true := lower
    grind [Char.isDigit]
  have point : first ≠ '.' := by
    rintro rfl
    cases lower
  rw [Literal.read?, key.free, Literal.number?_eq_none member digit point]
  rfl

namespace Numeral

variable (numeral : Numeral)

theorem isDigit {c : Char} (member : c ∈ numeral.text.toList) : c.isDigit = true := by
  have digits := numeral.digits
  simp only [Decimal.areDigits, Bool.and_eq_true, List.all_eq_true] at digits
  exact digits.2 c member

theorem ne_nil : numeral.text.toList ≠ [] := by
  intro empty
  have digits := numeral.digits
  rw [empty] at digits
  cases digits

theorem phrase : Text.Phrase numeral.text.toList := by
  apply Text.phrase_of_word numeral.ne_nil
  rw [List.all_eq_true]
  intro c member
  simp [Text.isWordChar, numeral.isDigit member]

theorem read? : Literal.read? numeral.text =
    some (.integer (Nat.ofDigitChars 10 numeral.text.toList 0)) := by
  obtain ⟨c, member⟩ := List.exists_mem_of_ne_nil _ numeral.ne_nil
  have pointless : '.' ∉ numeral.text.toList := fun point => by
    have digit := numeral.isDigit point
    cases digit
  rw [Literal.read?, Literal.keyword?_eq_none member (numeral.isDigit member) (by decide), Literal.number?, Decimal.read?,
    Text.cutFirst_eq_none_iff.mpr pointless]
  simp [numeral.digits, pointless, numeral.bounded]

end Numeral

namespace Quotation

theorem admits (quotation : Quotation) :
    (Region.string quotation.quote).Admits quotation.text.toList := by
  refine ⟨by simpa using quotation.written, Text.endsEscaping_of_notMem quotation.unescaped, ?_⟩
  intro before after split
  exact absurd (by simp [split]) (quotation.unquoted quotation.quote)

end Quotation

/-- There is no head to turn into a body. -/
theorem ScopeState.enter_empty (sentence : Sentence) : ({} : ScopeState).enter sentence = {} := by
  unfold enter
  split <;> rfl

namespace Listing

variable (listing : Listing) (isOpen : Bool) {options : Options}

/-- The state inside the list, with or without an open assignment. -/
def inside : ScopeState :=
  { nesting := ⟨(if isOpen then [.assignment] else []) ++ [listing.opener.scope]⟩ }

theorem endElement_inside (units : List SemanticUnit) :
    ({ units, state := listing.inside isOpen } : Reading).endElement =
      { units := units ++ assignmentEnds isOpen, state := listing.inside false } := by
  cases isOpen with
  | false =>
    rw [assignmentEnds_false, List.append_nil]
    cases listing <;> rfl
  | true => rfl

theorem endStatement_inside (units : List SemanticUnit) :
    ({ units, state := listing.inside isOpen } : Reading).endStatement =
      { units := units ++ (assignmentEnds isOpen ++ [listing.endUnit]), state := {} } := by
  cases listing <;> cases isOpen <;> rfl

theorem phrase : Text.Phrase listing.text.toList := by
  cases listing with
  | array | object => exact Text.phrase_of_word (by decide) (by decide)
  | call name =>
    have verb : Text.Phrase "call".toList := Text.phrase_of_word (by decide) (by decide)
    have whole := verb.append_word name.ne_nil (Text.plain_of_isIdentifier name.spelled)
    have spelled : (Listing.call name).text.toList = "call".toList ++ ' ' :: name.text.toList := by
      simp [text]
    rwa [spelled]

theorem move_head (span : Span) :
    (({} : ScopeState).situation ⟨.opening, listing.text, span⟩).move = .opens listing.opener := by
  cases listing with
  | array => exact Situation.move_of_compound _ rfl (by decide : Literal.read? "array" = none) rfl
  | object => exact Situation.move_of_compound _ rfl (by decide : Literal.read? "object" = none) rfl
  | call name =>
    let sentence : Sentence := ⟨.opening, (Listing.call name).text, span⟩
    have parts : sentence.parts = ("call", name.text) := by
      have cut : Text.cutFirst ' ' sentence.text.toList =
          some ("call".toList, name.text.toList) := by
        simp [sentence, text, Text.cutFirst]
      simp [Sentence.parts, cut]
    have body : (({} : ScopeState).situation sentence).body? = some name.text :=
      Situation.body?_eq_some_iff.mpr ⟨congrArg Prod.snd parts, by simpa using name.ne_nil⟩
    have outside : (({} : ScopeState).situation sentence).current ≠ .commandBody := by
      have outermost : (({} : ScopeState).situation sentence).current = Nesting.outermost :=
        congrArg (fun state : ScopeState => state.nesting.current) (ScopeState.enter_empty sentence)
      rw [outermost]
      decide
    exact Situation.move_of_call _ rfl (congrArg Prod.fst parts) body outside

theorem read_head (span : Span) :
    ({} : ScopeState).read options ⟨.opening, listing.text, span⟩ = .ok
      { units := [listing.startUnit], state := listing.inside false } := by
  rw [ScopeState.read_eq, listing.move_head, ScopeState.enter_empty]
  cases listing <;> rfl

theorem adds_head : Adds options {} (listing.text ++ ":") [listing.startUnit]
    (listing.inside false) :=
  .sentence listing.phrase rfl (by decide) (by decide) listing.read_head

theorem adds_key (key : Key) : Adds options (listing.inside isOpen) (key.text ++ " = ")
    (assignmentEnds isOpen ++ [.assignmentKey key.text]) (listing.inside true) := by
  have word := Text.plain_of_isIdentifier key.spelled
  apply Adds.key (.word key.ne_nil word)
  intro span
  have move := ((listing.inside isOpen).situation ⟨.assignmentKey, key.text, span⟩).move_of_key rfl
    key.read?_eq_none
  rw [ScopeState.read_of_unpunctuated, move]
  · cases listing <;> cases isOpen <;> rfl
  all_goals simp

theorem adds_keyText (element : Element) : Adds options (listing.inside isOpen) element.keyText
    (element.keyUnits isOpen) (listing.inside (isOpen || element.key?.isSome)) := by
  unfold Element.keyText Element.keyUnits
  cases element.key? with
  | none => simpa using Adds.nothing
  | some key => simpa using listing.adds_key isOpen key

theorem read_number {kind : Sentence.Kind} (numeral : Numeral)
    (mark : kind = .closing ∨ kind = .enumerating) (span : Span) :
    (listing.inside isOpen).read options ⟨kind, numeral.text, span⟩ = .ok
      (({ units := [(Value.number numeral).unit], state := listing.inside isOpen } :
        Reading).punctuate kind) := by
  have move := ((listing.inside isOpen).situation ⟨kind, numeral.text, span⟩).move_of_literal mark
    numeral.read?
  have enter :
      (listing.inside isOpen).enter ⟨kind, numeral.text, span⟩ = listing.inside isOpen := by
    apply ScopeState.enter_of_ne_opening
    rcases mark with rfl | rfl <;> exact nofun
  rw [ScopeState.read_eq, move, enter]
  rfl

/-- The semicolon behind the last string ends the list. -/
theorem adds_end : Adds options (listing.inside isOpen) ";"
    (assignmentEnds isOpen ++ [listing.endUnit]) {} := by
  apply Adds.semicolon
  intro span
  have blank : (listing.inside isOpen).read options ⟨.closing, "", span⟩ = .ok
      ({ units := [], state := listing.inside isOpen } : Reading).endStatement := rfl
  rw [blank]
  exact congrArg Except.ok (listing.endStatement_inside isOpen [])

theorem adds_string (quotation : Quotation) : Adds options (listing.inside isOpen)
    (Value.string quotation).text [(Value.string quotation).unit] (listing.inside isOpen) := by
  have adds : Adds options (listing.inside isOpen) _ _ _ := .contents rfl quotation.admits
  have verbatim : (Region.string quotation.quote).text quotation.text = quotation.text :=
    String.ofList_toList
  rwa [verbatim] at adds

theorem adds_comma (value : Value) : Adds options (listing.inside isOpen) (value.text ++ ",")
    (value.unit :: if value.isString then [] else assignmentEnds isOpen)
    (listing.inside (isOpen && value.isString)) := by
  cases value with
  | string quotation =>
    have adds : Adds options (listing.inside isOpen) _ _ _ :=
      (listing.adds_string isOpen quotation).append .comma
    simpa [Value.isString] using adds
  | number numeral =>
    have read (span : Span) :
        (listing.inside isOpen).read options ⟨.enumerating, numeral.text, span⟩ = .ok
          { units := [(Value.number numeral).unit] ++ assignmentEnds isOpen
            state := listing.inside false } := by
      rw [listing.read_number isOpen numeral (.inr rfl)]
      exact congrArg Except.ok (listing.endElement_inside isOpen _)
    have adds : Adds options (listing.inside isOpen) (numeral.text ++ ",") _ _ :=
      .sentence numeral.phrase rfl (by decide) (by decide) read
    simpa [Value.isString, Value.text] using adds

theorem adds_semicolon (value : Value) : Adds options (listing.inside isOpen) (value.text ++ ";")
    (value.unit :: (assignmentEnds isOpen ++ [listing.endUnit])) {} := by
  cases value with
  | string quotation =>
    exact (listing.adds_string isOpen quotation).append (listing.adds_end isOpen)
  | number numeral =>
    have read (span : Span) :
        (listing.inside isOpen).read options ⟨.closing, numeral.text, span⟩ = .ok
          { units := [(Value.number numeral).unit] ++ (assignmentEnds isOpen ++ [listing.endUnit])
            state := {} } := by
      rw [listing.read_number isOpen numeral (.inl rfl)]
      exact congrArg Except.ok (listing.endStatement_inside isOpen _)
    exact .sentence numeral.phrase rfl (by decide) (by decide) read

/-- Elements are read up to the semicolon behind the last one. -/
theorem adds_elements (elements : List Element) : Adds options (listing.inside isOpen)
    (", ".intercalate (elements.map Element.text) ++ ";")
    (elementUnits isOpen elements ++ [listing.endUnit]) {} := by
  induction elements generalizing isOpen with
  | nil => exact listing.adds_end isOpen
  | cons element rest ih =>
    have key : Adds options _ _ _ _ := listing.adds_keyText isOpen element
    rw [elementUnits]
    generalize (isOpen || element.key?.isSome) = keyed at key
    cases rest with
    | nil =>
      have adds := key.append (listing.adds_semicolon keyed element.value)
      cases element.value.isString <;>
        simpa [elementUnits, Element.text, String.append_assoc] using adds
    | cons next rest =>
      have value := (key.append (listing.adds_comma keyed element.value)).append .space
      have adds := value.append (ih _)
      have separator : ", " = "," ++ " " := rfl
      rw [List.map_cons, List.map_cons, String.intercalate_cons_cons, ← List.map_cons, Element.text]
      cases isString : element.value.isString <;>
        simpa [isString, separator, String.append_assoc] using adds

end Listing

/-- Whether the element is a string under a key. -/
def Element.isKeyedString (element : Element) : Bool :=
  element.key?.isSome && element.value.isString

theorem Value.unit_ne_assignmentEnd (value : Value) : value.unit ≠ .assignmentEnd := by
  cases value with
  | number => exact nofun
  | string quotation => cases quote : quotation.quote <;> simp [unit, quote, Region.unit]

theorem elementUnits_eq_iff (isOpen : Bool) (elements : List Element) :
    elementUnits isOpen elements = assignmentEnds isOpen ++ elements.flatMap Element.units ↔
      (isOpen = true → ∀ first ∈ elements.head?, first.key?.isSome = true) ∧
        elements.IsChain fun element next =>
          element.isKeyedString = true → next.key?.isSome = true := by
  induction elements generalizing isOpen with
  | nil => simp [elementUnits]
  | cons element rest ih =>
    obtain ⟨key?, value⟩ := element
    rw [List.isChain_cons]
    cases key? with
    | none =>
      cases isOpen with
      | true =>
        -- The value comes before the end of the assignment that it has no part in.
        simp [elementUnits, Element.keyUnits, value.unit_ne_assignmentEnd]
      | false =>
        cases value <;>
          simpa [elementUnits, Element.keyUnits, Element.units, Element.isKeyedString,
            Value.isString] using ih false
    | some key =>
      cases value with
      | number =>
        simpa [elementUnits, Element.keyUnits, Element.units, Element.isKeyedString,
          Value.isString] using ih false
      | string =>
        -- The rest has to end the assignment.
        simpa [elementUnits, Element.keyUnits, Element.units, Element.isKeyedString,
          Value.isString] using ih true

/-- A list of elements is compiled without a report, and nothing is left open. Its units are those
of the elements one after the other exactly if every string under a key is followed by another key
or by the end of the list. A value without a key comes before the end of the assignment behind such
a string. -/
theorem elements_compiled (options : Options) (listing : Listing) (elements : List Element) :
    (∃ sentences, compile options (listing.source elements) =
      { sentences
        units := listing.startUnit :: (elementUnits false elements ++ [listing.endUnit]) }) ∧
    ((compile options (listing.source elements)).units =
        listing.startUnit :: (elements.flatMap Element.units ++ [listing.endUnit]) ↔
      elements.IsChain fun element next =>
        element.isKeyedString = true → next.key?.isSome = true) := by
  have start : Adds options {} (listing.text ++ ":" ++ " ") [listing.startUnit]
      (listing.inside false) := by
    simpa using listing.adds_head.append .space
  obtain ⟨sentences, compiled⟩ := (start.append (listing.adds_elements false elements)).compiled
  have source : listing.source elements = listing.text ++ ":" ++ " " ++
      (", ".intercalate (elements.map Element.text) ++ ";") := by
    simp [Listing.source, String.append_assoc]
  rw [source, compiled]
  refine ⟨⟨sentences, rfl⟩, ?_⟩
  simpa using elementUnits_eq_iff false elements

/-- The number comes before the end of the assignment that it has no part in. -/
theorem keyed_string_left_open :
    let listing := Listing.call ⟨"f", rfl⟩
    let elements : List Element :=
      [⟨some ⟨⟨"k", rfl⟩, rfl⟩,
          .string ⟨.double, "s", by decide, fun quote => by cases quote <;> decide, by decide⟩⟩,
        ⟨none, .number ⟨"1", rfl, by decide⟩⟩]
    listing.source elements = "call f: k = \"s\", 1;" ∧
      (compile {} "call f: k = \"s\", 1;").units = [.functionCallStart "f", .assignmentKey "k",
        .safeString "s", .integer 1, .assignmentEnd, .functionCallEnd] ∧
      (compile {} "call f: k = \"s\", 1;").units ≠
        listing.startUnit :: (elements.flatMap Element.units ++ [listing.endUnit]) := by
  decide +kernel

end Clausal
