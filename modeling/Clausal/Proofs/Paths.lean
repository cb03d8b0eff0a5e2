import Clausal.Proofs.Squeezing

/-! Accessor paths and what is shown of them.

A path is taken from squeezed text, and what is shown of it is squeezed again, so the separators
that are shown are the ones that it is cut at. Two kinds of paths are lost in print. Parameters are
shown only behind a method, and where neither an item nor a member stands in front, the method takes
their place.
-/

set_option autoImplicit false

namespace Clausal

namespace AccessorPath

open Text

variable {path : AccessorPath}

/-- The text of an item or a member. -/
def IsName (name : String) : Prop :=
  ∀ c ∈ name.toList, isWhite c = false ∧ c ≠ '.'

/-- What the parts of a path are like when it is taken from a text. -/
structure Regular (path : AccessorPath) : Prop where
  item : IsName path.item
  members : ∀ member ∈ path.members, member ≠ "" ∧ IsName member
  method : ∀ name ∈ path.method, name ≠ "" ∧ ':' ∉ name.toList ∧ Squeezed name.toList
  parameters : ∀ parameter ∈ path.parameters,
    parameter ≠ "" ∧ ',' ∉ parameter.toList ∧ Squeezed parameter.toList

/-- The item and the members, as they are shown. -/
def place (path : AccessorPath) : List Char :=
  ['.'].intercalate (path.item.toList :: path.members.map String.toList)

/-- A method and its parameters, as they are shown. -/
def call (method : String) (parameters : List String) : List Char :=
  method.toList ++ if parameters = [] then []
    else ':' :: ' ' :: [',', ' '].intercalate (parameters.map String.toList)

theorem toList_render (path : AccessorPath) :
    path.render.toList = path.place ++
      match path.method with
      | none => []
      | some method => ' ' :: call method path.parameters := by
  have place : path.place = path.item.toList ++
      (path.members.map ("." ++ ·)).flatMap String.toList := by
    simp [AccessorPath.place, intercalate_cons, List.flatMap_map]
  rw [render, String.toList_append, String.toList_append, String.toList_join, ← place]
  cases path.method with
  | none => rfl
  | some method =>
    by_cases none : path.parameters = [] <;> simp [call, none, String.toList_intercalate]

theorem keepNonempty_toList {names : List String} (named : ∀ name ∈ names, name ≠ "") :
    keepNonempty (names.map String.toList) = names := by
  have kept : (names.map String.toList).filter (fun part => !part.isEmpty) =
      names.map String.toList := by
    rw [List.filter_eq_self]
    intro part member
    obtain ⟨name, inside, rfl⟩ := List.mem_map.mp member
    simpa using named name inside
  rw [keepNonempty, kept, List.map_map]
  simp

theorem ofPath_regular {text : List Char} (plain : ∀ c ∈ text, isWhite c = false) :
    IsName (ofPath text).1 ∧ ∀ member ∈ (ofPath text).2, member ≠ "" ∧ IsName member := by
  have named {piece : List Char} (member : piece ∈ text.splitOn '.') :
      ∀ c ∈ piece, isWhite c = false ∧ c ≠ '.' := by
    obtain ⟨part, pointless⟩ := of_mem_splitOn member
    exact fun c inside => ⟨plain c (part.subset inside), fun point => pointless (point ▸ inside)⟩
  unfold ofPath
  cases pieces : text.splitOn '.' with
  | nil => exact absurd pieces (List.splitOn_ne_nil _ _)
  | cons item members =>
    rw [pieces] at named
    refine ⟨fun c inside => ?_, fun member kept => ?_⟩
    · rw [String.toList_ofList] at inside
      exact named (List.mem_cons_self) c inside
    · obtain ⟨written, inside⟩ := mem_keepNonempty kept
      exact ⟨written, named (List.mem_cons_of_mem _ inside)⟩

theorem ofCall_regular {text : List Char} (squeezed : Squeezed text) :
    (∀ name ∈ (ofCall text).1, name ≠ "" ∧ ':' ∉ name.toList ∧ Squeezed name.toList) ∧
    ∀ parameter ∈ (ofCall text).2,
      parameter ≠ "" ∧ ',' ∉ parameter.toList ∧ Squeezed parameter.toList := by
  have method {part : List Char} (inside : part <:+: text) (free : ':' ∉ part) :
      ∀ name ∈ methodName? part, name ≠ "" ∧ ':' ∉ name.toList ∧ Squeezed name.toList := by
    intro name found
    obtain ⟨written, shown⟩ := methodName?_eq_some_iff.mp found
    rw [shown]
    exact ⟨written, fun colon => free (trimBy_subset _ _ colon), squeezed.trimWhite inside⟩
  unfold ofCall
  cases cut : cutFirst ':' text with
  | none => exact ⟨method (List.infix_refl _) (cutFirst_eq_none_iff.mp cut), nofun⟩
  | some pieces =>
    obtain ⟨whole, free⟩ := cutFirst_eq_some cut
    refine ⟨method (whole ▸ (List.prefix_append _ _).isInfix) free, fun parameter kept => ?_⟩
    obtain ⟨written, inside⟩ := mem_keepNonempty kept
    obtain ⟨part, member, trimmed⟩ := List.mem_map.mp inside
    obtain ⟨within, commaless⟩ := of_mem_splitOn member
    have behind : pieces.2 <:+ text :=
      whole ▸ (List.suffix_cons _ _).trans (List.suffix_append _ _)
    rw [← trimmed]
    exact ⟨written, fun comma => commaless (trimBy_subset _ _ comma),
      squeezed.trimWhite (within.trans behind.isInfix)⟩

theorem regular_ofText (text : String) : Regular (ofText text) := by
  have squeezed := squeezed_squeeze text.toList
  have plain {part : List Char} (inside : part ⊆ squeeze text.toList) (free : ' ' ∉ part) :
      ∀ c ∈ part, isWhite c = false := by
    intro c member
    rw [← Bool.not_eq_true]
    exact fun white => free (squeezed.white c (inside member) white ▸ member)
  cases cut : cutFirst ' ' (squeeze text.toList) with
  | none =>
    have place := ofPath_regular (plain (List.Subset.refl _) (cutFirst_eq_none_iff.mp cut))
    rw [ofText_of_uncut cut]
    exact ⟨place.1, place.2, nofun, nofun⟩
  | some pieces =>
    have place := ofPath_regular (plain (cutFirst_subset cut).1 (cutFirst_eq_some cut).2)
    have call := ofCall_regular (squeezed.cut cut)
    rw [ofText_of_cut cut]
    exact ⟨place.1, place.2, call.1, call.2⟩

theorem ofPath_place (regular : path.Regular) : ofPath path.place = (path.item, path.members) := by
  have cut : path.place.splitOn '.' = path.item.toList :: path.members.map String.toList := by
    apply List.splitOn_intercalate
    · intro piece member point
      rcases List.mem_cons.mp member with rfl | member
      · exact (regular.item _ point).2 rfl
      · obtain ⟨name, inside, rfl⟩ := List.mem_map.mp member
        exact ((regular.members name inside).2 _ point).2 rfl
    · simp
  have kept := keepNonempty_toList fun member inside => (regular.members member inside).1
  simp [ofPath, cut, kept]

theorem ofCall_call {method : String} (regular : path.Regular) (calls : path.method = some method) :
    ofCall (call method path.parameters) = (some method, path.parameters) := by
  obtain ⟨written, free, squeezed⟩ := regular.method method calls
  have name : methodName? method.toList = some method :=
    methodName?_eq_some_iff.mpr ⟨written, squeezed.trimWhite_eq.symm⟩
  by_cases none : path.parameters = []
  · have uncut : cutFirst ':' method.toList = Option.none := cutFirst_eq_none_iff.mpr free
    simp [call, ofCall, none, uncut, name]
  · have shown : ' ' :: [',', ' '].intercalate (path.parameters.map String.toList) =
        [','].intercalate (path.parameters.map fun parameter => ' ' :: parameter.toList) := by
      refine (cons_intercalate ' ' [','] (by simpa using none)).trans ?_
      rw [List.map_map]
      rfl
    have cut : ([','].intercalate (path.parameters.map fun parameter => ' ' :: parameter.toList)
        ).splitOn ',' = path.parameters.map fun parameter => ' ' :: parameter.toList := by
      apply List.splitOn_intercalate
      · intro piece member comma
        obtain ⟨parameter, inside, rfl⟩ := List.mem_map.mp member
        simp [(regular.parameters parameter inside).2.1] at comma
      · simpa using none
    have trimmed : (path.parameters.map fun parameter => ' ' :: parameter.toList).map trimWhite =
        path.parameters.map String.toList := by
      simp only [List.map_map, List.map_inj_left, Function.comp_apply]
      exact fun parameter inside => (regular.parameters parameter inside).2.2.trimWhite_cons
    have kept := keepNonempty_toList fun parameter inside => (regular.parameters parameter inside).1
    rw [call, if_neg none, shown, ofCall, cutFirst_append free]
    simp only [name, cut, trimmed, kept]

theorem Regular.place_plain (regular : path.Regular) : ∀ c ∈ path.place, isWhite c = false := by
  intro c member
  rcases mem_intercalate member with point | ⟨piece, inside, spelled⟩
  · cases List.mem_singleton.mp point
    rfl
  · rcases List.mem_cons.mp inside with rfl | inside
    · exact (regular.item c spelled).1
    · obtain ⟨name, named, rfl⟩ := List.mem_map.mp inside
      exact ((regular.members name named).2 c spelled).1

theorem Regular.spaceless (regular : path.Regular) : ' ' ∉ path.place :=
  fun space => Bool.noConfusion (regular.place_plain ' ' space)

theorem place_eq_nil_iff : path.place = [] ↔ path.item = "" ∧ path.members = [] := by
  cases members : path.members <;> simp [place, members, intercalate_cons]

section

variable {method : String}

theorem Regular.call_squeezed (regular : path.Regular) (calls : path.method = some method) :
    call method path.parameters ≠ [] ∧ Squeezed (call method path.parameters) := by
  obtain ⟨written, _, squeezed⟩ := regular.method method calls
  have named : method.toList ≠ [] := by simpa using written
  refine ⟨by simp [call, named], ?_⟩
  by_cases none : path.parameters = []
  · simpa [call, none] using squeezed
  · have worded : ∀ piece ∈ path.parameters.map String.toList, piece ≠ [] ∧ Squeezed piece := by
      intro piece member
      obtain ⟨parameter, inside, rfl⟩ := List.mem_map.mp member
      obtain ⟨written, _, squeezed⟩ := regular.parameters parameter inside
      exact ⟨by simpa using written, squeezed⟩
    have colon : Squeezed (method.toList ++ [':']) :=
      squeezed.append (.word (List.forall_mem_singleton.mpr rfl))
    have parameters := Squeezed.intercalate [','] (List.forall_mem_singleton.mpr rfl) worded
    have shown : call method path.parameters = method.toList ++ [':'] ++
        ' ' :: [',', ' '].intercalate (path.parameters.map String.toList) := by
      simp [call, none]
    rw [shown]
    refine colon.space parameters (by simp) (intercalate_ne_nil ?_ (by simpa using none))
    exact fun piece member => (worded piece member).1

theorem Regular.ofText_render_of_placed (regular : path.Regular) (calls : path.method = some method)
    (placed : path.place ≠ []) : ofText path.render = path := by
  obtain ⟨written, squeezed⟩ := regular.call_squeezed calls
  have shown : squeeze path.render.toList = path.place ++ ' ' :: call method path.parameters := by
    rw [toList_render, calls]
    exact ((Squeezed.word regular.place_plain).space squeezed placed written).squeeze_eq
  have cut : cutFirst ' ' (squeeze path.render.toList) =
      some (path.place, call method path.parameters) := by
    rw [shown, cutFirst_append regular.spaceless]
  rw [ofText_of_cut cut, ofPath_place regular, ofCall_call regular calls, ← calls]

theorem takeWhile_call (free : ':' ∉ method.toList) (parameters : List String) :
    (call method parameters).takeWhile (· ≠ ':') = method.toList := by
  rw [call, takeWhile_append_of_notMem free]
  split <;> simp

theorem ofCall_fst (text : List Char) :
    (ofCall text).1 = methodName? (text.takeWhile (· ≠ ':')) := by
  unfold ofCall
  cases cut : cutFirst ':' text with
  | none =>
    have whole : (text ++ []).takeWhile (· ≠ ':') = text ++ [] :=
      takeWhile_append_of_notMem (cutFirst_eq_none_iff.mp cut)
    rw [List.append_nil] at whole
    rw [whole]
  | some pieces =>
    obtain ⟨rfl, free⟩ := cutFirst_eq_some cut
    rw [takeWhile_append_of_notMem free, List.takeWhile_cons_of_neg (by simp), List.append_nil]

/-- Only points name nothing. -/
theorem eq_point_of_ofPath {text : List Char} (item : (ofPath text).1 = "")
    (members : (ofPath text).2 = []) : ∀ c ∈ text, c = '.' := by
  intro c member
  have whole : ['.'].intercalate (text.splitOn '.') = text := List.intercalate_splitOn '.'
  rw [← whole] at member
  rcases mem_intercalate member with point | ⟨piece, inside, spelled⟩
  · exact List.mem_singleton.mp point
  · unfold ofPath at item members
    cases pieces : text.splitOn '.' with
    | nil => exact absurd pieces (List.splitOn_ne_nil _ _)
    | cons first others =>
      rw [pieces] at item members inside
      have empty : piece = [] := by
        rcases List.mem_cons.mp inside with rfl | later
        · simpa using item
        · have dropped := List.filter_eq_nil_iff.mp (List.map_eq_nil_iff.mp members)
          simpa using dropped piece later
      simp [empty] at spelled

/-- What is left of a method behind a space in it is shorter than the method. -/
theorem ofCall_ne {first rest : List Char} {parameters : List String}
    (free : ':' ∉ method.toList) (uncalled : ':' ∉ first)
    (cut : call method parameters = first ++ ' ' :: rest) : (ofCall rest).1 ≠ some method := by
  rw [ofCall_fst]
  intro again
  have whole : method.toList = first ++ ' ' :: rest.takeWhile (· ≠ ':') := by
    rw [← takeWhile_call free parameters, cut, takeWhile_append_of_notMem uncalled,
      List.takeWhile_cons_of_pos (by simp)]
  have shorter := (isInfix_trimBy isWhite (rest.takeWhile (· ≠ ':'))).length_le
  rw [← trimWhite, ← (methodName?_eq_some_iff.mp again).2, whole, List.length_append,
    List.length_cons] at shorter
  omega

/-- Behind nothing the method is cut itself, at its first space. -/
theorem Regular.ofText_render_ne (regular : path.Regular) (calls : path.method = some method)
    (unplaced : path.place = []) : ofText path.render ≠ path := by
  intro same
  obtain ⟨written, squeezed⟩ := regular.call_squeezed calls
  have shown : squeeze path.render.toList = call method path.parameters := by
    rw [toList_render, calls, unplaced]
    exact (squeeze_space _).trans squeezed.squeeze_eq
  cases cut : cutFirst ' ' (squeeze path.render.toList) with
  | none =>
    rw [ofText_of_uncut cut] at same
    rw [← same] at calls
    cases calls
  | some pieces =>
    rw [ofText_of_cut cut] at same
    obtain ⟨itemless, memberless⟩ := place_eq_nil_iff.mp unplaced
    have pointed : ∀ c ∈ pieces.1, c = '.' := by
      apply eq_point_of_ofPath
      · exact (congrArg AccessorPath.item same).trans itemless
      · exact (congrArg AccessorPath.members same).trans memberless
    have uncalled : ':' ∉ pieces.1 := fun colon => absurd (pointed ':' colon) (by decide)
    have whole := shown.symm.trans (cutFirst_eq_some cut).1
    exact ofCall_ne (regular.method method calls).2.1 uncalled whole
      ((congrArg AccessorPath.method same).trans calls)

end

theorem Regular.ofText_render_iff (regular : path.Regular) :
    ofText path.render = path ↔ (path.method = none ∧ path.parameters = []) ∨
      (path.method ≠ none ∧ (path.item ≠ "" ∨ path.members ≠ [])) := by
  cases calls : path.method with
  | none =>
    have shown : squeeze path.render.toList = path.place := by
      rw [toList_render, calls, List.append_nil]
      exact (Squeezed.word regular.place_plain).squeeze_eq
    have uncut : cutFirst ' ' path.place = none := cutFirst_eq_none_iff.mpr regular.spaceless
    rw [ofText_of_uncut (shown ▸ uncut), shown, ofPath_place regular]
    constructor
    · intro same
      exact .inl ⟨rfl, (congrArg AccessorPath.parameters same).symm⟩
    · rintro (⟨_, none⟩ | ⟨some, _⟩)
      · rw [← calls, ← none]
      · contradiction
  | some method =>
    have named : path.place ≠ [] ↔ path.item ≠ "" ∨ path.members ≠ [] := by
      rw [Ne, place_eq_nil_iff, not_and_or]
    simp only [reduceCtorEq, false_and, false_or, ne_eq, not_false_eq_true, true_and]
    rw [← Ne, ← Ne, ← named]
    refine ⟨fun same unplaced => regular.ofText_render_ne calls unplaced same, ?_⟩
    exact regular.ofText_render_of_placed calls

/-- A path that is taken from a text is shown as a text that it can be taken from again, unless it
has parameters but no method, or a method but neither an item nor a member. -/
theorem ofText_render_eq_iff (text : String) :
    (ofText (ofText text).render = ofText text ↔
      ((ofText text).method = none ∧ (ofText text).parameters = []) ∨
        ((ofText text).method ≠ none ∧ ((ofText text).item ≠ "" ∨ (ofText text).members ≠ []))) ∧
    (∀ c ∈ (ofText text).item.toList, isWhite c = false ∧ c ≠ '.') ∧
    (∀ member ∈ (ofText text).members,
      member ≠ "" ∧ ∀ c ∈ member.toList, isWhite c = false ∧ c ≠ '.') ∧
    (∀ parameter ∈ (ofText text).parameters, parameter ≠ "" ∧ ',' ∉ parameter.toList) ∧
    ∀ name ∈ (ofText text).method, ':' ∉ name.toList := by
  have regular := regular_ofText text
  refine ⟨regular.ofText_render_iff, regular.item, regular.members, ?_, ?_⟩
  · intro parameter member
    obtain ⟨written, free, _⟩ := regular.parameters parameter member
    exact ⟨written, free⟩
  · intro name member
    exact (regular.method name member).2.1

example : ofText "x :1, 2" = ⟨"x", [], none, ["1", "2"]⟩ ∧ (ofText "x :1, 2").render = "x" :=
  ⟨rfl, rfl⟩

end AccessorPath

end Clausal
