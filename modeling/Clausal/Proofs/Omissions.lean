import Clausal.Proofs.Accessors

/-! Sentences that can be left out.

Contents, operators and the parts of an accessor mean one unit each and leave the scopes alone,
whatever their text says. So a program without some of them is the same program without their units:
it is accepted or refused alike, and only the number of the refused sentence changes.
-/

set_option autoImplicit false

namespace Clausal

/-- The entries of a list, each with a mark that tells whether it is kept. -/
abbrev Marked (α : Type) := List (α × Bool)

namespace Marked

variable {α : Type}

def all (entries : Marked α) : List α :=
  entries.map Prod.fst

def kept (entries : Marked α) : List α :=
  (entries.filter Prod.snd).map Prod.fst

@[simp] theorem length_all (entries : Marked α) : entries.all.length = entries.length :=
  List.length_map _

@[simp] theorem kept_cons_true (entry : α) (rest : Marked α) :
    kept ((entry, true) :: rest) = entry :: rest.kept := rfl

@[simp] theorem kept_append (first second : Marked α) :
    kept (first ++ second) = first.kept ++ second.kept := by
  simp [kept]

end Marked

/-- The units that each sentence adds, marked like the sentence. -/
def ScopeState.markedUnits (options : Options) (state : ScopeState) (entries : Marked Sentence) :
    Marked (List SemanticUnit) :=
  (state.unitsOfEach options entries.all).zip (entries.map Prod.snd)

theorem ScopeState.markedUnits_cons {options : Options} {state : ScopeState} {sentence : Sentence}
    {reading : Reading} (read : state.read options sentence = .ok reading) (mark : Bool)
    (rest : Marked Sentence) :
    state.markedUnits options ((sentence, mark) :: rest) =
      (reading.units, mark) :: reading.state.markedUnits options rest := by
  rw [markedUnits, Marked.all, List.map_cons, unitsOfEach_cons read]
  rfl

namespace Reads

variable {options : Options} {state : ScopeState} {entries : Marked Sentence} {reading : Reading}

theorem length_markedUnits (run : Reads options state entries.all reading) :
    (state.markedUnits options entries).length = entries.length := by
  have count := run.length_unitsOfEach
  simp [ScopeState.markedUnits, count]

theorem flatten_markedUnits (run : Reads options state entries.all reading) :
    (state.markedUnits options entries).all.flatten = reading.units := by
  have count := run.length_unitsOfEach
  have whole : (state.markedUnits options entries).all = state.unitsOfEach options entries.all :=
    List.map_fst_zip (by simp [count])
  rw [whole, run.flatten_unitsOfEach]

/-- A run goes through without sentences that only add a unit of their own, and comes to the same
state. -/
theorem omitting
    (content : ∀ sentence, (sentence, false) ∈ entries → sentence.kind.isContent = true)
    (run : Reads options state entries.all reading) :
    ∃ fewer, Reads options state entries.kept fewer ∧ fewer.state = reading.state ∧
      fewer.notices = reading.notices ∧
      fewer.units = (state.markedUnits options entries).kept.flatten ∧
      ∀ units, (units, false) ∈ state.markedUnits options entries → ∃ unit, units = [unit] := by
  induction entries generalizing state reading with
  | nil =>
    cases run
    exact ⟨.start state, .nil, rfl, rfl, rfl, nofun⟩
  | cons entry rest ih =>
    obtain ⟨sentence, mark⟩ := entry
    cases run with
    | @cons _ _ _ first others read tail =>
      have below : ∀ other, (other, false) ∈ rest → other.kind.isContent = true :=
        fun other member => content other (List.mem_cons_of_mem _ member)
      obtain ⟨fewer, run, states, notices, units, single⟩ := ih below tail
      rw [ScopeState.markedUnits_cons read]
      cases mark with
      | true =>
        refine ⟨first.followedBy fewer, .cons read run, states, ?_, ?_, ?_⟩
        · simp only [Reading.followedBy, notices]
        · simp only [Reading.followedBy, units, Marked.kept_cons_true, List.flatten_cons]
        · intro shown member
          simp only [List.mem_cons, Prod.mk.injEq, Bool.false_eq_true, and_false, false_or]
            at member
          exact single shown member
      | false =>
        -- The sentence is read in the state it leaves, so those behind it never see it.
        obtain ⟨unit, alone⟩ := state.read_content options (content sentence (by simp))
        obtain rfl : first = { units := [unit], state } := by
          rw [alone] at read
          exact (Except.ok.inj read).symm
        refine ⟨fewer, run, states, notices, units, ?_⟩
        intro shown member
        simp only [List.mem_cons, Prod.mk.injEq, and_true] at member
        rcases member with rfl | later
        · exact ⟨unit, rfl⟩
        · exact single shown later

end Reads

/-- Sentences that stand for a unit of their own, whatever they say, can be left out of a program
anywhere. It stays accepted, with the same findings and the same scopes left open, and loses the one
unit of each sentence that was left out; or it stays refused, for the same fault of the same
sentence. -/
theorem content_omitted (options : Options) (entries : Marked Sentence)
    (content : ∀ sentence, (sentence, false) ∈ entries → sentence.kind.isContent = true) :
    (∃ whole fewer, assemble options entries.all = .ok whole ∧
      assemble options entries.kept = .ok fewer ∧
      fewer.notices = whole.notices ∧ fewer.openScopes = whole.openScopes ∧
      let units := ({} : ScopeState).markedUnits options entries
      units.length = entries.length ∧ whole.units = units.all.flatten ∧
        fewer.units = units.kept.flatten ∧
        ∀ added, (added, false) ∈ units → ∃ unit, added = [unit]) ∨
    ∃ (before : Marked Sentence) (sentence : Sentence) (after : Marked Sentence) (fault : Fault),
      entries = before ++ (sentence, true) :: after ∧
      assemble options entries.all = .error ⟨before.length, fault⟩ ∧
      assemble options entries.kept = .error ⟨before.kept.length, fault⟩ := by
  cases result : assemble options entries.all with
  | ok whole =>
    left
    obtain ⟨reading, run, rfl⟩ := assemble_eq_ok_iff.mp result
    obtain ⟨fewer, rest, states, notices, units, single⟩ := run.omitting content
    refine ⟨_, _, rfl, assemble_eq_ok_iff.mpr ⟨fewer, rest, rfl⟩, ?_, ?_, run.length_markedUnits,
      run.flatten_markedUnits.symm, units, single⟩
    · rw [notices, states]
    · rw [states]
  | error rejection =>
    right
    obtain ⟨_, _, _, reading, refusal, split, run, failed, rfl⟩ := assemble_eq_error result
    obtain ⟨before, _, rfl, rfl, later⟩ := List.map_eq_append_iff.mp split
    obtain ⟨⟨sentence, mark⟩, after, rfl, rfl, rfl⟩ := List.map_eq_cons_iff.mp later
    have early : ∀ other, (other, false) ∈ before → other.kind.isContent = true :=
      fun other member => content other (List.mem_append_left _ member)
    obtain ⟨fewer, rest, states, _, _, _⟩ := run.omitting early
    -- What is left out is never refused.
    obtain rfl : mark = true := by
      cases mark with
      | true => rfl
      | false =>
        obtain ⟨unit, alone⟩ := reading.state.read_content options (content sentence (by simp))
        rw [alone] at failed
        cases failed
    have refused : fewer.state.read options sentence = .error refusal := by
      rw [states]
      exact failed
    refine ⟨before, sentence, after, refusal.fault, rfl, ?_, ?_⟩
    · rw [List.length_map]
    · rw [Marked.kept_append, Marked.kept_cons_true]
      exact assemble_of_refusal rest refused (Marked.kept after)

/-- A comment that spells an end marker, and a string that spells a branch, left out of the block
around them. -/
theorem comment_in_block_omitted :
    ∃ whole fewer,
      assemble {} [⟨.opening, "if", default⟩, ⟨.comment, "end if", default⟩,
        ⟨.opening, "then", default⟩, ⟨.string .double, "elif", default⟩,
        ⟨.closing, "end if", default⟩] = .ok whole ∧
      assemble {} [⟨.opening, "if", default⟩, ⟨.opening, "then", default⟩,
        ⟨.closing, "end if", default⟩] = .ok fewer ∧
      fewer.notices = whole.notices ∧ fewer.openScopes = whole.openScopes ∧
      whole.units = [.ifHead, .comment "end if", .ifBodyStart, .safeString "elif",
        .endMarker .ifBlockBody] ∧
      fewer.units = [.ifHead, .ifBodyStart, .endMarker .ifBlockBody] := by
  let entries : Marked Sentence :=
    [(⟨.opening, "if", default⟩, true), (⟨.comment, "end if", default⟩, false),
      (⟨.opening, "then", default⟩, true), (⟨.string .double, "elif", default⟩, false),
      (⟨.closing, "end if", default⟩, true)]
  have content : ∀ sentence, (sentence, false) ∈ entries → sentence.kind.isContent = true := by
    intro sentence member
    simp only [entries, List.mem_cons, Prod.mk.injEq, Bool.false_eq_true, and_false, and_true,
      false_or, List.not_mem_nil, or_false] at member
    rcases member with rfl | rfl <;> rfl
  have accepted : assemble {} entries.all = .ok _ := rfl
  obtain ⟨whole, fewer, read, rest, notices, scopes, _, units, others, _⟩ |
      ⟨_, _, _, _, _, refused, _⟩ := content_omitted {} entries content
  · exact ⟨whole, fewer, read, rest, notices, scopes, units, others⟩
  · rw [accepted] at refused
    cases refused

end Clausal
