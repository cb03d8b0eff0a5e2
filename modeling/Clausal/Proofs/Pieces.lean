import Clausal.Proofs.Seams
import Clausal.Proofs.Views

/-! Pieces of text that are read anywhere as they are read alone.

A piece of text is described by the nesting it starts in and the nesting it leads to. It is tried
out once, at the start of a source and in a view of the nesting. That it leads to the same place
from anywhere follows, since positions are only passed on and hidden scopes are not looked at.
-/

set_option autoImplicit false

namespace Clausal

namespace ScopeState

/-- The state after sentences that are read without a notice and never close the last scope of a
view. -/
def settle? (view : ScopeState) : List Sentence → Option ScopeState
  | [] => some view
  | sentence :: rest =>
    match view.read {} sentence with
    | .ok ⟨_, next, []⟩ => if next.nesting.scopes = [] then none else next.settle? rest
    | _ => none

/-- The state after a piece of text that is tried out at the start of a source. Its ends must not
look at what will stand beside them. -/
def after? (view : ScopeState) (text : String) : Option ScopeState :=
  match ({} : Scanner).run #[] none text.toList with
  | .ok (sentences, last) =>
    if last.Resting ∧ text.toList.head?.all (!operatorChars.contains ·)
        ∧ text.toList.getLast?.all (!Scanner.lookahead.contains ·) then
      view.settle? sentences.toList
    else none
  | .error _ => none

variable {hidden : Option (List Scope)} {view state final : ScopeState}

theorem reads_of_settle? {sentences : List Sentence} (shows : Shows hidden view state)
    (settled : view.settle? sentences = some final) :
    ∃ reading, Reads {} state sentences reading ∧ reading.notices = [] ∧
      Shows hidden final reading.state := by
  induction sentences generalizing view state with
  | nil =>
    cases settled
    exact ⟨.start state, .nil, rfl, shows⟩
  | cons sentence rest ih =>
    rw [settle?] at settled
    split at settled
    · next units next read =>
      split at settled
      · cases settled
      · next stays =>
        obtain ⟨first, reads, seen⟩ := shows.read read stays
        obtain ⟨others, run, quiet, shown⟩ := ih seen.state settled
        refine ⟨first.followedBy others, .cons reads run, ?_, shown⟩
        simp [Reading.followedBy, quiet, ← seen.notices]
    · cases settled

/-- A piece that was tried out is read from any point of rest, and in any nesting that the view
shows. -/
theorem reads_of_after? {text : String} (shows : Shows hidden view state)
    (tried : view.after? text = some final) (following : Option Char) {s : Scanner}
    (rests : s.Resting) :
    ∃ sentences last reading, s.Scans following text.toList sentences last ∧ last.Resting ∧
      Reads {} state sentences reading ∧ reading.notices = [] ∧
      Nesting.Shows hidden final.nesting reading.state.nesting ∧
      (final.awaiting = none → reading.state.awaiting = none) := by
  obtain ⟨sentences, last, scans⟩ := Scanner.exists_scans none {} text.toList
  obtain ⟨read, run, whole⟩ := Scanner.run_of_scans scans #[]
  rw [after?, run] at tried
  dsimp only at tried
  split at tried
  case isFalse => cases tried
  next sound =>
  obtain ⟨lastRests, plain, blind⟩ := sound
  -- The piece is read elsewhere as at the start, where neither end looks beyond it.
  have behind : ∀ c ∈ text.toList.head?, Scanner.SameBehind {} s c := by
    intro c first
    exact .inr (by simpa using (Option.all_eq_true _ _).mp plain c first)
  have ahead : ∀ c ∈ text.toList.getLast?, c ∉ Scanner.lookahead := by
    intro c last
    simpa using (Option.all_eq_true _ _).mp blind c last
  obtain ⟨others, other, elsewhere, alike, ends⟩ :=
    (Scanner.Resting.alike (by decide) rests trivial).scans .any behind
      (scans.of_notMem_lookahead ahead following)
  rw [whole] at tried
  -- The sentences of the trial mean the same in the nesting as in the view, and those read
  -- elsewhere differ from them in their places alone.
  obtain ⟨reading, reads, quiet, shown⟩ := reads_of_settle? shows tried
  obtain ⟨placed, run', same⟩ := reads.outline rfl (Sentence.map_outline_eq alike)
  simp only [Reading.outline, outline, Prod.mk.injEq] at same
  obtain ⟨_, ⟨nestings, awaits⟩, findings⟩ := same
  refine ⟨others, other, placed, elsewhere, lastRests.of_alike ends, run', ?_, ?_, ?_⟩
  · simpa [quiet] using findings.symm
  · rw [← nestings]
    exact shown.nesting
  · intro none
    rw [shown.awaiting] at none
    rw [none] at awaits
    exact Option.map_eq_none_iff.mp awaits.symm

def inBody (state : ScopeState) : ScopeState :=
  { state with nesting := state.nesting.enterBody }

/-- A state between two pieces of text. The body of a case is entered by the first opening sentence
in it, so until then the head may still be open. -/
def RestsIn (nesting : Nesting) (state : ScopeState) : Prop :=
  state.inBody = ⟨nesting, none⟩

namespace RestsIn

variable {nesting : Nesting}

theorem awaiting (rests : state.RestsIn nesting) : state.awaiting = none :=
  congrArg ScopeState.awaiting rests

theorem enterBody (rests : state.RestsIn nesting) : state.nesting.enterBody = nesting :=
  congrArg ScopeState.nesting rests

theorem scopes_of_empty (rests : state.RestsIn .empty) : state.nesting.scopes = [] := by
  obtain ⟨⟨scopes⟩, awaiting⟩ := state
  have entered := congrArg Nesting.scopes rests.enterBody
  cases scopes with
  | nil => rfl
  | cons scope outer => cases entered

end RestsIn

end ScopeState

/-- Text that is read without a notice, from one point of rest to another. -/
def Leads (before : Nesting) (text : String) (after : Nesting) : Prop :=
  ∀ (following : Option Char) {s : Scanner} {state : ScopeState}, s.Resting →
    state.RestsIn before → ∃ sentences last reading,
      s.Scans following text.toList sentences last ∧ last.Resting ∧
      Reads {} state sentences reading ∧ reading.notices = [] ∧ reading.state.RestsIn after

theorem Leads.append {before between after : Nesting} {first second : String}
    (start : Leads before first between) (rest : Leads between second after) :
    Leads before (first ++ second) after := by
  intro following s state resting rests
  obtain ⟨sentences, middle, reading, scans, resting, reads, quiet, rests⟩ :=
    start (second.toList.head?.or following) resting rests
  obtain ⟨others, last, reading', scans', resting', reads', quiet', rests'⟩ :=
    rest following resting rests
  refine ⟨sentences ++ others, last, reading.followedBy reading', ?_, resting',
    reads.append reads', ?_, rests'⟩
  · rw [String.toList_append]
    exact scans.append scans'
  · simp [Reading.followedBy, quiet, quiet']

/-- A piece was tried out in the view that ends with `rest`, with `first` on top or a head that has
not turned into it yet. -/
def Passes (text : String) (first : Scope) (rest after : List Scope) : Prop :=
  ∀ top ∈ Scope.all, top.body = first →
    ((ScopeState.mk ⟨top :: rest⟩ none).after? text).map ScopeState.inBody
      = some ⟨⟨after⟩, none⟩

instance (text : String) (first : Scope) (rest after : List Scope) :
    Decidable (Passes text first rest after) :=
  inferInstanceAs (Decidable (∀ top ∈ Scope.all, _ → _))

theorem leads_of_tried {before nesting : Nesting} {text : String} {after : List Scope}
    (tried : ∀ {state : ScopeState}, state.RestsIn before → ∃ view,
      Nesting.Shows nesting.scopes.tail? view state.nesting ∧
      ((ScopeState.mk view none).after? text).map ScopeState.inBody
        = some ⟨⟨after ++ [nesting.current]⟩, none⟩) :
    Leads before text ⟨after ++ nesting.scopes⟩ := by
  intro following s state resting rests
  obtain ⟨view, shows, tried⟩ := tried rests
  obtain ⟨final, tried, entered⟩ := Option.map_eq_some_iff.mp tried
  have awaiting : final.awaiting = none := congrArg ScopeState.awaiting entered
  have target : final.nesting.enterBody = ⟨after ++ [nesting.current]⟩ :=
    congrArg ScopeState.nesting entered
  obtain ⟨sentences, last, reading, scans, resting, reads, quiet, shown, awaits⟩ :=
    ScopeState.reads_of_after? ⟨shows, rests.awaiting.symm⟩ tried following resting
  refine ⟨sentences, last, reading, scans, resting, reads, quiet, ?_⟩
  have reached := shown.enterBody
  rw [target] at reached
  rw [ScopeState.RestsIn, ScopeState.inBody, reached.eq_append, awaits awaiting]

theorem leads_of_passes {nesting : Nesting} {text : String} (after : List Scope)
    (passes : Passes text nesting.current [] (after ++ [nesting.current])) :
    Leads nesting text ⟨after ++ nesting.scopes⟩ := by
  apply leads_of_tried
  intro state rests
  refine ⟨⟨[state.nesting.current]⟩, ?_, passes _ (Scope.mem_all _) ?_⟩
  · rw [← rests.enterBody, Nesting.tail?_enterBody]
    exact state.nesting.shows_current
  · rw [← Nesting.current_enterBody, rests.enterBody]

theorem leads_of_passes_push {nesting : Nesting} {scope : Scope} {text : String}
    (after : List Scope)
    (passes : Passes text scope [nesting.current] (after ++ [nesting.current])) :
    Leads (nesting.push scope) text ⟨after ++ nesting.scopes⟩ := by
  apply leads_of_tried
  intro state rests
  obtain ⟨⟨scopes⟩, awaiting⟩ := state
  have entered := congrArg Nesting.scopes rests.enterBody
  cases scopes with
  | nil => cases entered
  | cons top outer =>
    obtain ⟨body, rfl⟩ := List.cons.inj entered
    exact ⟨⟨[top, nesting.current]⟩, nesting.shows_current.push top,
      passes top (Scope.mem_all top) body⟩

theorem Leads.empty (nesting : Nesting) : Leads nesting "" nesting := by
  intro following s state resting rests
  exact ⟨[], s, .start state, .nil, resting, .nil, rfl, rests⟩

/-- Pieces of text one below the other. -/
def lines (parts : List String) : String :=
  "\n".intercalate parts

theorem passes_newline :
    ∀ scope ∈ Scope.all, scope.body = scope → Passes "\n" scope [] [scope] := by
  decide +kernel

theorem leads_lines {nesting : Nesting} {parts : List String}
    (entered : nesting.current.body = nesting.current)
    (each : ∀ part ∈ parts, Leads nesting part nesting) : Leads nesting (lines parts) nesting := by
  have newline : Leads nesting "\n" nesting :=
    leads_of_passes [] (passes_newline _ (Scope.mem_all _) entered)
  induction parts with
  | nil => exact .empty nesting
  | cons part rest ih =>
    have first : Leads nesting part nesting := each part (by simp)
    have others := ih fun part member => each part (by simp [member])
    cases rest with
    | nil => simpa [lines] using first
    | cons next rest =>
      have whole : lines (part :: next :: rest) = part ++ "\n" ++ lines (next :: rest) :=
        String.intercalate_cons_cons
      rw [whole]
      exact (first.append newline).append others

end Clausal
