import Clausal.Proofs.Pieces

/-! Well formed programs close every scope they open.

The programs are those of a grammar of statements and blocks. Its texts are put together from few
pieces, each of which is tried out in all the scopes that programs may stand in. What a whole
program does follows by induction over the grammar.
-/

set_option autoImplicit false

namespace Clausal

/-- The statements of the grammar. -/
def statements : List String :=
  ["x;", "print x;", "constant integer y: 5;", "mutable list ys: array: 1, 2, 3;",
   "total = call sum: 1, 2;", "[list push: 4];", "x += 1;", "break;"]

def methodText (body : String) : String :=
  "method m:\nreturns integer:\n" ++ body ++ "\nend method;"

/-- The texts of well formed programs. A body holds any number of programs, one below the other, and
a class or a struct any number of methods. -/
inductive WellFormed : String → Prop where
  | statement {text : String} : text ∈ statements → WellFormed text
  | ifThen {body : List String} : (∀ part ∈ body, WellFormed part) →
      WellFormed ("if: x > 1; then:\n" ++ lines body ++ "\nend if;")
  | ifElse {first second third : List String} : (∀ part ∈ first, WellFormed part) →
      (∀ part ∈ second, WellFormed part) → (∀ part ∈ third, WellFormed part) →
      WellFormed ("if: x; then:\n" ++ lines first ++ "\nelif: y; then:\n" ++ lines second
        ++ "\nelse:\n" ++ lines third ++ "\nend if;")
  | walk {body : List String} : (∀ part ∈ body, WellFormed part) →
      WellFormed ("walk items, take item:\n" ++ lines body ++ "\nend loop;")
  | whileDo {body : List String} : (∀ part ∈ body, WellFormed part) →
      WellFormed ("while: x < 10; do:\n" ++ lines body ++ "\nend loop;")
  | function {body : List String} : (∀ part ∈ body, WellFormed part) →
      WellFormed ("function f:\nreturns integer:\n" ++ lines body ++ "\nend fn;")
  | switchDefault {first second : List String} : (∀ part ∈ first, WellFormed part) →
      (∀ part ∈ second, WellFormed part) →
      WellFormed ("switch x:\ncase 1:\n" ++ lines first ++ "\nend case;\ndefault:\n"
        ++ lines second ++ "\nend case;\nend switch;")
  | switchShared {body : List String} : (∀ part ∈ body, WellFormed part) →
      WellFormed ("switch x:\ncase 1:\ncase 2:\n" ++ lines body ++ "\nend case;\nend switch;")
  | classOf {methods : List (List String)} : (∀ body ∈ methods, ∀ part ∈ body, WellFormed part) →
      WellFormed ("class C:\n" ++ lines (methods.map fun body => methodText (lines body))
        ++ "\nend class;")
  | structOf {methods : List (List String)} : (∀ body ∈ methods, ∀ part ∈ body, WellFormed part) →
      WellFormed ("struct S:\n" ++ lines (methods.map fun body => methodText (lines body))
        ++ "\nend struct;")

/-- How blocks start, with the scopes they open. -/
def openings : List (String × List Scope) :=
  [("if: x > 1; then:\n", [.ifBlockBody]), ("if: x; then:\n", [.ifBlockBody]),
   ("walk items, take item:\n", [.loopBody]), ("while: x < 10; do:\n", [.loopBody]),
   ("function f:\nreturns integer:\n", [.functionBody]),
   ("switch x:\ncase 1:\n", [.caseBody, .switchBody]),
   ("switch x:\ncase 1:\ncase 2:\n", [.caseBody, .switchBody]),
   ("class C:\n", [.classBody]), ("struct S:\n", [.structBody])]

/-- How blocks end, with the scope they close. -/
def closings : List (String × Scope) :=
  [("\nend if;", .ifBlockBody), ("\nend loop;", .loopBody), ("\nend fn;", .functionBody),
   ("\nend switch;", .switchBody), ("\nend class;", .classBody), ("\nend struct;", .structBody)]

-- The texts are fixed and the scopes are few, so every piece is tried out in every scope.
theorem passes_statements : ∀ text ∈ statements, ∀ host ∈ Scope.all,
    host.admitsDefinitions = true → Passes text host [] [host] := by
  decide +kernel

theorem passes_openings : ∀ opening ∈ openings, ∀ host ∈ Scope.all,
    host.admitsDefinitions = true → Passes opening.1 host [] (opening.2 ++ [host]) := by
  decide +kernel

theorem passes_closings : ∀ closing ∈ closings, ∀ host ∈ Scope.all,
    host.admitsDefinitions = true → Passes closing.1 closing.2 [host] [host] := by
  decide +kernel

theorem leads_branch (nesting : Nesting) {text : String}
    (branches : text ∈ ["\nelif: y; then:\n", "\nelse:\n"]) :
    Leads (nesting.push .ifBlockBody) text (nesting.push .ifBlockBody) := by
  have passes : ∀ text ∈ ["\nelif: y; then:\n", "\nelse:\n"],
      Passes text .ifBlockBody [] [.ifBlockBody] := by
    decide +kernel
  exact leads_of_passes [] (passes text branches)

theorem leads_endCase (nesting : Nesting) :
    Leads ((nesting.push .switchBody).push .caseBody) "\nend case;" (nesting.push .switchBody) := by
  have passes : Passes "\nend case;" .caseBody [.switchBody] [.switchBody] := by
    decide +kernel
  exact leads_of_passes_push [] passes

theorem leads_default (nesting : Nesting) :
    Leads (nesting.push .switchBody) "\ndefault:\n"
      ((nesting.push .switchBody).push .caseBody) := by
  have passes : Passes "\ndefault:\n" .switchBody [] [.caseBody, .switchBody] := by
    decide +kernel
  exact leads_of_passes [.caseBody] passes

theorem leads_method (nesting : Nesting) {scope : Scope} (holds : scope ∈ [.classBody, .structBody])
    {body : String} (inside : Leads ((nesting.push scope).push .methodBody) body
      ((nesting.push scope).push .methodBody)) :
    Leads (nesting.push scope) (methodText body) (nesting.push scope) := by
  have opens : ∀ scope ∈ [Scope.classBody, .structBody],
      Passes "method m:\nreturns integer:\n" scope [] [.methodBody, scope] := by
    decide +kernel
  have closes : ∀ scope ∈ [Scope.classBody, .structBody],
      Passes "\nend method;" .methodBody [scope] [scope] := by
    decide +kernel
  have starts : Leads (nesting.push scope) "method m:\nreturns integer:\n"
      ((nesting.push scope).push .methodBody) :=
    leads_of_passes [.methodBody] (opens scope holds)
  exact (starts.append inside).append (leads_of_passes_push [] (closes scope holds))

/-- Text that leads back from wherever programs may stand. -/
def Balanced (text : String) : Prop :=
  ∀ {nesting : Nesting}, nesting.current.admitsDefinitions = true → Leads nesting text nesting

theorem Balanced.lines {parts : List String} (each : ∀ part ∈ parts, Balanced part) :
    Balanced (lines parts) := by
  intro nesting hosts
  apply leads_lines
  · revert hosts
    cases nesting.current <;> simp [Scope.admitsDefinitions, Scope.body]
  · intro part member
    exact each part member hosts

section

variable {nesting : Nesting} (hosts : nesting.current.admitsDefinitions = true)

include hosts

theorem leads_opening (opened : List Scope) {head : String} (opens : (head, opened) ∈ openings) :
    Leads nesting head ⟨opened ++ nesting.scopes⟩ :=
  leads_of_passes opened (passes_openings _ opens _ (Scope.mem_all _) hosts)

theorem leads_closing (scope : Scope) {tail : String} (closes : (tail, scope) ∈ closings) :
    Leads (nesting.push scope) tail nesting :=
  leads_of_passes_push [] (passes_closings _ closes _ (Scope.mem_all _) hosts)

/-- A block leads back to where it started, if its body does so in the scope of the block. -/
theorem leads_block (scope : Scope) {head body tail : String} (opens : (head, [scope]) ∈ openings)
    (closes : (tail, scope) ∈ closings)
    (inside : Leads (nesting.push scope) body (nesting.push scope)) :
    Leads nesting (head ++ body ++ tail) nesting :=
  ((leads_opening hosts [scope] opens).append inside).append (leads_closing hosts scope closes)

theorem leads_switch {head cases : String} (opens : (head, [.caseBody, .switchBody]) ∈ openings)
    (inside : Leads ((nesting.push .switchBody).push .caseBody) cases
      ((nesting.push .switchBody).push .caseBody)) :
    Leads nesting (head ++ cases ++ "\nend case;\nend switch;") nesting := by
  have opened : Leads nesting head ((nesting.push .switchBody).push .caseBody) :=
    leads_opening hosts [.caseBody, .switchBody] opens
  have ended : Leads (nesting.push .switchBody) "\nend switch;" nesting :=
    leads_closing hosts .switchBody (by decide)
  exact (opened.append inside).append ((leads_endCase nesting).append ended)

end

theorem leads_members (nesting : Nesting) {scope : Scope}
    (holds : scope ∈ [.classBody, .structBody]) {methods : List (List String)}
    (each : ∀ body ∈ methods, ∀ part ∈ body, Balanced part) :
    Leads (nesting.push scope) (lines (methods.map fun body => methodText (lines body)))
      (nesting.push scope) := by
  apply leads_lines
  · revert holds
    cases scope <;> simp [Scope.body]
  · intro text member
    obtain ⟨body, held, rfl⟩ := List.mem_map.mp member
    exact leads_method nesting holds (Balanced.lines (each body held) rfl)

/-- A well formed program leads back to the nesting it starts in. -/
theorem WellFormed.balanced {text : String} (program : WellFormed text) : Balanced text := by
  induction program with
  | statement simple =>
    intro nesting hosts
    exact leads_of_passes [] (passes_statements _ simple _ (Scope.mem_all _) hosts)
  | ifThen _ body =>
    intro nesting hosts
    exact leads_block hosts .ifBlockBody (by decide) (by decide) (Balanced.lines body rfl)
  | @ifElse first second third _ _ _ ihFirst ihSecond ihThird =>
    intro nesting hosts
    have elif : Leads (nesting.push .ifBlockBody) "\nelif: y; then:\n"
        (nesting.push .ifBlockBody) := leads_branch nesting (by decide)
    have otherwise : Leads (nesting.push .ifBlockBody) "\nelse:\n"
        (nesting.push .ifBlockBody) := leads_branch nesting (by decide)
    have two := ((Balanced.lines ihFirst rfl).append elif).append (Balanced.lines ihSecond rfl)
    have three := (two.append otherwise).append (Balanced.lines ihThird rfl)
    have opens : ("if: x; then:\n", [.ifBlockBody]) ∈ openings := by decide
    have block := leads_block hosts .ifBlockBody opens (.head _) three
    -- The texts are joined from the left, the branches of the block among themselves.
    simpa only [String.append_assoc] using block
  | walk _ body =>
    intro nesting hosts
    exact leads_block hosts .loopBody (by decide) (by decide) (Balanced.lines body rfl)
  | whileDo _ body =>
    intro nesting hosts
    exact leads_block hosts .loopBody (by decide) (by decide) (Balanced.lines body rfl)
  | function _ body =>
    intro nesting hosts
    exact leads_block hosts .functionBody (by decide) (by decide) (Balanced.lines body rfl)
  | switchDefault _ _ ihFirst ihSecond =>
    intro nesting hosts
    have between : Leads ((nesting.push .switchBody).push .caseBody) "\nend case;\ndefault:\n"
        ((nesting.push .switchBody).push .caseBody) :=
      (leads_endCase nesting).append (leads_default nesting)
    have both := ((Balanced.lines ihFirst rfl).append between).append (Balanced.lines ihSecond rfl)
    have opens : ("switch x:\ncase 1:\n", [.caseBody, .switchBody]) ∈ openings := by decide
    have block := leads_switch hosts opens both
    simpa only [String.append_assoc] using block
  | switchShared _ body =>
    intro nesting hosts
    exact leads_switch hosts (by decide) (Balanced.lines body rfl)
  | classOf _ each =>
    intro nesting hosts
    apply leads_block hosts .classBody (by decide) (by decide)
    exact leads_members nesting (by decide) each
  | structOf _ each =>
    intro nesting hosts
    apply leads_block hosts .structBody (by decide) (by decide)
    exact leads_members nesting (by decide) each

/-- A well formed program is cut into sentences without a notice. The default assembler takes them
all, comes back to the outermost scope, and has nothing to report. -/
theorem wellFormed_closes_scopes {text : String} (program : WellFormed text) :
    ∃ scanned assembler, scan text = .ok scanned ∧ scanned.notices = [] ∧
      ({} : Assembler).addAll 0 scanned.sentences = .ok assembler ∧
      assembler.state.nesting.depth = 1 ∧ assembler.finish.openScopes = [] ∧
      assembler.finish.notices = [] := by
  have resting : ({} : Scanner).Resting := by decide
  have rests : ({} : ScopeState).RestsIn .empty := rfl
  obtain ⟨sentences, last, reading, scans, lastRests, reads, quiet, left⟩ :=
    program.balanced rfl none resting rests
  have scanned := scan_of_scans scans
  have added := Assembler.addAll_of_reads {} reads 0
  rw [lastRests.finish, List.append_nil] at scanned
  have noScopes : reading.state.nesting.scopes = [] := left.scopes_of_empty
  refine ⟨_, _, scanned, rfl, added, ?_, noScopes, ?_⟩
  · rw [Nesting.depth, Assembler.extend, noScopes]
    rfl
  · simp [Assembler.finish, Assembler.extend, Assembler.endNotices, quiet, noScopes, left.awaiting]

/-- The body of the two cases is still under their head when the loop in it begins. -/
theorem nested_program_closes_scopes :
    let text := "switch x:\ncase 1:\ncase 2:\nx;\nwhile: x < 10; do:\nstruct S:\nmethod m:\n"
      ++ "returns integer:\nbreak;\nend method;\nend struct;\nend loop;\nend case;\nend switch;"
    WellFormed text ∧ ∃ scanned assembler, scan text = .ok scanned ∧ scanned.notices = [] ∧
      ({} : Assembler).addAll 0 scanned.sentences = .ok assembler ∧
      assembler.state.nesting.depth = 1 ∧ assembler.finish.openScopes = [] ∧
      assembler.finish.notices = [] := by
  intro text
  have statement {text : String} (simple : text ∈ statements) : WellFormed text := .statement simple
  have members : ∀ body ∈ [["break;"]], ∀ part ∈ body, WellFormed part := by
    simpa using statement (by decide)
  have record : WellFormed
      "struct S:\nmethod m:\nreturns integer:\nbreak;\nend method;\nend struct;" :=
    .structOf members
  have loop := WellFormed.whileDo (List.forall_mem_singleton.mpr record)
  have program : WellFormed text :=
    .switchShared (List.forall_mem_cons.mpr ⟨statement (by decide : "x;" ∈ statements),
      List.forall_mem_singleton.mpr loop⟩)
  exact ⟨program, wellFormed_closes_scopes program⟩

end Clausal
