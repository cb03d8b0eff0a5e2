import Clausal.CommandLine.Report
import Clausal.FileTree
import Clausal.Proofs.Lines
import Clausal.Proofs.Schedules

/-! The report of a run agrees with how the run ends.

Files are reported one after the other. One that failed holds one error and nothing else, so that
the errors told are as many as the files that failed, and the counts of the closing line are those
of the lines above it. What carries the counts is one step: a file adds to each of them the lines
that it prints under the label.
-/

set_option autoImplicit false

namespace Clausal

/-- A file fails that cannot be read or whose text is not accepted. -/
inductive Fails (options : Options) (read : FileReader) (path : String) : Prop where
  | unread {error : FileError} : read path = .error error → Fails options read path
  | rejected {source : String} {failure : Failure} : read path = .ok source →
      parse options source = .error failure → Fails options read path

section

variable {options : Options} {read : FileReader} {path source : String}

theorem compileFile_of_unread {error : FileError} (unread : read path = .error error) :
    compileFile options read path = ⟨path, { errors := [path ++ ": " ++ error.message] }⟩ := by
  rw [compileFile, unread]
  rfl

theorem compileFile_of_read (readable : read path = .ok source) :
    compileFile options read path = ⟨path, compile options source⟩ := by
  rw [compileFile, readable]

theorem errors_of_program {program : Program} (accepted : parse options source = .ok program) :
    (compile options source).errors = [] := by
  rw [compile_of_program accepted]
  rfl

/-- A file that fails leaves one error and nothing else. Any other leaves no error. -/
theorem compileFile_cases (options : Options) (read : FileReader) (path : String) :
    (Fails options read path ∧
      ∃ message, compileFile options read path = ⟨path, { errors := [message] }⟩) ∨
    ∃ source program, read path = .ok source ∧ parse options source = .ok program := by
  cases result : read path with
  | error error => exact .inl ⟨.unread result, _, compileFile_of_unread result⟩
  | ok source =>
    cases outcome : parse options source with
    | ok program => exact .inr ⟨source, program, rfl, outcome⟩
    | error failure =>
      refine .inl ⟨.rejected result outcome, failure.message, ?_⟩
      rw [compileFile_of_read result, compile_of_failure outcome]

theorem not_fails_of_program {program : Program} (readable : read path = .ok source)
    (accepted : parse options source = .ok program) : ¬ Fails options read path := by
  intro fails
  cases fails with
  | unread unread => cases readable.symm.trans unread
  | rejected other rejected =>
    cases readable.symm.trans other
    cases accepted.symm.trans rejected

theorem isOk_compileFile_iff :
    (compileFile options read path).outcome.isOk = false ↔ Fails options read path := by
  rcases compileFile_cases options read path with ⟨fails, _, failed⟩ | ⟨_, _, readable, accepted⟩
  · simp [failed, fails, Outcome.isOk]
  · simp [compileFile_of_read readable, errors_of_program accepted, Outcome.isOk,
      not_fails_of_program readable accepted]

instance : Decidable (Fails options read path) :=
  decidable_of_iff _ isOk_compileFile_iff

end

theorem Text.OneLine.newline_notMem {text : String} (line : OneLine text) : '\n' ∉ text.toList :=
  fun member => (line _ member).1 rfl

/-- Whether an error is one of those that have words of their own. -/
def FileError.isNamed : FileError → Bool
  | .other _ => false
  | _ => true

theorem FileError.oneLine_message {error : FileError} (named : error.isNamed = true) :
    Text.OneLine error.message := by
  cases error with
  | other report => cases named
  | _ => exact .literal rfl

namespace FileTree

variable {tree : FileTree} {place : Place} {error : FileError}

theorem isNamed_of_step {name : String} (failed : tree.step place name = .error error) :
    error.isNamed = true := by
  unfold step at failed
  repeat' split at failed
  all_goals cases failed <;> rfl

theorem isNamed_of_foldlM {names : List String}
    (failed : names.foldlM tree.step place = .error error) : error.isNamed = true := by
  induction names generalizing place with
  | nil => cases failed
  | cons name names ih =>
    rw [List.foldlM_cons] at failed
    cases stepped : tree.step place name with
    | error other =>
      rw [stepped] at failed
      cases failed
      exact isNamed_of_step stepped
    | ok next =>
      rw [stepped] at failed
      exact ih failed

theorem isNamed_of_read {path : String} (unread : tree.read path = .error error) :
    error.isNamed = true := by
  unfold read at unread
  repeat' split at unread
  all_goals cases unread
  any_goals rfl
  next followed => exact isNamed_of_foldlM followed

end FileTree

namespace CommandLine

/-- What a message of the report is led by. -/
inductive Label where
  | error
  | warning
  | note
  deriving DecidableEq

namespace Label

def text : Label → String
  | .error => "error:"
  | .warning => "warning:"
  | .note => "note:"

/-- The messages that are printed under a label. -/
def messages : Label → Outcome → List String
  | .error, outcome => outcome.errors
  | .warning, outcome => outcome.warnings
  | .note, outcome => outcome.notes

/-- Whether a line begins with a label. -/
def leads (label : Label) (line : String) : Bool :=
  label.text.toList.isPrefixOf line.toList

theorem leads_headed (label other : Label) (message : String) :
    label.leads (other.text ++ " " ++ message) = decide (label = other) := by
  rw [leads, String.toList_append, String.toList_append]
  cases label <;> cases other <;> rfl

theorem leads_render (label : Label) (totals : Totals) : label.leads totals.render = false := by
  obtain ⟨rest, line⟩ : ∃ rest, totals.render = "compiled " ++ rest := by
    unfold Totals.render
    simp only [String.append_assoc]
    exact ⟨_, rfl⟩
  rw [leads, line, String.toList_append]
  cases label <;> rfl

end Label

/-- How many lines begin with a label. -/
def labelled (label : Label) (lines : List String) : Nat :=
  lines.countP label.leads

theorem messageLines_eq (file : FileOutcome) :
    messageLines file = [Label.error, .warning, .note].flatMap fun label =>
      (label.messages file.outcome).map (label.text ++ " " ++ ·) := by
  simp only [messageLines, List.flatMap_cons, List.flatMap_nil, List.append_nil, List.append_assoc]
  rfl

theorem labelled_append (label : Label) (first second : List String) :
    labelled label (first ++ second) = labelled label first + labelled label second :=
  List.countP_append

theorem labelled_headed (label other : Label) (messages : List String) :
    labelled label (messages.map (other.text ++ " " ++ ·)) =
      if label = other then messages.length else 0 := by
  rw [labelled, List.countP_map]
  by_cases same : label = other <;> simp [Function.comp_def, Label.leads_headed, same]

theorem labelled_messageLines (label : Label) (file : FileOutcome) :
    labelled label (messageLines file) = (label.messages file.outcome).length := by
  rw [messageLines_eq]
  simp only [List.flatMap_cons, List.flatMap_nil, List.append_nil, labelled_append, labelled_headed]
  cases label <;> simp

/-- The counts of so many files, read off the messages about them. -/
def Totals.ofMessages (files : Nat) (messages : List String) : Totals :=
  ⟨files, labelled .error messages, labelled .warning messages, labelled .note messages⟩

/-- The line of the counts has no label, so that it does not count itself. -/
theorem Totals.ofMessages_concat_render (files : Nat) (messages : List String) (totals : Totals) :
    ofMessages files (messages ++ [totals.render]) = ofMessages files messages := by
  simp [ofMessages, labelled, Label.leads_render]

section

variable (options : Options) (read : FileReader)

theorem labelled_error_compileFile (path : String) :
    labelled .error (messageLines (compileFile options read path)) =
      if Fails options read path then 1 else 0 := by
  rw [labelled_messageLines]
  rcases compileFile_cases options read path with ⟨fails, _, failed⟩ | ⟨_, _, readable, accepted⟩
  · simp [failed, fails, Label.messages]
  · simp [compileFile_of_read readable, errors_of_program accepted, Label.messages,
      not_fails_of_program readable accepted]

/-- A file adds to each count the lines that it prints under the label. -/
theorem Totals.add_compileFile (files : Nat) (messages : List String) (path : String) :
    (ofMessages files messages).add (compileFile options read path) =
      ofMessages (files + 1) (messages ++ messageLines (compileFile options read path)) := by
  simp only [ofMessages, add, labelled_append, labelled_error_compileFile]
  -- A failed file counts once, and it prints one error. The other two counts are lengths anyway.
  simp only [labelled_messageLines, Label.messages, ← isOk_compileFile_iff]
  cases (compileFile options read path).outcome.isOk <;> rfl

theorem Totals.foldl_add (files : Nat) (messages paths : List String) :
    (paths.map (compileFile options read)).foldl add (ofMessages files messages) =
      ofMessages (files + paths.length)
        (messages ++ (paths.map (compileFile options read)).flatMap messageLines) := by
  induction paths generalizing files messages with
  | nil => simp
  | cons path paths ih =>
    rw [List.map_cons, List.foldl_cons, add_compileFile, ih, List.flatMap_cons, List.append_assoc,
      List.length_cons, Nat.add_right_comm, Nat.add_assoc]

theorem Totals.ofFiles_eq (paths : List String) :
    ofFiles (paths.map (compileFile options read)) =
      ofMessages paths.length ((paths.map (compileFile options read)).flatMap messageLines) := by
  have run := foldl_add options read 0 [] paths
  rwa [Nat.zero_add, List.nil_append] at run

theorem labelled_error_files (paths : List String) :
    labelled .error ((paths.map (compileFile options read)).flatMap messageLines) =
      paths.countP fun path => Fails options read path := by
  induction paths with
  | nil => rfl
  | cons path paths ih =>
    rw [List.map_cons, List.flatMap_cons, labelled_append, ih, labelled_error_compileFile,
      List.countP_cons, Nat.add_comm]
    simp

end

/-- The lines that show an outcome. -/
def Stage.lines : Stage → Outcome → List String
  | .units, outcome => outcome.units.map SemanticUnit.render
  | .sentences, outcome => outcome.sentences.map Sentence.render

theorem outputLines_eq (stage : Stage) (file : FileOutcome) :
    outputLines stage file = ("==> " ++ file.path) :: stage.lines file.outcome := by
  cases stage <;> rfl

/-- What files print on the two outputs, in the order of their paths. -/
inductive Prints (options : Options) (read : FileReader) (stage : Stage) :
    List String → List String → List String → Prop where
  | nil : Prints options read stage [] [] []
  | failed {path message : String} {paths output messages : List String} :
      Fails options read path → Prints options read stage paths output messages →
      Prints options read stage (path :: paths) (("==> " ++ path) :: output)
        (("error: " ++ message) :: messages)
  | compiled {path source : String} {program : Program} {paths output messages : List String} :
      read path = .ok source → parse options source = .ok program →
      Prints options read stage paths output messages →
      Prints options read stage (path :: paths)
        (("==> " ++ path) :: (stage.lines (compile options source) ++ output))
        ((compile options source).warnings.map ("warning: " ++ ·) ++
          ((compile options source).notes.map ("note: " ++ ·) ++ messages))

theorem prints_files (options : Options) (read : FileReader) (stage : Stage) (paths : List String) :
    Prints options read stage paths
      ((paths.map (compileFile options read)).flatMap (outputLines stage))
      ((paths.map (compileFile options read)).flatMap messageLines) := by
  induction paths with
  | nil => exact .nil
  | cons path paths ih =>
    rw [List.map_cons, List.flatMap_cons, List.flatMap_cons, outputLines_eq]
    rcases compileFile_cases options read path with
      ⟨fails, message, failed⟩ | ⟨source, program, readable, accepted⟩
    · rw [failed]
      have printed : Prints options read stage (path :: paths) (("==> " ++ path) :: _)
          (("error: " ++ message) :: _) := .failed fails ih
      cases stage <;> exact printed
    · have printed := Prints.compiled readable accepted ih
      simpa [compileFile_of_read readable, messageLines, errors_of_program accepted] using printed

theorem Stage.oneLine_lines {outcome : Outcome} (each : outcome.OneLineEach) (stage : Stage) :
    ∀ line ∈ stage.lines outcome, Text.OneLine line := by
  intro line member
  cases stage with
  | units =>
    obtain ⟨unit, inside, rfl⟩ := List.mem_map.mp member
    exact each.units unit inside
  | sentences =>
    obtain ⟨sentence, inside, rfl⟩ := List.mem_map.mp member
    exact each.sentences sentence inside

theorem oneLine_messageLines {file : FileOutcome} (each : file.outcome.OneLineEach) :
    ∀ line ∈ messageLines file, Text.OneLine line := by
  intro line member
  rw [messageLines_eq] at member
  obtain ⟨label, _, headed⟩ := List.mem_flatMap.mp member
  obtain ⟨message, inside, rfl⟩ := List.mem_map.mp headed
  have known : Text.OneLine (label.text ++ " ") := by
    cases label <;> exact .append (.literal rfl) (.literal rfl)
  refine .append known (each.messages message ?_)
  simp only [List.mem_append]
  cases label with
  | error => exact .inl (.inl inside)
  | warning => exact .inl (.inr inside)
  | note => exact .inr inside

/-- What a file prints is one line an entry, unless its path has a line break. -/
theorem newline_notMem_file {tree : FileTree} {path : String} (plain : '\n' ∉ path.toList)
    (options : Options) (stage : Stage) :
    (∀ line ∈ outputLines stage (compileFile options tree.read path), '\n' ∉ line.toList) ∧
      ∀ line ∈ messageLines (compileFile options tree.read path), '\n' ∉ line.toList := by
  have header : '\n' ∉ ("==> " ++ path).toList := by
    simpa [String.toList_append] using plain
  simp only [outputLines_eq, List.forall_mem_cons]
  cases result : tree.read path with
  | error error =>
    have named := FileError.oneLine_message (FileTree.isNamed_of_read result)
    rw [compileFile_of_unread result]
    refine ⟨⟨header, by cases stage <;> exact nofun⟩, fun line member => ?_⟩
    rw [List.mem_singleton.mp member]
    simp [String.toList_append, plain, named.newline_notMem]
  | ok source =>
    have each := compile_oneLineEach options source
    rw [compileFile_of_read result]
    exact ⟨⟨header, fun line member => (stage.oneLine_lines each line member).newline_notMem⟩,
      fun line member => (oneLine_messageLines each line member).newline_notMem⟩

theorem Totals.oneLine_render (totals : Totals) : Text.OneLine totals.render := by
  have number (n : Nat) : Text.OneLine (toString n) := Text.oneLine_repr n
  unfold render
  simp only [Text.oneLine_append, number, and_true]
  exact ⟨⟨⟨⟨.literal rfl, .literal rfl⟩, .literal rfl⟩, .literal rfl⟩, .literal rfl⟩

/-- A report that tells what became of the files. Every entry is a line, the files come in their
order, the closing line counts what is above it, and the run ends as the files do. -/
structure Report.Tells (options : Options) (read : FileReader) (stage : Stage)
    (paths : List String) (report : Report) : Prop where
  printed : ∃ messages, Prints options read stage paths report.output messages ∧
    report.messages = messages ++ [(Totals.ofMessages paths.length report.messages).render]
  lines : ∀ line ∈ report.output ++ report.messages, '\n' ∉ line.toList
  failed : labelled .error report.messages = paths.countP fun path => Fails options read path
  failure : (∃ path ∈ paths, Fails options read path) → report.exitCode = 1 ∧
    report.failure = some (toString (labelled .error report.messages) ++ " of "
      ++ toString paths.length ++ " file(s) failed to compile")
  success : (¬ ∃ path ∈ paths, Fails options read path) →
    report.exitCode = 0 ∧ report.failure = none

namespace Report

variable {stage : Stage} {paths : List String}

section

variable (options : Options) (read : FileReader)

/-- The closing line gives the counts of all messages, its own included. -/
theorem ofMessages_ofFiles (stage : Stage) (paths : List String) :
    Totals.ofMessages paths.length
        (ofFiles stage (paths.map (compileFile options read))).messages =
      Totals.ofFiles (paths.map (compileFile options read)) := by
  rw [ofFiles, Totals.ofMessages_concat_render, Totals.ofFiles_eq]

theorem failed_ofFiles (paths : List String) :
    (Totals.ofFiles (paths.map (compileFile options read))).failed =
      paths.countP fun path => Fails options read path := by
  rw [Totals.ofFiles_eq, Totals.ofMessages, labelled_error_files]

theorem failed_ofFiles_pos_iff (paths : List String) :
    0 < (Totals.ofFiles (paths.map (compileFile options read))).failed ↔
      ∃ path ∈ paths, Fails options read path := by
  rw [failed_ofFiles, List.countP_pos_iff]
  simp

theorem exitCode_ofFiles (stage : Stage) (files : List FileOutcome) :
    (ofFiles stage files).exitCode = if (ofFiles stage files).failure.isSome then 1 else 0 := rfl

theorem failure_ofFiles {paths : List String}
    (some_failed : ∃ path ∈ paths, Fails options read path) (stage : Stage) :
    let report := ofFiles stage (paths.map (compileFile options read))
    report.exitCode = 1 ∧
      report.failure = some (toString (labelled .error report.messages) ++ " of "
        ++ toString paths.length ++ " file(s) failed to compile") := by
  intro report
  have failure : report.failure = some _ :=
    if_pos ((failed_ofFiles_pos_iff options read paths).mpr some_failed)
  refine ⟨?_, ?_⟩
  · rw [exitCode_ofFiles, failure]
    rfl
  · rw [failure, ← ofMessages_ofFiles options read stage]
    rfl

theorem success_ofFiles {paths : List String}
    (none_failed : ¬ ∃ path ∈ paths, Fails options read path) (stage : Stage) :
    let report := ofFiles stage (paths.map (compileFile options read))
    report.exitCode = 0 ∧ report.failure = none := by
  intro report
  have failure : report.failure = none :=
    if_neg (mt (failed_ofFiles_pos_iff options read paths).mp none_failed)
  refine ⟨?_, failure⟩
  rw [exitCode_ofFiles, failure]
  rfl

end

theorem tells_ofFiles {tree : FileTree} (options : Options)
    (plain : ∀ path ∈ paths, '\n' ∉ path.toList) :
    (ofFiles stage (paths.map (compileFile options tree.read))).Tells options tree.read stage
      paths where
  printed := by
    refine ⟨_, prints_files options tree.read stage paths, ?_⟩
    rw [ofMessages_ofFiles]
    rfl
  lines line member := by
    rcases List.mem_append.mp member with shown | told
    · obtain ⟨file, inside, printed⟩ := List.mem_flatMap.mp shown
      obtain ⟨path, given, rfl⟩ := List.mem_map.mp inside
      exact (newline_notMem_file (plain path given) options stage).1 line printed
    · rcases List.mem_append.mp told with message | closing
      · obtain ⟨file, inside, printed⟩ := List.mem_flatMap.mp message
        obtain ⟨path, given, rfl⟩ := List.mem_map.mp inside
        exact (newline_notMem_file (plain path given) options stage).2 line printed
      · rw [List.mem_singleton.mp closing]
        exact (Totals.oneLine_render _).newline_notMem
  failed := by
    rw [← failed_ofFiles, ← ofMessages_ofFiles options tree.read stage]
    rfl
  failure some_failed := failure_ofFiles options tree.read some_failed stage
  success none_failed := success_ofFiles options tree.read none_failed stage

end Report

section

variable {host : Host} {arguments : Arguments} (some_job : arguments.jobs ≠ some 0)
  (read : FileReader)

include some_job

/-- With some job allowed a run compiles its files, or panics. -/
theorem run_of_some_job : run host arguments read =
    ((⟨arguments.jobs, arguments.settings.options, some_job⟩ : Compiler).compileFiles host read
      arguments.files).map (Report.ofFiles arguments.stage) := by
  have compiler : arguments.settings.toCompiler =
      .ok ⟨arguments.jobs, arguments.settings.options, some_job⟩ := dif_neg some_job
  rw [run, compiler]

variable {limit : Nat} (bounded : host.BoundsPermits limit)

include bounded

theorem run_of_le (within : arguments.jobs.getD host.processors ≤ limit) :
    run host arguments read = some (.ofFiles arguments.stage
      (arguments.files.map (compileFile arguments.settings.options read))) := by
  have made := (bounded _).mpr within
  rw [run_of_some_job some_job, Compiler.compileFiles_eq _ _ made]
  rfl

theorem run_of_lt (beyond : limit < arguments.jobs.getD host.processors) :
    run host arguments read = none := by
  have panics := mt (bounded _).mp (Nat.not_le_of_lt beyond)
  rw [run_of_some_job some_job, Compiler.compileFiles, Compiler.permits, if_neg panics]
  rfl

end

/-- A run reports what became of its files, in the order in which they are given, and it ends with a
failure exactly if one of them failed. This holds as long as there are no more jobs than a semaphore
can have permits. With more of them the run panics before it has reported anything. -/
theorem run_tells_iff {host : Host} {limit : Nat} (bounded : host.BoundsPermits limit)
    (tree : FileTree) (arguments : Arguments) (some_job : arguments.jobs ≠ some 0)
    (plain : ∀ path ∈ arguments.files, '\n' ∉ path.toList) :
    ((∃ report, run host arguments tree.read = some report ∧
        report.Tells arguments.settings.options tree.read arguments.stage arguments.files) ↔
      arguments.jobs.getD host.processors ≤ limit) ∧
    (limit < arguments.jobs.getD host.processors → run host arguments tree.read = none) := by
  refine ⟨⟨fun ⟨report, told, _⟩ => ?_, fun within => ?_⟩, run_of_lt some_job tree.read bounded⟩
  · refine Nat.le_of_not_lt fun beyond => ?_
    rw [run_of_lt some_job tree.read bounded beyond] at told
    cases told
  · exact ⟨_, run_of_le some_job tree.read bounded within, Report.tells_ofFiles _ plain⟩

/-- One file is compiled, one is rejected and one is missing. -/
theorem mixed_files_told :
    let host : Host := .counting 2305843009213693951 1
    let tree := FileTree.empty.insert "open" (.file "a b c; #x".toUTF8)
      |>.insert "faulty" (.file "end fn".toUTF8)
    let arguments : Arguments :=
      { files := ["open", "faulty", "missing"], jobs := some 2, stage := .sentences }
    let report : Report :=
      { output := ["==> open", "closing \"a b c\"", "comment \"x\"", "==> faulty", "==> missing"]
        messages := ["warning: 1:1: could not determine unit of closing sentence \"a b c\"",
          "note: 1:8: comment closed by the end of input",
          "error: 1:1: sentence 0 closes function-body but no scope is open",
          "error: missing: No such file or directory (os error 2)",
          "compiled 3 file(s): 2 failed, 1 warning(s), 1 note(s)"]
        exitCode := 1
        failure := some "2 of 3 file(s) failed to compile" }
    host.BoundsPermits 2305843009213693951 ∧ arguments.jobs ≠ some 0 ∧
      (∀ path ∈ arguments.files, '\n' ∉ path.toList) ∧
      run host arguments tree.read = some report ∧
      report.Tells {} tree.read .sentences arguments.files := by
  intro host tree arguments report
  have compiled : Report.ofFiles arguments.stage (arguments.files.map
      (compileFile arguments.settings.options tree.read)) = report := by decide +kernel +revert
  have bounded : host.BoundsPermits 2305843009213693951 := Host.boundsPermits_counting _ _
  have some_job : arguments.jobs ≠ some 0 := by decide
  have runs : run host arguments tree.read = some report := by
    rw [← compiled]
    exact run_of_le some_job tree.read bounded (by decide)
  have plain : ∀ path ∈ arguments.files, '\n' ∉ path.toList := by simp [arguments]
  refine ⟨bounded, some_job, plain, runs, ?_⟩
  obtain ⟨told, shown, tells⟩ :=
    (run_tells_iff bounded tree arguments some_job plain).1.mpr (by decide)
  cases runs.symm.trans shown
  exact tells

/-- A semaphore that counts in a word of 64 bits, three of which it needs for other things, has less
than `2 ^ 61` permits. A run with so many jobs panics, and nothing is told of a file that would
compile. -/
theorem uncounted_jobs_untold :
    let host : Host := .counting 2305843009213693951 1
    let tree := FileTree.empty.insert "good.unic" (.file "x;".toUTF8)
    let arguments : Arguments := { files := ["good.unic"], jobs := some 2305843009213693952 }
    host.BoundsPermits 2305843009213693951 ∧ arguments.files ≠ [] ∧ arguments.jobs ≠ some 0 ∧
      (∀ path ∈ arguments.files, '\n' ∉ path.toList) ∧
      ¬ Fails {} tree.read "good.unic" ∧ run host arguments tree.read = none ∧
      ¬ ∃ report, run host arguments tree.read = some report ∧
        report.Tells {} tree.read .units arguments.files := by
  intro host tree arguments
  have compiles : ¬ Fails {} tree.read "good.unic" := by decide +kernel +revert
  have bounded : host.BoundsPermits 2305843009213693951 := Host.boundsPermits_counting _ _
  have some_job : arguments.jobs ≠ some 0 := by decide
  have panics := run_of_lt some_job tree.read bounded (by decide)
  refine ⟨bounded, List.cons_ne_nil _ _, some_job, by simp [arguments], compiles, panics, ?_⟩
  rintro ⟨report, told, -⟩
  cases panics.symm.trans told

end CommandLine

end Clausal
