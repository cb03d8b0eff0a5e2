import Clausal.Compile.Batch
import Mathlib.Data.Multiset.AddSub
import Mathlib.Data.Multiset.MapFold

/-! Every schedule of a batch delivers the same files.

Tasks are spawned in the order of the paths. From there on they take turns: a task waits for a
permit, runs, and gives the permit back with its result, which is collected some time later. The
containers in which the tasks stand have no order, so nothing is known about who comes next. Still
every schedule ends, none gets stuck, and the results come out in the order of the paths.
-/

set_option autoImplicit false

namespace Clausal

/-- A path whose file is to be compiled, and its position. -/
structure Task where
  position : Nat
  path : String

/-- What a task finishes with. -/
def Task.result (compile : String → FileOutcome) (task : Task) : Finished :=
  ⟨task.position, compile task.path⟩

/-- A batch on its way. -/
structure Batch where
  /-- The tasks still to be spawned, in order. -/
  ahead : List Task
  waiting : Multiset Task := 0
  running : Multiset Task := 0
  finished : Multiset Finished := 0
  /-- The results, in the order in which they were collected. -/
  collected : List Finished := []
  permits : Nat

namespace Batch

/-- One event of a batch. Results are collected once all tasks are spawned. -/
inductive Step (compile : String → FileOutcome) (batch : Batch) : Batch → Prop where
  | spawn {task : Task} {ahead : List Task} : batch.ahead = task :: ahead →
      Step compile batch { batch with ahead, waiting := task ::ₘ batch.waiting }
  | start {task : Task} {waiting : Multiset Task} {permits : Nat} :
      batch.waiting = task ::ₘ waiting → batch.permits = permits + 1 →
      Step compile batch { batch with waiting, running := task ::ₘ batch.running, permits }
  | finish {task : Task} {running : Multiset Task} : batch.running = task ::ₘ running →
      Step compile batch
        { batch with
          running
          finished := task.result compile ::ₘ batch.finished
          permits := batch.permits + 1 }
  | collect {result : Finished} {finished : Multiset Finished} : batch.ahead = [] →
      batch.finished = result ::ₘ finished →
      Step compile batch { batch with finished, collected := batch.collected ++ [result] }

/-- A schedule of so many events. -/
inductive Runs (compile : String → FileOutcome) (first : Batch) : Nat → Batch → Prop where
  | nil : Runs compile first 0 first
  | snoc {events : Nat} {last next : Batch} : Runs compile first events last →
      Step compile last next → Runs compile first (events + 1) next

/-- Nothing is left to wait for. -/
structure IsOver (batch : Batch) : Prop where
  ahead : batch.ahead = []
  waiting : batch.waiting = 0
  running : batch.running = 0
  finished : batch.finished = 0

/-- The files of the results collected so far. -/
def files (batch : Batch) : List FileOutcome :=
  Finished.inOrder batch.collected

/-- The results collected, and all that are still to come. -/
def results (compile : String → FileOutcome) (batch : Batch) : Multiset Finished :=
  ((batch.ahead : Multiset Task) + batch.waiting + batch.running).map (Task.result compile)
    + batch.finished + batch.collected

/-- The events that a batch still has ahead of it. -/
def remaining (batch : Batch) : Nat :=
  4 * batch.ahead.length + 3 * batch.waiting.card + 2 * batch.running.card + batch.finished.card

variable {compile : String → FileOutcome} {batch next first : Batch} {events : Nat}

theorem Step.results (step : Step compile batch next) :
    next.results compile = batch.results compile := by
  cases step with
  | spawn ahead =>
    simp only [Batch.results, ahead, ← Multiset.cons_coe, Multiset.cons_add, Multiset.add_cons,
      Multiset.map_cons]
  | start waiting =>
    simp only [Batch.results, waiting, Multiset.cons_add, Multiset.add_cons, Multiset.map_cons]
  | finish running =>
    simp only [Batch.results, running, Multiset.cons_add, Multiset.add_cons, Multiset.map_cons]
  | @collect result _ _ finished =>
    have last : ((batch.collected ++ [result] : List Finished) : Multiset Finished) =
        result ::ₘ batch.collected :=
      Multiset.coe_eq_coe.mpr (List.perm_append_singleton result batch.collected)
    simp only [Batch.results, finished, last, Multiset.cons_add, Multiset.add_cons]

/-- A permit is free or held by a task that runs. -/
theorem Step.permits (step : Step compile batch next) :
    next.permits + next.running.card = batch.permits + batch.running.card := by
  cases step with
  | spawn | collect => rfl
  | start _ taken => simp [taken]; omega
  | finish running => simp [running]; omega

theorem Step.remaining (step : Step compile batch next) :
    next.remaining + 1 = batch.remaining := by
  cases step with
  | spawn ahead => simp [Batch.remaining, ahead]; omega
  | start waiting => simp [Batch.remaining, waiting]; omega
  | finish running => simp [Batch.remaining, running]; omega
  | collect _ finished => simp [Batch.remaining, finished]; omega

/-- A batch is stuck only when it is over, as long as there is a permit at all. -/
theorem exists_step (compile : String → FileOutcome)
    (some_permit : 0 < batch.permits + batch.running.card) (unfinished : ¬ batch.IsOver) :
    ∃ next, Step compile batch next := by
  cases ahead : batch.ahead with
  | cons task rest => exact ⟨_, .spawn ahead⟩
  | nil =>
    by_cases finished : batch.finished = 0
    · by_cases running : batch.running = 0
      · -- Nobody runs, so all permits are free, and somebody waits.
        have waiting : batch.waiting ≠ 0 := fun none =>
          unfinished ⟨ahead, none, running, finished⟩
        obtain ⟨task, member⟩ := Multiset.exists_mem_of_ne_zero waiting
        obtain ⟨others, split⟩ := Multiset.exists_cons_of_mem member
        obtain ⟨permits, free⟩ : ∃ permits, batch.permits = permits + 1 := by
          simp only [running, Multiset.card_zero] at some_permit
          exact ⟨batch.permits - 1, by omega⟩
        exact ⟨_, .start split free⟩
      · obtain ⟨task, member⟩ := Multiset.exists_mem_of_ne_zero running
        obtain ⟨others, split⟩ := Multiset.exists_cons_of_mem member
        exact ⟨_, .finish split⟩
    · obtain ⟨result, member⟩ := Multiset.exists_mem_of_ne_zero finished
      obtain ⟨others, split⟩ := Multiset.exists_cons_of_mem member
      exact ⟨_, .collect ahead split⟩

namespace Runs

theorem results (run : Runs compile first events batch) :
    batch.results compile = first.results compile := by
  induction run with
  | nil => rfl
  | snoc _ step ih => exact step.results.trans ih

theorem permits (run : Runs compile first events batch) :
    batch.permits + batch.running.card = first.permits + first.running.card := by
  induction run with
  | nil => rfl
  | snoc _ step ih => exact step.permits.trans ih

theorem remaining (run : Runs compile first events batch) :
    batch.remaining + events = first.remaining := by
  induction run with
  | nil => rfl
  | snoc _ step ih =>
    have fewer := step.remaining
    omega

end Runs

end Batch

namespace Finished

/-- Results that come in any order are put into the order of their positions. -/
theorem inOrder_of_perm {results ordered : List Finished} (same : results.Perm ordered)
    (increasing : ordered.Pairwise fun first second => first.position < second.position) :
    inOrder results = ordered.map Finished.file := by
  have sorted : (results.mergeSort fun first second => first.position ≤ second.position).Pairwise
      fun first second => first.position ≤ second.position := by
    have total (first second : Finished) :
        (decide (first.position ≤ second.position) || second.position ≤ first.position) = true := by
      simpa using Nat.le_total first.position second.position
    simpa using List.pairwise_mergeSort (fun _ _ _ => by simpa using Nat.le_trans) total results
  have back : (results.mergeSort fun first second => first.position ≤ second.position).Perm ordered :=
    (List.mergeSort_perm _ _).trans same
  have distinct : (ordered.map Finished.position).Nodup :=
    (List.pairwise_map.mpr increasing).imp Nat.ne_of_lt
  refine congrArg _ (back.eq_of_pairwise ?_ sorted (increasing.imp Nat.le_of_lt))
  intro first second left right below above
  exact List.inj_on_of_nodup_map distinct (back.subset left) right (Nat.le_antisymm below above)

end Finished

/-- The tasks of a list of paths. -/
def Task.ofPaths (paths : List String) : List Task :=
  paths.zipIdx.map fun (path, position) => ⟨position, path⟩

theorem Task.ofPaths_increasing (paths : List String) :
    (ofPaths paths).Pairwise fun first second => first.position < second.position := by
  rw [List.pairwise_iff_getElem]
  intro i j _ _ earlier
  simpa [ofPaths] using earlier

namespace Compiler

/-- The batch of a compiler before its first event. Where the number of jobs is not set, there is one
for each processor. -/
def batch (compiler : Compiler) (host : Host) (paths : List String) : Batch :=
  { ahead := Task.ofPaths paths, permits := compiler.permits host }

variable (compiler : Compiler) (read : FileReader)

theorem permits_pos {host : Host} (some_processor : 0 < host.processors) :
    0 < compiler.permits host := by
  unfold permits
  cases jobs : compiler.jobs with
  | none => exact some_processor
  | some jobs' =>
    have allowed := compiler.some_job
    rw [jobs] at allowed
    exact Nat.pos_of_ne_zero fun zero => allowed (congrArg some zero)

theorem path_compileFile (path : String) : (compiler.compileFile read path).path = path := by
  unfold compileFile Clausal.compileFile
  split <;> rfl

/-- Results that come in any order turn out as the files of the paths. -/
theorem inOrder_of_perm_paths {paths : List String} {results : List Finished}
    (same : results.Perm ((Task.ofPaths paths).map (Task.result (compiler.compileFile read)))) :
    Finished.inOrder results = paths.map (compiler.compileFile read) := by
  have increasing := Task.ofPaths_increasing paths
  rw [Finished.inOrder_of_perm same (List.pairwise_map.mpr increasing)]
  have paths_eq : (Task.ofPaths paths).map Task.path = paths := by
    simp [Task.ofPaths, Function.comp_def]
  simpa [Task.result, Function.comp_def] using
    congrArg (List.map (compiler.compileFile read)) paths_eq

theorem compileFiles_eq {host : Host}
    (made : host.makesSemaphore (compiler.permits host) = true) (paths : List String) :
    compiler.compileFiles host read paths = some (paths.map (compiler.compileFile read)) := by
  rw [compileFiles, if_pos made]
  refine congrArg some (compiler.inOrder_of_perm_paths read ?_)
  rw [Task.ofPaths, List.map_map]
  exact .refl _

theorem files_of_isOver {host : Host} {paths : List String} {events : Nat} {last : Batch}
    (run : (compiler.batch host paths).Runs (compiler.compileFile read) events last)
    (ended : last.IsOver) : last.files = paths.map (compiler.compileFile read) := by
  refine compiler.inOrder_of_perm_paths read (Multiset.coe_eq_coe.mp ?_)
  have same := run.results
  simpa [Batch.results, ended.ahead, ended.waiting, ended.running, ended.finished, batch] using same

theorem compileFile_congr {read other : FileReader} {path : String}
    (same : other path = read path) :
    compiler.compileFile other path = compiler.compileFile read path := by
  unfold compileFile Clausal.compileFile
  rw [same]

end Compiler

/-- Files are compiled as if each were alone and come in the order of their paths, so that the other
files may be anything. Any schedule of the batch, whatever the number of jobs, goes on until it has
delivered just these files, and it ends. -/
theorem schedules_deliver_files (compiler : Compiler) (host : Host) (read : FileReader)
    (paths : List String) (some_processor : 0 < host.processors)
    (made : host.makesSemaphore (compiler.permits host) = true) :
    let files := paths.map (compiler.compileFile read)
    compiler.compileFiles host read paths = some files ∧
      files.map FileOutcome.path = paths ∧
      (∀ (other : FileReader) (changed : List FileOutcome) (i : Nat),
        compiler.compileFiles host other paths = some changed →
        (∀ path ∈ paths[i]?, other path = read path) → changed[i]? = files[i]?) ∧
      ∀ (events : Nat) (batch : Batch),
        (compiler.batch host paths).Runs (compiler.compileFile read) events batch →
        (batch.IsOver → batch.files = files) ∧
          (¬ batch.IsOver → ∃ next, batch.Step (compiler.compileFile read) next) ∧
          events ≤ 4 * paths.length := by
  intro files
  refine ⟨compiler.compileFiles_eq read made paths, ?_, ?_, ?_⟩
  · simp [files, Function.comp_def, Compiler.path_compileFile]
  · intro other changed i delivered same
    rw [compiler.compileFiles_eq other made paths, Option.some.injEq] at delivered
    rw [← delivered, List.getElem?_map, List.getElem?_map]
    exact Option.map_congr fun path member => compiler.compileFile_congr (same path member)
  · intro events batch run
    have permits : 0 < batch.permits + batch.running.card := by
      rw [run.permits]
      exact Nat.add_pos_left (compiler.permits_pos some_processor) _
    refine ⟨compiler.files_of_isOver read run, Batch.exists_step _ permits, ?_⟩
    have total := run.remaining
    simp only [Compiler.batch, Batch.remaining, Task.ofPaths, List.length_map, List.length_zipIdx,
      Multiset.card_zero] at total
    omega

/-- One job compiles a file at fault after one that is missing, although its path comes first. -/
theorem crossed_schedule_delivers :
    let compiler : Compiler := ⟨some 1, {}, by decide⟩
    let host : Host := .counting 2305843009213693951 1
    let read : FileReader := fun path => if path = "faulty" then .ok "end if" else .error .notFound
    ∃ batch, (compiler.batch host ["faulty", "missing"]).Runs (compiler.compileFile read) 8 batch ∧
      batch.collected.map Finished.position = [1, 0] ∧
      batch.files =
        [⟨"faulty", { errors := ["1:1: sentence 0 closes if-block-body but no scope is open"] }⟩,
          ⟨"missing", { errors := ["missing: No such file or directory (os error 2)"] }⟩] := by
  intro compiler host read
  let faulty : Task := ⟨0, "faulty"⟩
  let missing : Task := ⟨1, "missing"⟩
  have start : (compiler.batch host ["faulty", "missing"]).Runs (compiler.compileFile read) 0 _ :=
    .nil
  have spawned := start.snoc (@Batch.Step.spawn _ _ faulty [missing] rfl)
    |>.snoc (@Batch.Step.spawn _ _ missing [] rfl)
  have second := spawned.snoc (@Batch.Step.start _ _ missing (faulty ::ₘ 0) 0 rfl rfl)
    |>.snoc (@Batch.Step.finish _ _ missing 0 rfl)
  have first := second.snoc (@Batch.Step.start _ _ faulty 0 0 rfl rfl)
    |>.snoc (@Batch.Step.collect _ _ _ 0 rfl rfl)
    |>.snoc (@Batch.Step.finish _ _ faulty 0 rfl) |>.snoc (@Batch.Step.collect _ _ _ 0 rfl rfl)
  obtain ⟨-, -, -, deliver⟩ :=
    schedules_deliver_files compiler host read ["faulty", "missing"] (by decide) (by decide)
  refine ⟨_, first, rfl, ?_⟩
  rw [(deliver _ _ first).1 ⟨rfl, rfl, rfl, rfl⟩]
  decide +kernel

end Clausal
