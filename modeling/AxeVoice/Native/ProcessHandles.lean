import AxeVoice.Native.WindowsProcess

/-!
# The handles and the children of a process object

The object closes every handle that it opens, once, on every path of every one of
its functions.  A child that runs is the object's, and in the object's job, which
ends with its last handle; so no child outlives the object, and no two run at a
time.  A child is asked to quit once at most.
-/

namespace AxeVoice.Native

open Foundation

/-- The child later; it may have ended. -/
structure Child.Continues (earlier later : Child) : Prop where
  process : later.process = earlier.process
  inherited : later.inherited = earlier.inherited
  job : later.job = earlier.job
  resumed : later.resumed = earlier.resumed
  ended : earlier.ended = true → later.ended = true

theorem Child.Continues.refl (child : Child) : child.Continues child := ⟨rfl, rfl, rfl, rfl, id⟩

theorem Child.Continues.trans {first second third : Child} (before : first.Continues second)
    (after : second.Continues third) : first.Continues third :=
  ⟨after.process.trans before.process, after.inherited.trans before.inherited,
    after.job.trans before.job, after.resumed.trans before.resumed,
    fun ended => after.ended (before.ended ended)⟩

/-- Children may end; no other is made, and nothing else is noted. -/
structure SystemContinues (before after : Windows) : Prop where
  children : ∀ later ∈ after.children, ∃ earlier ∈ before.children, earlier.Continues later
  jobs : after.killOnJobClose = before.killOnJobClose
  workers : after.workers = before.workers
  quits : after.quits = before.quits
  next : before.table.next ≤ after.table.next

namespace SystemContinues

theorem refl (windows : Windows) : SystemContinues windows windows :=
  ⟨fun child member => ⟨child, member, .refl child⟩, rfl, rfl, rfl, Nat.le_refl _⟩

theorem trans {first second third : Windows} (before : SystemContinues first second)
    (after : SystemContinues second third) : SystemContinues first third := by
  refine ⟨fun later member => ?_, after.jobs.trans before.jobs, after.workers.trans before.workers,
    after.quits.trans before.quits, Nat.le_trans before.next after.next⟩
  obtain ⟨middle, known, continues⟩ := after.children later member
  obtain ⟨earlier, first, continued⟩ := before.children middle known
  exact ⟨earlier, first, continued.trans continues⟩

theorem table (windows : Windows) {table : HandleTable} (next : windows.table.next ≤ table.next) :
    SystemContinues windows (windows.withTable table) :=
  ⟨fun child member => ⟨child, member, .refl child⟩, rfl, rfl, rfl, next⟩

theorem endChildren (windows : Windows) (chosen : Child → Bool) :
    SystemContinues windows (windows.endChildren chosen) := by
  refine ⟨fun later member => ?_, rfl, rfl, rfl, Nat.le_refl _⟩
  obtain ⟨child, known, rfl⟩ := List.mem_map.mp member
  refine ⟨child, known, ?_⟩
  split
  · exact ⟨rfl, rfl, rfl, rfl, fun _ => rfl⟩
  · exact .refl child

theorem uses (windows : Windows) (handle : ℕ) : SystemContinues windows (windows.uses handle) :=
  .table windows (Nat.le_of_eq (HandleTable.uses_next _ _).symm)

theorem create (windows : Windows) : SystemContinues windows windows.create :=
  .table windows (Nat.le_succ _)

theorem closeHandle (windows : Windows) (handle : ℕ) :
    SystemContinues windows (windows.closeHandle handle) :=
  (table windows (Nat.le_of_eq (HandleTable.close_next _ _).symm)).trans (endChildren _ _)

theorem closeAll (windows : Windows) (handles : List ℕ) :
    SystemContinues windows (windows.closeAll handles) := by
  induction handles generalizing windows with
  | nil => exact .refl windows
  | cons handle rest ih => exact (closeHandle windows handle).trans (ih _)

theorem terminateJobObject (windows : Windows) (job : ℕ) (outcome : CallOutcome) :
    SystemContinues windows (windows.terminateJobObject job outcome) := by
  unfold Windows.terminateJobObject
  dsimp only
  split
  · exact uses windows job
  · exact (uses windows job).trans (endChildren _ _)

theorem terminateProcess (windows : Windows) (process : ℕ) (outcome : CallOutcome) :
    SystemContinues windows (windows.terminateProcess process outcome) := by
  unfold Windows.terminateProcess
  dsimp only
  split
  · exact uses windows process
  · exact (uses windows process).trans (endChildren _ _)

theorem waitForSingleObject (windows : Windows) (process : ℕ) (answer : WaitAnswer) :
    SystemContinues windows (windows.waitForSingleObject process answer) := by
  unfold Windows.waitForSingleObject
  dsimp only
  split
  · exact (uses windows process).trans (endChildren _ _)
  · exact uses windows process

end SystemContinues

/-- The handles that are closed were owned; the others still are. -/
theorem closeAll_owns {windows : Windows} {handles rest : List ℕ}
    (owns : Owns windows.table (handles ++ rest)) : Owns (windows.closeAll handles).table rest := by
  induction handles generalizing windows with
  | nil => exact owns
  | cons handle others ih => exact @ih (windows.closeHandle handle) owns.close

section Tables

variable {windows : Windows} {held : List ℕ} {handle : ℕ}

theorem uses_table (owns : Owns windows.table held) (member : handle ∈ held) :
    windows.uses handle = windows := by
  unfold Windows.uses Windows.withTable
  rw [owns.uses member]

theorem terminateJobObject_table (owns : Owns windows.table held) (member : handle ∈ held)
    (outcome : CallOutcome) : (windows.terminateJobObject handle outcome).table = windows.table := by
  unfold Windows.terminateJobObject
  rw [uses_table owns member]
  dsimp only
  split <;> rfl

theorem terminateProcess_table (owns : Owns windows.table held) (member : handle ∈ held)
    (outcome : CallOutcome) : (windows.terminateProcess handle outcome).table = windows.table := by
  unfold Windows.terminateProcess
  rw [uses_table owns member]
  dsimp only
  split <;> rfl

theorem waitForSingleObject_table (owns : Owns windows.table held) (member : handle ∈ held)
    (answer : WaitAnswer) : (windows.waitForSingleObject handle answer).table = windows.table := by
  unfold Windows.waitForSingleObject
  rw [uses_table owns member]
  dsimp only
  split <;> rfl

end Tables

/-- Whatever is in a job that ends with its last handle has ended when that is closed. -/
theorem ended_of_closeHandle {windows : Windows} {job : ℕ}
    (kills : job ∈ windows.killOnJobClose) :
    ∀ child ∈ (windows.closeHandle job).children, child.job = some job → child.ended = true := by
  intro later member inside
  obtain ⟨child, -, rfl⟩ := List.mem_map.mp member
  split at inside
  · next chosen =>
      rw [if_pos chosen]
  · next other =>
      exact absurd (by simp [inside, kills]) other

def WindowsProcess.handles (object : WindowsProcess) : List ℕ :=
  object.stdinWrite.toList ++ object.process.toList ++ object.job.toList

/-- What the object and the threads that write hold. -/
def ProcessRun.held (run : ProcessRun) : List ℕ :=
  run.object.handles ++ run.windows.workers.map QuitWorker.writeEnd

/-- The child runs in the job of the object, which ends with its last handle. -/
structure Contained (run : ProcessRun) (child : Child) : Prop where
  current : run.object.process = some child.process
  inside : child.job = run.object.job
  job : ∃ job ∈ run.windows.killOnJobClose, run.object.job = some job

/-- The state of the object inside a function that holds the handles of its scope, too. -/
structure ProcessSound (run : ProcessRun) (scope : List ℕ) : Prop where
  owns : Owns run.windows.table (scope ++ run.held)
  running : ∀ child ∈ run.windows.children, child.resumed = true →
    child.ended = true ∨ Contained run child
  given : ∀ child ∈ run.windows.children, child.process < run.windows.table.next
  /-- What a child was given is closed here. -/
  inherited : ∀ child ∈ run.windows.children, ∀ handle ∈ child.inherited,
    handle < run.windows.table.next ∧ handle ∉ scope ++ run.held
  quits : run.windows.quits.Nodup
  asked : ∀ child ∈ run.windows.quits, child < run.windows.table.next
  unasked : ∀ process, run.object.process = some process → run.object.stdinWrite.isSome →
    process ∉ run.windows.quits
  piped : run.object.process = none → run.object.stdinWrite = none
  grouped : run.object.process.isSome → run.object.job.isSome

namespace ProcessSound

variable {run after : ProcessRun} {scope : List ℕ}

theorem initial : ProcessSound {} [] := by
  refine ⟨.initial, ?_, ?_, ?_, .nil, ?_, ?_, fun _ => rfl, fun some_ => by cases some_⟩
  · exact fun child member => by cases member
  · exact fun child member => by cases member
  · exact fun child member => by cases member
  · exact fun child member => by cases member
  · exact fun process some_ => by cases some_

/-- The object keeps its process and its job, while the system goes on. -/
theorem onward (sound : ProcessSound run scope) {left : List ℕ}
    (continues : SystemContinues run.windows after.windows)
    (owns : Owns after.windows.table (left ++ after.held))
    (kept : ∀ handle ∈ left ++ after.held,
      handle ∈ scope ++ run.held ∨ run.windows.table.next ≤ handle)
    (process : after.object.process = run.object.process)
    (job : after.object.job = run.object.job)
    (stdin : ∀ handle, after.object.stdinWrite = some handle → run.object.stdinWrite = some handle) :
    ProcessSound after left := by
  refine ⟨owns, ?_, ?_, ?_, continues.quits ▸ sound.quits, ?_, ?_, ?_, ?_⟩
  · intro later member resumed
    obtain ⟨child, known, same⟩ := continues.children later member
    refine (sound.running child known (same.resumed ▸ resumed)).imp same.ended fun contained => ?_
    refine ⟨?_, ?_, ?_⟩
    · rw [process, same.process, contained.current]
    · rw [same.job, job, contained.inside]
    · rw [continues.jobs, job]
      exact contained.job
  · intro later member
    obtain ⟨child, known, same⟩ := continues.children later member
    rw [same.process]
    exact Nat.lt_of_lt_of_le (sound.given child known) continues.next
  · intro later member handle inherits
    obtain ⟨child, known, same⟩ := continues.children later member
    obtain ⟨below, free⟩ := sound.inherited child known handle (same.inherited ▸ inherits)
    refine ⟨Nat.lt_of_lt_of_le below continues.next, fun holds => ?_⟩
    rcases kept handle holds with before | fresh
    · exact free before
    · exact absurd below (Nat.not_lt.mpr fresh)
  · intro child member
    exact Nat.lt_of_lt_of_le (sound.asked child (continues.quits ▸ member)) continues.next
  · intro current same opened
    rw [continues.quits]
    obtain ⟨handle, known⟩ := Option.isSome_iff_exists.mp opened
    exact sound.unasked current (process ▸ same) (by rw [stdin handle known]; rfl)
  · intro none_
    cases known : after.object.stdinWrite with
    | none => rfl
    | some handle =>
        have before := stdin handle known
        rw [sound.piped (process ▸ none_)] at before
        cases before
  · intro some_
    rw [job]
    exact sound.grouped (process ▸ some_)

/-- Only what the object notes changes. -/
theorem noted (sound : ProcessSound run scope) {object : WindowsProcess}
    (process : object.process = run.object.process) (job : object.job = run.object.job)
    (stdin : object.stdinWrite = run.object.stdinWrite) :
    ProcessSound { run with object := object } scope := by
  have held : ({ run with object := object } : ProcessRun).held = run.held := by
    unfold ProcessRun.held WindowsProcess.handles
    rw [process, job, stdin]
  refine sound.onward (.refl _) (held ▸ sound.owns) (fun handle member => .inl (held ▸ member))
    process job fun handle same => ?_
  exact stdin ▸ same

/-- A call that gives out no handle. -/
theorem called (sound : ProcessSound run scope) {windows : Windows}
    (continues : SystemContinues run.windows windows) (table : windows.table = run.windows.table) :
    ProcessSound { run with windows := windows } scope := by
  have held : ({ run with windows := windows } : ProcessRun).held = run.held := by
    unfold ProcessRun.held
    rw [continues.workers]
  refine sound.onward continues ?_ (fun handle member => .inl (held ▸ member)) rfl rfl
    fun handle same => same
  rw [held, table]
  exact sound.owns

theorem created (sound : ProcessSound run scope) :
    ProcessSound { run with windows := run.windows.create } (run.windows.table.next :: scope) := by
  refine sound.onward (.create _) sound.owns.create (fun handle member => ?_) rfl rfl
    fun handle same => same
  rcases List.mem_cons.mp member with rfl | before
  · exact .inr (Nat.le_refl _)
  · exact .inl before

theorem closed {handle : ℕ} (sound : ProcessSound run (handle :: scope)) :
    ProcessSound { run with windows := run.windows.closeHandle handle } scope := by
  refine sound.onward (.closeHandle _ _) sound.owns.close (fun other member => ?_) rfl rfl
    fun other same => same
  exact .inl (List.mem_cons_of_mem _ member)

theorem closedAll {handles : List ℕ} (sound : ProcessSound run (handles ++ scope)) :
    ProcessSound { run with windows := run.windows.closeAll handles } scope := by
  induction handles generalizing run with
  | nil => exact sound
  | cons handle rest ih => exact ih sound.closed

/-- Releasing the handles ends what the job holds. -/
theorem ended_of_released (sound : ProcessSound run scope) :
    ∀ child ∈ run.releaseHandles.windows.children, child.resumed = true → child.ended = true := by
  intro later member resumed
  have continues := SystemContinues.closeAll run.windows
    (run.object.stdinWrite.toList ++ run.object.process.toList ++ run.object.job.toList)
  obtain ⟨child, known, same⟩ := continues.children later member
  rcases sound.running child known (same.resumed ▸ resumed) with ended | contained
  · exact same.ended ended
  · obtain ⟨job, kills, held⟩ := contained.job
    have split : run.releaseHandles.windows = (run.windows.closeAll
        (run.object.stdinWrite.toList ++ run.object.process.toList)).closeHandle job := by
      simp only [ProcessRun.releaseHandles, held, Option.toList_some, Windows.closeAll,
        List.foldl_append, List.foldl_cons, List.foldl_nil]
    rw [split] at member
    refine ended_of_closeHandle ?_ later member ?_
    · rw [(SystemContinues.closeAll run.windows _).jobs]
      exact kills
    · rw [same.job, contained.inside, held]

theorem released (sound : ProcessSound run scope) : ProcessSound run.releaseHandles scope := by
  have continues : SystemContinues run.windows run.releaseHandles.windows := .closeAll _ _
  have held : run.releaseHandles.held = run.windows.workers.map QuitWorker.writeEnd := by
    unfold ProcessRun.held
    rw [continues.workers]
    rfl
  have apart : (scope ++ run.held).Perm (run.object.handles ++ (scope ++ run.releaseHandles.held)) := by
    rw [held, ProcessRun.held, ← List.append_assoc, ← List.append_assoc]
    exact List.perm_append_comm.append_right _
  have owns : Owns run.releaseHandles.windows.table (scope ++ run.releaseHandles.held) :=
    closeAll_owns (sound.owns.perm apart)
  refine ⟨owns, fun child member resumed => .inl (sound.ended_of_released child member resumed),
    ?_, ?_, continues.quits ▸ sound.quits, ?_, (fun _ none_ => by cases none_), fun _ => rfl,
    (fun none_ => by cases none_)⟩
  · intro later member
    obtain ⟨child, known, same⟩ := continues.children later member
    rw [same.process]
    exact Nat.lt_of_lt_of_le (sound.given child known) continues.next
  · intro later member handle inherits
    obtain ⟨child, known, same⟩ := continues.children later member
    obtain ⟨below, free⟩ := sound.inherited child known handle (same.inherited ▸ inherits)
    refine ⟨Nat.lt_of_lt_of_le below continues.next, fun holds => free ?_⟩
    exact apart.mem_iff.mpr (List.mem_append_right _ holds)
  · intro child member
    exact Nat.lt_of_lt_of_le (sound.asked child (continues.quits ▸ member)) continues.next

end ProcessSound

/-- Between calls there is a job only beside a process. -/
structure Resting (run : ProcessRun) : Prop where
  sound : ProcessSound run []
  free : run.object.process = none → run.object.job = none

namespace Resting

variable {run : ProcessRun}

theorem initial : Resting {} := ⟨.initial, fun _ => rfl⟩

/-- A function that leaves the handles released ends at rest. -/
theorem of_released {scope : List ℕ} (sound : ProcessSound run scope) (state : ProcessStatus)
    (empty : scope = []) : Resting (run.releaseHandles.withState state) := by
  subst empty
  exact ⟨sound.released.noted rfl rfl rfl, fun _ => rfl⟩

end Resting

section Functions

variable {run : ProcessRun} {scope : List ℕ}

theorem ProcessSound.withError (sound : ProcessSound run scope) (error : UInt32) :
    ProcessSound (run.withError error) scope := sound.noted rfl rfl rfl

theorem ProcessSound.withState (sound : ProcessSound run scope) (state : ProcessStatus) :
    ProcessSound (run.withState state) scope := sound.noted rfl rfl rfl

theorem ProcessSound.noting (sound : ProcessSound run scope) (outcome : CallOutcome) :
    ProcessSound (run.noting outcome) scope := by
  cases outcome with
  | none => exact sound
  | some error => exact sound.withError error

theorem ProcessSound.notingExit (sound : ProcessSound run scope) (answer : Except UInt32 UInt32) :
    ProcessSound (run.notingExit answer) scope := by
  cases answer <;> exact sound.noted rfl rfl rfl

theorem ProcessSound.notingWait (sound : ProcessSound run scope) (answer : WaitAnswer) :
    ProcessSound (run.notingWait answer) scope := by
  cases answer with
  | failed error => exact sound.withError error
  | object | timeout => exact sound

/-- The object holds its process. -/
theorem mem_of_process {process : ℕ} (current : run.object.process = some process) :
    process ∈ scope ++ run.held := by
  simp [ProcessRun.held, WindowsProcess.handles, current]

theorem mem_of_job {job : ℕ} (grouped : run.object.job = some job) :
    job ∈ scope ++ run.held := by
  simp [ProcessRun.held, WindowsProcess.handles, grouped]

theorem mem_of_stdin {stdin : ℕ} (piped : run.object.stdinWrite = some stdin) :
    stdin ∈ scope ++ run.held := by
  simp [ProcessRun.held, WindowsProcess.handles, piped]

theorem ProcessSound.waited (sound : ProcessSound run scope) {process : ℕ}
    (current : run.object.process = some process) (answer : WaitAnswer) :
    ProcessSound (run.waited process answer) scope :=
  sound.called (.waitForSingleObject _ _ _)
    (waitForSingleObject_table sound.owns (mem_of_process current) answer)

/-- The job is terminated; the object keeps what it holds. -/
theorem ProcessSound.killed (sound : ProcessSound run scope) {process : ℕ}
    (current : run.object.process = some process) (answers : StopAnswers) :
    ProcessSound (run.killed process answers) scope := by
  obtain ⟨job, grouped⟩ := Option.isSome_iff_exists.mp (sound.grouped (by rw [current]; rfl))
  have owned : (run.object.job.getD 0) ∈ scope ++ run.held := by
    rw [grouped]
    exact mem_of_job grouped
  have terminated := sound.called (.terminateJobObject run.windows _ answers.terminated)
    (terminateJobObject_table sound.owns owned answers.terminated)
  refine ((terminated.noting answers.terminated).waited ?_ answers.wait).notingWait answers.wait
  cases answers.terminated <;> exact current

theorem Resting.poll (resting : Resting run) (answers : PollAnswers) :
    Resting (run.poll answers).2 := by
  unfold ProcessRun.poll
  split
  · exact resting
  · next process current =>
      have waited := resting.sound.waited current answers.wait
      have busy : (run.waited process answers.wait).object.process = none →
          (run.waited process answers.wait).object.job = none := resting.free
      dsimp only
      split
      · exact ⟨waited.withState _, busy⟩
      · exact .of_released (waited.notingExit _) _ rfl
      · exact ⟨(waited.withError _).withState _, busy⟩

theorem Resting.stop (resting : Resting run) (answers : StopAnswers) :
    Resting (run.stop answers).2 := by
  have cleared : ProcessSound run.withoutExit [] := resting.sound.noted rfl rfl rfl
  unfold ProcessRun.stop
  split
  · exact .of_released cleared _ rfl
  · next process current => exact .of_released (cleared.killed current answers) _ rfl

/-- The object gives up the pipe of a child that it has asked to quit. -/
theorem ProcessSound.detached (sound : ProcessSound run scope) {process stdin : ℕ}
    (current : run.object.process = some process) (piped : run.object.stdinWrite = some stdin) :
    ProcessSound ⟨{ run.object with stdinWrite := none }, run.windows.noteQuit process⟩
      (stdin :: scope) := by
  have held : run.held = stdin ::
      ProcessRun.held ⟨{ run.object with stdinWrite := none }, run.windows.noteQuit process⟩ := by
    simp [ProcessRun.held, WindowsProcess.handles, piped, Windows.noteQuit]
  have same := held ▸ (@List.perm_middle _ _ scope _).symm
  have owns := sound.owns.perm same.symm
  refine ⟨owns, ?_, sound.given, ?_, ?_, ?_, (fun _ _ opened => by cases opened), fun _ => rfl,
    sound.grouped⟩
  · intro child member resumed
    refine (sound.running child member resumed).imp_right fun contained => ?_
    exact ⟨contained.current, contained.inside, contained.job⟩
  · intro child member handle inherits
    obtain ⟨below, free⟩ := sound.inherited child member handle inherits
    exact ⟨below, fun holds => free (same.mem_iff.mp holds)⟩
  · exact List.nodup_cons.mpr ⟨sound.unasked process current (by rw [piped]; rfl), sound.quits⟩
  · intro child member
    rcases List.mem_cons.mp member with rfl | before
    · exact sound.owns.given _ (mem_of_process current)
    · exact sound.asked child before

/-- A thread takes over a handle of the scope. -/
theorem ProcessSound.handedOver {handle : ℕ} (sound : ProcessSound run (handle :: scope)) (child : ℕ) :
    ProcessSound { run with windows := { run.windows with
      workers := ⟨handle, child⟩ :: run.windows.workers } } scope := by
  have same : (handle :: scope ++ run.held).Perm (scope ++ ({ run with windows :=
      { run.windows with workers := ⟨handle, child⟩ :: run.windows.workers } } : ProcessRun).held) := by
    simp only [ProcessRun.held, List.map_cons, List.cons_append, ← List.append_assoc]
    exact List.perm_middle.symm
  refine ⟨sound.owns.perm same, ?_, sound.given, ?_, sound.quits, sound.asked, sound.unasked,
    sound.piped, sound.grouped⟩
  · intro child member resumed
    refine (sound.running child member resumed).imp_right fun contained => ?_
    exact ⟨contained.current, contained.inside, contained.job⟩
  · intro child member handle inherits
    obtain ⟨below, free⟩ := sound.inherited child member handle inherits
    exact ⟨below, fun holds => free (same.mem_iff.mpr holds)⟩

theorem writeEnd_eq_some {process stdin : ℕ} (known : run.writeEnd = some (process, stdin)) :
    run.object.process = some process ∧ run.object.stdinWrite = some stdin := by
  obtain ⟨current, first, rest⟩ := Option.bind_eq_some_iff.mp known
  obtain ⟨handle, second, same⟩ := Option.bind_eq_some_iff.mp rest
  cases same
  exact ⟨first, second⟩

theorem ProcessSound.requestQuit (sound : ProcessSound run scope) (write : WriteAnswer) :
    ProcessSound (run.requestQuit write).2 scope ∧
      (run.requestQuit write).2.object.process = run.object.process ∧
        (run.requestQuit write).2.object.job = run.object.job := by
  unfold ProcessRun.requestQuit
  split
  · exact ⟨sound.withError _, rfl, rfl⟩
  · next process stdin known =>
      obtain ⟨current, piped⟩ := writeEnd_eq_some known
      have detached := (sound.detached current piped).closed
      dsimp only
      rw [uses_table sound.owns (mem_of_stdin piped)]
      cases write with
      | error error => exact ⟨detached.noted rfl rfl rfl, rfl, rfl⟩
      | ok whole => cases whole <;> exact ⟨detached.noted rfl rfl rfl, rfl, rfl⟩

theorem Resting.requestQuitAsync (resting : Resting run) (duplicated started : CallOutcome) :
    Resting (run.requestQuitAsync duplicated started).2 := by
  have sound := resting.sound
  unfold ProcessRun.requestQuitAsync
  split
  · exact ⟨sound.withError _, resting.free⟩
  · next process stdin known =>
      obtain ⟨current, piped⟩ := writeEnd_eq_some known
      dsimp only
      rw [uses_table sound.owns (mem_of_stdin piped)]
      split
      · exact ⟨sound.withError _, resting.free⟩
      · have doubled := sound.created
        split
        · exact ⟨(doubled.withError _).closed, resting.free⟩
        · -- the handle of the thread is closed at once, then the object's end of the pipe
          have apart := doubled.created.closed
          have detached := (apart.detached current piped).closed
          exact ⟨(detached.handedOver process).noted rfl rfl rfl, resting.free⟩

theorem Resting.stopGracefully (resting : Resting run) (answers : GracefulAnswers) :
    Resting (run.stopGracefully answers).2 := by
  unfold ProcessRun.stopGracefully
  split
  · exact resting.stop _
  · next process current =>
      obtain ⟨asked, same, -⟩ := resting.sound.requestQuit answers.write
      have waited := asked.waited (same.trans current) answers.wait
      dsimp only
      split
      · exact .of_released (waited.notingExit _) _ rfl
      · have kept : ((((run.requestQuit answers.write).2.waited process
            answers.wait).notingWait answers.wait).object.process = some process) := by
          cases answers.wait <;> exact same.trans current
        have killed := (waited.notingWait answers.wait).killed kept answers.stop
        have cleared : ProcessSound (ProcessRun.killed _ process answers.stop).withoutExit [] :=
          killed.noted rfl rfl rfl
        split
        · exact .of_released cleared _ rfl
        · exact .of_released cleared _ rfl

/-- A thread gives its handle up. -/
theorem ProcessSound.takenBack (sound : ProcessSound run scope) {worker : QuitWorker}
    (member : worker ∈ run.windows.workers) :
    ProcessSound { run with windows := { run.windows with
      workers := run.windows.workers.erase worker } } (worker.writeEnd :: scope) := by
  have apart : (scope ++ run.held).Perm (worker.writeEnd :: scope ++
      (run.object.handles ++ (run.windows.workers.erase worker).map QuitWorker.writeEnd)) := by
    have split := (List.perm_cons_erase member).map QuitWorker.writeEnd
    exact (((split.append_left _).trans List.perm_middle).append_left _).trans List.perm_middle
  refine ⟨sound.owns.perm apart, ?_, sound.given, ?_, sound.quits, sound.asked, sound.unasked,
    sound.piped, sound.grouped⟩
  · intro child known resumed
    refine (sound.running child known resumed).imp_right fun contained => ?_
    exact ⟨contained.current, contained.inside, contained.job⟩
  · intro child known handle inherits
    obtain ⟨below, free⟩ := sound.inherited child known handle inherits
    exact ⟨below, fun holds => free (apart.mem_iff.mpr holds)⟩

theorem Resting.workerStep (resting : Resting run) (worker : QuitWorker) :
    Resting (run.workerStep worker) := by
  unfold ProcessRun.workerStep
  split
  · next member =>
      have holds : worker.writeEnd ∈ [] ++ run.held :=
        List.mem_append_right _ (List.mem_append_right _ (List.mem_map_of_mem member))
      dsimp only
      rw [uses_table resting.sound.owns holds]
      exact ⟨(resting.sound.takenBack member).closed, resting.free⟩
  · exact resting

/-! ## The launch -/

theorem ProcessSound.perm (sound : ProcessSound run scope) {other : List ℕ} (same : scope.Perm other) :
    ProcessSound run other := by
  refine ⟨sound.owns.perm (same.append_right _), sound.running, sound.given, ?_, sound.quits,
    sound.asked, sound.unasked, sound.piped, sound.grouped⟩
  intro child known handle inherits
  obtain ⟨below, free⟩ := sound.inherited child known handle inherits
  exact ⟨below, fun holds => free ((same.append_right _).mem_iff.mpr holds)⟩

/-- The children that run later ran before. -/
def NoneStarted (before after : Windows) : Prop :=
  ∀ later ∈ after.children, later.resumed = true →
    ∃ earlier ∈ before.children, earlier.process = later.process ∧ earlier.resumed = true ∧
      (earlier.ended = true → later.ended = true)

/-- No child runs. -/
def NoneRuns (windows : Windows) : Prop :=
  ∀ child ∈ windows.children, child.resumed = true → child.ended = true

theorem NoneStarted.noneRuns {before after : Windows} (since : NoneStarted before after)
    (none_ : NoneRuns before) : NoneRuns after := by
  intro later known resumed
  obtain ⟨earlier, member, -, ran, ended⟩ := since later known resumed
  exact ended (none_ earlier member ran)

theorem NoneStarted.trans {first second third : Windows} (before : NoneStarted first second)
    (after : NoneStarted second third) : NoneStarted first third := by
  intro later known resumed
  obtain ⟨middle, member, same, ran, ended⟩ := after later known resumed
  obtain ⟨earlier, first, again, run, dead⟩ := before middle member ran
  exact ⟨earlier, first, again.trans same, run, fun early => ended (dead early)⟩

theorem SystemContinues.noneStarted {before after : Windows} (continues : SystemContinues before after) :
    NoneStarted before after := by
  intro later known resumed
  obtain ⟨earlier, member, same⟩ := continues.children later known
  exact ⟨earlier, member, same.process.symm, same.resumed.symm.trans resumed, same.ended⟩

/-- What a launch comes to: a child that runs in the object's job, or none that has run. -/
structure Launched (before : Windows) (result : Bool × ProcessRun) : Prop where
  resting : Resting result.2
  done : result.1 = true → result.2.object.state = .running ∧
    ∃ child ∈ result.2.windows.children, child.resumed = true ∧ child.ended = false ∧
      Contained result.2 child
  failed : result.1 = false → NoneStarted before result.2.windows

theorem Launched.refused {before : Windows} {left : ProcessRun} (resting : Resting left)
    (none_ : NoneStarted before left.windows) : Launched before (false, left) :=
  ⟨resting, (fun done => by cases done), fun _ => none_⟩

theorem Launched.since {first second : Windows} {result : Bool × ProcessRun}
    (launched : Launched second result) (before : NoneStarted first second) :
    Launched first result :=
  ⟨launched.resting, launched.done, fun failed => before.trans (launched.failed failed)⟩

/-- A launch that fails before there is a child. -/
theorem ProcessSound.failed (sound : ProcessSound run scope) (error : UInt32) :
    Launched run.windows (run.failed error scope) := by
  have released := ((sound.withError error).released.withState .failed)
  refine .refused ⟨?_, fun _ => rfl⟩ ?_
  · exact @ProcessSound.closedAll _ [] scope ((List.append_nil scope).symm ▸ released)
  · exact ((SystemContinues.closeAll run.windows _).trans (.closeAll _ _)).noneStarted

theorem ProcessSound.outOfMemory (sound : ProcessSound run scope) :
    Launched run.windows (run.outOfMemory scope) := by
  have left : ProcessSound { run with windows := run.windows.closeAll scope } [] :=
    @ProcessSound.closedAll _ [] scope ((List.append_nil scope).symm ▸ sound)
  refine .refused ⟨((left.released.withError _).withState _), fun _ => rfl⟩ ?_
  exact ((SystemContinues.closeAll run.windows _).trans (.closeAll _ _)).noneStarted

/-- The object takes over the handle of its job. -/
theorem ProcessSound.adopted {job : ℕ} (sound : ProcessSound run (job :: scope))
    (idle : run.object.process = none) (free : run.object.job = none) :
    ProcessSound { run with object := { run.object with job := some job } } scope := by
  have none_ := sound.piped idle
  have same : (job :: scope ++ run.held).Perm (scope ++
      ({ run with object := { run.object with job := some job } } : ProcessRun).held) := by
    simp only [ProcessRun.held, WindowsProcess.handles, idle, free, none_, Option.toList_none,
      Option.toList_some, List.nil_append, List.cons_append]
    exact List.perm_middle.symm
  refine ⟨sound.owns.perm same, ?_, sound.given, ?_, sound.quits, sound.asked, sound.unasked,
    sound.piped, fun _ => rfl⟩
  · intro child known resumed
    refine (sound.running child known resumed).imp_right fun contained => ?_
    cases idle.symm.trans contained.current
  · intro child known handle inherits
    obtain ⟨below, free⟩ := sound.inherited child known handle inherits
    exact ⟨below, fun holds => free (same.mem_iff.mpr holds)⟩

theorem ProcessSound.limited (sound : ProcessSound run scope) {job : ℕ}
    (grouped : run.object.job = some job) :
    ProcessSound { run with windows := run.windows.limitJob job } scope := by
  unfold Windows.limitJob
  rw [uses_table sound.owns (mem_of_job grouped)]
  refine ⟨sound.owns, ?_, sound.given, sound.inherited, sound.quits, sound.asked, sound.unasked,
    sound.piped, sound.grouped⟩
  intro child known resumed
  refine (sound.running child known resumed).imp_right fun contained => ?_
  obtain ⟨job, kills, same⟩ := contained.job
  exact ⟨contained.current, contained.inside, job, List.mem_cons_of_mem _ kills, same⟩

/-- A child is made that waits; it is given the reading end of the pipe, and the output. -/
theorem ProcessSound.spawned {read write nul job : ℕ} (sound : ProcessSound run [nul, write, read])
    (idle : run.object.process = none) (grouped : run.object.job = some job) (processId : UInt32) :
    ProcessSound (run.spawned read write nul processId) [run.windows.table.next + 1] := by
  have none_ := sound.piped idle
  have continues : SystemContinues (run.windows.createProcess [read, nul])
      (run.spawned read write nul processId).windows := .closeAll _ _
  have before : run.held = job :: run.windows.workers.map QuitWorker.writeEnd := by
    simp [ProcessRun.held, WindowsProcess.handles, idle, none_, grouped]
  have held : (run.spawned read write nul processId).held = write :: run.windows.table.next ::
      job :: run.windows.workers.map QuitWorker.writeEnd := by
    unfold ProcessRun.held
    rw [continues.workers]
    simp [ProcessRun.spawned, WindowsProcess.handles, grouped, Windows.createProcess,
      Windows.create, Windows.withTable]
  have apart : ((run.windows.table.next + 1) :: run.windows.table.next ::
      ([nul, write, read] ++ run.held)).Perm ([read, nul] ++
        ([run.windows.table.next + 1] ++ (run.spawned read write nul processId).held)) := by
    rw [held, before, List.perm_iff_count]
    intro handle
    simp only [List.cons_append, List.nil_append, List.count_cons]
    omega
  have owns : Owns (run.windows.createProcess [read, nul]).table ([read, nul] ++
      ([run.windows.table.next + 1] ++ (run.spawned read write nul processId).held)) :=
    sound.owns.create.create.perm apart
  have given {handle : ℕ} (member : handle ∈ [nul, write, read]) :
      handle < run.windows.table.next := sound.owns.given handle (List.mem_append_left _ member)
  have old {handle : ℕ} (below : handle < run.windows.table.next)
      (free : handle ∉ [nul, write, read] ++ run.held) :
      handle ∉ [run.windows.table.next + 1] ++ (run.spawned read write nul processId).held := by
    rw [held]
    rw [before] at free
    simp only [List.mem_append, List.mem_cons, List.not_mem_nil, or_false, not_or] at free ⊢
    exact ⟨by omega, free.1.2.1, by omega, free.2⟩
  have children : ∀ later ∈ (run.spawned read write nul processId).windows.children,
      later.process = run.windows.table.next ∧ later.inherited = [read, nul] ∧
          later.resumed = false ∨
        ∃ child ∈ run.windows.children, child.Continues later := by
    intro later member
    obtain ⟨child, known, same⟩ := continues.children later member
    rcases List.mem_cons.mp known with rfl | earlier
    · exact .inl ⟨same.process, same.inherited, same.resumed⟩
    · exact .inr ⟨child, earlier, same⟩
  have next : run.windows.table.next + 2 ≤
      (run.spawned read write nul processId).windows.table.next := continues.next
  refine ⟨closeAll_owns owns, ?_, ?_, ?_, ?_, ?_, ?_, (fun none_ => by cases none_), fun _ => ?_⟩
  · intro later member resumed
    rcases children later member with ⟨-, -, waits⟩ | ⟨child, known, same⟩
    · cases waits.symm.trans resumed
    · refine (sound.running child known (same.resumed ▸ resumed)).imp same.ended fun contained => ?_
      cases idle.symm.trans contained.current
  · intro later member
    rcases children later member with ⟨new, -⟩ | ⟨child, known, same⟩
    · omega
    · have below := sound.given child known
      rw [same.process]
      omega
  · intro later member handle inherits
    rcases children later member with ⟨-, new, -⟩ | ⟨child, known, same⟩
    · rw [new] at inherits
      have below : handle < run.windows.table.next := given (by
        rcases List.mem_cons.mp inherits with rfl | rest
        · simp
        · simp [List.mem_singleton.mp rest])
      refine ⟨by omega, fun holds => ?_⟩
      exact (List.nodup_append.mp owns.distinct).2.2 handle inherits handle holds rfl
    · obtain ⟨below, free⟩ := sound.inherited child known handle (same.inherited ▸ inherits)
      exact ⟨by omega, old below free⟩
  · rw [continues.quits]
    exact sound.quits
  · intro child member
    rw [continues.quits] at member
    have below := sound.asked child member
    omega
  · intro process current _ member
    cases current
    rw [continues.quits] at member
    exact Nat.lt_irrefl _ (sound.asked _ member)
  · exact Option.isSome_iff_exists.mpr ⟨job, grouped⟩

theorem ProcessSound.assigned (sound : ProcessSound run scope) {job process : ℕ}
    (current : run.object.process = some process) (grouped : run.object.job = some job) :
    ProcessSound { run with windows := run.windows.assignProcess job process } scope ∧
      NoneStarted run.windows (run.windows.assignProcess job process) ∧
        ∀ child ∈ (run.windows.assignProcess job process).children,
          child.process = process → child.job = some job := by
  unfold Windows.assignProcess
  rw [uses_table sound.owns (mem_of_job grouped), uses_table sound.owns (mem_of_process current)]
  have changed : ∀ later ∈ (run.windows.change (fun child => child.process = process)
      fun child => { child with job := some job }).children, ∃ child ∈ run.windows.children,
        later.process = child.process ∧ later.inherited = child.inherited ∧
          later.resumed = child.resumed ∧ later.ended = child.ended ∧
            (if child.process = process then later.job = some job else later.job = child.job) := by
    intro later member
    obtain ⟨child, known, rfl⟩ := List.mem_map.mp member
    refine ⟨child, known, ?_⟩
    by_cases chosen : child.process = process
    · simp [chosen]
    · simp [chosen]
  refine ⟨?_, ?_, ?_⟩
  · refine ⟨sound.owns, ?_, ?_, ?_, sound.quits, sound.asked, sound.unasked, sound.piped,
      sound.grouped⟩
    · intro later member resumed
      obtain ⟨child, known, process, -, ran, ended, job⟩ := changed later member
      refine (sound.running child known (ran ▸ resumed)).imp (fun dead => ended.trans dead)
        fun contained => ?_
      refine ⟨process ▸ contained.current, ?_, contained.job⟩
      split at job
      · exact job.trans grouped.symm
      · exact job.trans contained.inside
    · intro later member
      obtain ⟨child, known, process, -⟩ := changed later member
      rw [process]
      exact sound.given child known
    · intro later member handle inherits
      obtain ⟨child, known, -, inherited, -⟩ := changed later member
      exact sound.inherited child known handle (inherited ▸ inherits)
  · intro later member resumed
    obtain ⟨child, known, process, -, ran, ended, -⟩ := changed later member
    exact ⟨child, known, process.symm, ran ▸ resumed, fun dead => ended.trans dead⟩
  · intro later member same
    obtain ⟨child, known, process, -, -, -, job⟩ := changed later member
    rwa [if_pos (process.symm.trans same)] at job

/-- The child is resumed in the job of the object. -/
theorem ProcessSound.resumed {thread process job : ℕ} (sound : ProcessSound run (thread :: scope))
    (current : run.object.process = some process) (grouped : run.object.job = some job)
    (kills : job ∈ run.windows.killOnJobClose)
    (inside : ∀ child ∈ run.windows.children, child.process = process → child.job = some job) :
    ProcessSound { run with windows := run.windows.resumeThread thread process } (thread :: scope) := by
  unfold Windows.resumeThread
  rw [uses_table sound.owns List.mem_cons_self]
  have changed : ∀ later ∈ (run.windows.change (fun child => child.process = process)
      fun child => { child with resumed := true }).children, ∃ child ∈ run.windows.children,
        later.process = child.process ∧ later.inherited = child.inherited ∧
          later.job = child.job ∧ later.ended = child.ended ∧
            (later.resumed = true → child.process = process ∨ child.resumed = true) := by
    intro later member
    obtain ⟨child, known, rfl⟩ := List.mem_map.mp member
    refine ⟨child, known, ?_⟩
    by_cases chosen : child.process = process
    · simp [chosen]
    · simp [chosen]
  refine ⟨sound.owns, ?_, ?_, ?_, sound.quits, sound.asked, sound.unasked, sound.piped,
    sound.grouped⟩
  · intro later member resumed
    obtain ⟨child, known, same, -, job, ended, ran⟩ := changed later member
    rcases ran resumed with chosen | before
    · refine .inr ⟨?_, ?_, _, kills, grouped⟩
      · rw [same, chosen]
        exact current
      · rw [job, inside child known chosen, ← grouped]
    · refine (sound.running child known before).imp (fun dead => ended.trans dead) fun contained => ?_
      exact ⟨same ▸ contained.current, job.trans contained.inside, contained.job⟩
  · intro later member
    obtain ⟨child, known, same, -⟩ := changed later member
    rw [same]
    exact sound.given child known
  · intro later member handle inherits
    obtain ⟨child, known, -, inherited, -⟩ := changed later member
    exact sound.inherited child known handle (inherited ▸ inherits)

/-- A child that was just made waits to be resumed. -/
structure Suspended (run : ProcessRun) (process thread job : ℕ) : Prop where
  sound : ProcessSound run [thread]
  current : run.object.process = some process
  grouped : run.object.job = some job
  kills : job ∈ run.windows.killOnJobClose
  waits : ∃ child ∈ run.windows.children, child.process = process ∧ child.ended = false

theorem ProcessSound.abandoned {thread process : ℕ} (sound : ProcessSound run [thread])
    (current : run.object.process = some process) (wait : WaitAnswer) {before : Windows}
    (none_ : NoneStarted before run.windows) :
    Launched before (run.abandoned process thread wait) := by
  have closed := (sound.waited current wait).closed
  refine .refused (.of_released closed _ rfl) (none_.trans ?_)
  have waits : SystemContinues run.windows (run.waited process wait).windows :=
    .waitForSingleObject _ _ _
  exact ((waits.trans (.closeHandle _ thread)).trans (.closeAll _ _)).noneStarted

/-- The child that is resumed runs in the job. -/
theorem Suspended.runs {process thread job : ℕ} (suspended : Suspended run process thread job) :
    ∃ child ∈ (((run.windows.assignProcess job process).resumeThread thread process).closeHandle
      thread).children, child.resumed = true ∧ child.ended = false := by
  obtain ⟨child, known, rfl, alive⟩ := suspended.waits
  have other : job ≠ thread := by
    rintro rfl
    exact (List.nodup_cons.mp suspended.sound.owns.distinct).1
      (@mem_of_job _ [] _ suspended.grouped)
  refine ⟨{ child with job := some job, resumed := true }, ?_, rfl, alive⟩
  refine List.mem_map.mpr ⟨{ child with job := some job, resumed := true }, ?_, ?_⟩
  · refine List.mem_map.mpr ⟨{ child with job := some job }, ?_, ?_⟩
    · exact List.mem_map.mpr ⟨child, known, by simp⟩
    · simp
  · simp [other]

theorem Suspended.launched {process thread job : ℕ} (suspended : Suspended run process thread job)
    {before : Windows} (none_ : NoneStarted before run.windows) (answers : StartAnswers) :
    Launched before (run.startSuspended answers process thread) := by
  have runs := suspended.runs
  obtain ⟨sound, current, grouped, kills, -⟩ := suspended
  unfold ProcessRun.startSuspended
  rw [grouped]
  dsimp only [Option.getD_some]
  split
  · next error _ =>
      have terminated := (sound.withError error).called
        (.terminateProcess run.windows process answers.terminateProcess)
        (terminateProcess_table sound.owns (mem_of_process current) _)
      exact terminated.abandoned current _
        (none_.trans (SystemContinues.terminateProcess _ _ _).noneStarted)
  · obtain ⟨assigned, unstarted, inside⟩ := sound.assigned current grouped
    split
    · next error _ =>
        have used := uses_table assigned.owns (List.mem_append_left _ List.mem_cons_self)
        have terminated := (assigned.withError error).called
          (.terminateJobObject (run.windows.assignProcess job process) job
            answers.abandoned.terminated)
          (terminateJobObject_table assigned.owns (mem_of_job grouped) _)
        rw [used]
        exact terminated.abandoned current _ ((none_.trans unstarted).trans
          (SystemContinues.terminateJobObject _ _ _).noneStarted)
    · have resumed := (assigned.resumed current grouped kills inside).closed
      refine ⟨⟨resumed.withState _, fun none_ => ?_⟩, fun _ => ⟨rfl, ?_⟩, fun failed => by
        cases failed⟩
      · cases current.symm.trans none_
      · obtain ⟨child, member, ran, alive⟩ := runs
        refine ⟨child, member, ran, alive, ?_⟩
        rcases (resumed.withState .running).running child member ran with dead | contained
        · cases alive.symm.trans dead
        · exact contained

/-- The object has a job, and no process yet. -/
structure Prepared (run : ProcessRun) (job : ℕ) (scope : List ℕ) : Prop where
  sound : ProcessSound run scope
  idle : run.object.process = none
  grouped : run.object.job = some job
  kills : job ∈ run.windows.killOnJobClose

theorem Prepared.listed {read write nul job : ℕ} (prepared : Prepared run job [nul, write, read])
    (answers : StartAnswers) :
    Launched run.windows (run.startListed answers read write nul) := by
  obtain ⟨sound, idle, grouped, kills⟩ := prepared
  unfold ProcessRun.startListed
  split
  · exact sound.outOfMemory
  split
  · next error _ =>
      have apart : [nul, write, read].Perm ([read, nul] ++ [write]) := by
        rw [List.perm_iff_count]
        intro handle
        simp only [List.cons_append, List.nil_append, List.count_cons]
        omega
      have closed := ((sound.perm apart).closedAll).withError error
      refine .refused ⟨(closed.released.withState .failed).closed, fun _ => rfl⟩ ?_
      exact (((SystemContinues.closeAll run.windows [read, nul]).trans (.closeAll _ _)).trans
        (.closeHandle _ write)).noneStarted
  · have continues : SystemContinues (run.windows.createProcess [read, nul])
        (run.spawned read write nul answers.processId).windows := .closeAll _ _
    have unstarted : NoneStarted run.windows (run.windows.createProcess [read, nul]) := by
      intro later member resumed
      rcases List.mem_cons.mp member with rfl | before
      · cases resumed
      · exact ⟨later, before, rfl, resumed, id⟩
    refine Suspended.launched ⟨sound.spawned idle grouped _, rfl, grouped, ?_, ?_⟩
      (unstarted.trans continues.noneStarted) answers
    · rw [continues.jobs]
      exact kills
    · have waits : (⟨run.windows.table.next, [read, nul], none, false, false⟩ : Child) ∈
          ((run.windows.createProcess [read, nul]).closeHandle read).children :=
        List.mem_map.mpr ⟨_, List.mem_cons_self, if_neg (by simp)⟩
      exact ⟨_, List.mem_map.mpr ⟨_, waits, if_neg (by simp)⟩, rfl, rfl⟩

theorem Prepared.piped {read write job : ℕ} (prepared : Prepared run job [write, read])
    (answers : StartAnswers) : Launched run.windows (run.startPiped answers read write) := by
  obtain ⟨sound, idle, grouped, kills⟩ := prepared
  unfold ProcessRun.startPiped
  split
  · exact sound.failed _
  split
  · exact sound.failed _
  have opened := sound.created
  have since : NoneStarted run.windows run.windows.create := (SystemContinues.create _).noneStarted
  dsimp only
  split
  · exact opened.outOfMemory.since since
  split
  · exact (opened.failed _).since since
  · exact (opened.failed _).since since
  · exact (Prepared.listed ⟨opened, idle, grouped, kills⟩ answers).since since

theorem ProcessSound.inJob {job : ℕ} (sound : ProcessSound run []) (idle : run.object.process = none)
    (grouped : run.object.job = some job) (answers : StartAnswers) :
    Launched run.windows (run.startInJob answers job) := by
  unfold ProcessRun.startInJob
  split
  · have used := uses_table sound.owns (mem_of_job grouped)
    rw [used]
    exact sound.failed _
  have limited := sound.limited grouped
  have since : NoneStarted run.windows (run.windows.limitJob job) :=
    fun later member resumed => ⟨later, member, rfl, resumed, id⟩
  dsimp only
  split
  · exact (limited.failed _).since since
  · refine (@Prepared.piped _ _ _ job ⟨limited.created.created, idle, grouped, ?_⟩ answers).since
      (since.trans ((SystemContinues.create _).trans (.create _)).noneStarted)
    exact List.mem_cons_self

theorem stop_empty (answers : StopAnswers) :
    (run.stop answers).2.object.process = none ∧ (run.stop answers).2.object.job = none := by
  unfold ProcessRun.stop
  split <;> exact ⟨rfl, rfl⟩

theorem notingExit_windows (answer : Except UInt32 UInt32) :
    (run.notingExit answer).windows = run.windows := by
  cases answer <;> rfl

theorem notingWait_windows (answer : WaitAnswer) :
    (run.notingWait answer).windows = run.windows := by
  cases answer <;> rfl

theorem released_continues : SystemContinues run.windows run.releaseHandles.windows := .closeAll _ _

theorem poll_continues (answers : PollAnswers) :
    SystemContinues run.windows (run.poll answers).2.windows := by
  unfold ProcessRun.poll
  split
  · exact .refl _
  · next process _ =>
      have waits : SystemContinues run.windows (run.waited process answers.wait).windows :=
        .waitForSingleObject _ _ _
      dsimp only
      split
      · exact waits
      · have exited := @notingExit_windows (run.waited process answers.wait) answers.exitCode
        exact waits.trans (exited ▸ released_continues)
      · exact waits

theorem killed_continues (process : ℕ) (answers : StopAnswers) :
    SystemContinues run.windows (run.killed process answers).windows := by
  have terminates : SystemContinues run.windows
      (run.windows.terminateJobObject (run.object.job.getD 0) answers.terminated) :=
    .terminateJobObject _ _ _
  unfold ProcessRun.killed
  rw [notingWait_windows]
  cases known : answers.terminated with
  | none => exact (known ▸ terminates).trans (.waitForSingleObject _ _ _)
  | some error => exact (known ▸ terminates).trans (.waitForSingleObject _ _ _)

theorem stop_continues (answers : StopAnswers) :
    SystemContinues run.windows (run.stop answers).2.windows := by
  unfold ProcessRun.stop
  split
  · exact @released_continues run.withoutExit
  · next process _ =>
      exact (@killed_continues run.withoutExit process answers).trans released_continues

/-- Behind `stop` no child runs. -/
theorem Resting.stop_noneRuns (resting : Resting run) (answers : StopAnswers) :
    NoneRuns (run.stop answers).2.windows := by
  intro child member resumed
  refine ((resting.stop answers).sound.running child member resumed).resolve_right fun contained => ?_
  cases (stop_empty answers).1.symm.trans contained.current

theorem Resting.launchedStopped (resting : Resting run) (idle : run.object.process = none)
    (answers : StartAnswers) : Launched run.windows (run.startStopped answers) := by
  have free := resting.free idle
  have cleared : ProcessSound { run with
      object := { run.object with exitCode := none, lastError := 0 } } [] :=
    resting.sound.noted rfl rfl rfl
  have still : NoneStarted run.windows run.windows := (SystemContinues.refl _).noneStarted
  unfold ProcessRun.startStopped
  split
  · exact cleared.outOfMemory
  split
  · exact .refused ⟨(cleared.withError _).withState _, resting.free⟩ still
  split
  · exact .refused ⟨(cleared.withError _).withState _, resting.free⟩ still
  split
  · exact .refused ⟨(cleared.withError _).withState _, resting.free⟩ still
  · have adopted := cleared.created.adopted idle free
    exact (adopted.inJob idle rfl answers).since (SystemContinues.create _).noneStarted

theorem Resting.launched (resting : Resting run) (answers : StartAnswers) :
    Launched run.windows (run.start answers) := by
  have polled := resting.poll answers.poll
  have since := (@poll_continues run answers.poll).noneStarted
  unfold ProcessRun.start
  generalize run.poll answers.poll = result at polled since
  obtain ⟨status, left⟩ := result
  dsimp only at polled since ⊢
  split
  · exact .refused ⟨polled.sound.withError _, polled.free⟩ since
  · have stopped := polled.stop answers.stop
    refine (stopped.launchedStopped (stop_empty answers.stop).1 answers).since ?_
    exact since.trans (@stop_continues left answers.stop).noneStarted

/-- What a start that fails leaves: the child that it has found running, or none that runs. -/
def Refused (answers : StartAnswers) (before after : ProcessRun) : Prop :=
  if (before.poll answers.poll).1 = .running then
    after = (before.poll answers.poll).2.withError errorAlreadyExists
  else NoneRuns after.windows

theorem Resting.refused (resting : Resting run) (answers : StartAnswers)
    (failed : (run.start answers).1 = false) : Refused answers run (run.start answers).2 := by
  have polled := resting.poll answers.poll
  unfold Refused
  unfold ProcessRun.start at failed ⊢
  generalize run.poll answers.poll = result at failed polled ⊢
  obtain ⟨status, left⟩ := result
  dsimp only at failed polled ⊢
  split
  · rfl
  · next stopped =>
      rw [if_neg stopped] at failed
      have launched := (polled.stop answers.stop).launchedStopped (stop_empty answers.stop).1 answers
      exact (launched.failed failed).noneRuns (polled.stop_noneRuns answers.stop)

end Functions

/-! ## Runs -/

theorem Resting.step {run : ProcessRun} (resting : Resting run) (move : ProcessMove) :
    Resting (windowsProcessStep run move).2 := by
  cases move with
  | start answers => exact (resting.launched answers).resting
  | poll answers => exact resting.poll answers
  | requestQuit write =>
      obtain ⟨sound, process, job⟩ := resting.sound.requestQuit write
      exact ⟨sound, fun none_ => job.trans (resting.free (process.symm.trans none_))⟩
  | requestQuitAsync duplicated started => exact resting.requestQuitAsync duplicated started
  | stopGracefully answers => exact resting.stopGracefully answers
  | stop answers => exact resting.stop answers
  | worker worker => exact resting.workerStep worker
  | exits process => exact ⟨resting.sound.called (.endChildren _ _) rfl, resting.free⟩

theorem resting_run (moves : List ProcessMove) : Resting (finalState windowsProcessStep {} moves) :=
  finalState_invariant (fun _ move resting => resting.step move) .initial moves

/-- What the object does with handles and children, over a whole run. -/
structure ProcessKept (moves : List ProcessMove) : Prop where
  /-- No handle is used or closed that is not open. -/
  used : (finalState windowsProcessStep {} moves).windows.table.misused = false
  /-- The open handles are the object's and those of the threads that write. -/
  opened : (finalState windowsProcessStep {} moves).windows.table.opened.Perm
    ((finalState windowsProcessStep {} moves).object.handles ++
      (finalState windowsProcessStep {} moves).windows.workers.map QuitWorker.writeEnd)
  /-- A child that runs is the one of the object, in a job that ends with its last handle. -/
  contained : ∀ child ∈ (finalState windowsProcessStep {} moves).windows.children,
    child.resumed = true → child.ended = false →
      Contained (finalState windowsProcessStep {} moves) child
  /-- What a child was given is closed here, so that it sees the pipe close. -/
  inherited : ∀ child ∈ (finalState windowsProcessStep {} moves).windows.children,
    ∀ handle ∈ child.inherited,
      handle ∉ (finalState windowsProcessStep {} moves).windows.table.opened
  /-- A child is asked to quit once at most. -/
  asked : (finalState windowsProcessStep {} moves).windows.quits.Nodup
  /-- A start that fails starts nothing: it has found a child running, and leaves it, or leaves none
  that runs. -/
  launched : ∀ stage ∈ stages windowsProcessStep {} moves, ∀ answers done, stage.input = .start answers →
    stage.output = .started done → if done then ∃ child ∈ stage.after.windows.children,
      child.resumed = true ∧ child.ended = false ∧ Contained stage.after child
    else NoneStarted stage.before.windows stage.after.windows ∧
      Refused answers stage.before stage.after
  /-- Behind `stop`, and so behind the destructor, nothing is left but the threads that write. -/
  stopped : ∀ answers, ((finalState windowsProcessStep {} moves).stop answers).2.windows.table.opened.Perm
      (((finalState windowsProcessStep {} moves).stop answers).2.windows.workers.map
        QuitWorker.writeEnd) ∧
    NoneRuns ((finalState windowsProcessStep {} moves).stop answers).2.windows

theorem process_kept (moves : List ProcessMove) : ProcessKept moves := by
  have resting := resting_run moves
  have sound := resting.sound
  refine ⟨sound.owns.used, sound.owns.opened, ?_, ?_, sound.quits, ?_, ?_⟩
  · intro child member resumed alive
    refine (sound.running child member resumed).resolve_left fun ended => ?_
    cases alive.symm.trans ended
  · intro child member handle inherits opened
    exact (sound.inherited child member handle inherits).2 (sound.owns.opened.mem_iff.mp opened)
  · refine @stages_forall _ _ _ _ Resting _ (fun _ move resting => resting.step move) ?_ _ .initial moves
    intro run move resting answers done input output
    change move = .start answers at input
    subst input
    have launched := resting.launched answers
    change ProcessObserved.started (run.start answers).1 = .started done at output
    cases output
    cases result : (run.start answers).1 with
    | true =>
        rw [if_pos rfl]
        exact (launched.done result).2
    | false =>
        rw [if_neg (by decide)]
        exact ⟨launched.failed result, resting.refused answers result⟩
  · intro answers
    refine ⟨?_, resting.stop_noneRuns answers⟩
    have stopped := (resting.stop answers).sound
    obtain ⟨idle, free⟩ := @stop_empty (finalState windowsProcessStep {} moves) answers
    generalize ((finalState windowsProcessStep {} moves).stop answers).2 = left at stopped idle free ⊢
    have opened := stopped.owns.opened
    simpa [ProcessRun.held, WindowsProcess.handles, idle, free, stopped.piped idle] using opened

end AxeVoice.Native
