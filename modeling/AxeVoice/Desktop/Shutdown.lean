import AxeVoice.Native.ProcessHandles

/-!
# How the desktop ends the process of its engine

The desktop asks the process to quit and gives it a grace period; its timer looks
whether the process has ended, and ends it by force when the period is over.  A
window that is to be closed waits for that.  The threads that write to the process,
and the process itself, go on meanwhile.
-/

namespace AxeVoice.Desktop

open Foundation Native

structure ShutdownDeadline where
  startedAt : UInt64 := 0
  pending : Bool := false
  deriving DecidableEq, Repr

namespace ShutdownDeadline

variable (deadline : ShutdownDeadline)

def begin (now : UInt64) : ShutdownDeadline :=
  if deadline.pending then deadline else ⟨now, true⟩

def expired (now timeout : UInt64) : Bool := deadline.pending && now - deadline.startedAt ≥ timeout

def clear : ShutdownDeadline := ⟨0, false⟩

end ShutdownDeadline

def gracePeriodMs : UInt64 := 1500

structure EngineDesk where
  process : ProcessRun := {}
  shutdown : ShutdownDeadline := {}
  closeRequested : Bool := false
  lastProcessState : ProcessStatus := .stopped
  /-- The buttons that start and stop the engine. -/
  buttons : Bool := true
  /-- The user is asked whether to start the engine. -/
  prompting : Bool := false
  destroyed : Bool := false

inductive EngineMove where
  /-- `found`: the executable, and its modules, are as they should be. -/
  | startButton (found : Bool) (poll : PollAnswers)
  /-- `ready`: the profile could be prepared. -/
  | confirm (yes ready : Bool) (answers : StartAnswers)
  | stopButton (poll : PollAnswers) (duplicated started : CallOutcome) (now : UInt64)
  | timer (banner poll : PollAnswers) (now : UInt64) (forced destroyed : StopAnswers)
  | close (poll : PollAnswers) (duplicated started : CallOutcome) (now : UInt64)
      (destroyed : StopAnswers)
  /-- Other handlers look at the process. -/
  | poll (answers : PollAnswers)
  /-- The window is destroyed from outside. -/
  | destroy (answers : StopAnswers)
  | worker (worker : QuitWorker)
  | exits (process : ℕ)

namespace EngineDesk

variable (desk : EngineDesk)

def polled (answers : PollAnswers) : ProcessStatus × EngineDesk :=
  let (status, process) := desk.process.poll answers
  (status, { desk with process := process })

def beginShutdown (duplicated started : CallOutcome) (now : UInt64) : EngineDesk :=
  { desk with
    process := (desk.process.requestQuitAsync duplicated started).2
    shutdown := desk.shutdown.begin now
    buttons := false }

/-- `DestroyWindow`; its message stops the process. -/
def destroy (answers : StopAnswers) : EngineDesk :=
  { desk with
    process := (desk.process.stop answers).2
    prompting := false
    destroyed := true }

/-- The shutdown is over. -/
def ended (state : ProcessStatus) (destroyed : StopAnswers) : EngineDesk :=
  let cleared := { desk with shutdown := .clear, lastProcessState := state }
  if cleared.closeRequested then cleared.destroy destroyed else { cleared with buttons := true }

def startButton (found : Bool) (answers : PollAnswers) : EngineDesk :=
  if desk.shutdown.pending || !found then desk
  else
    let (status, polled) := desk.polled answers
    if status = .running then polled else { polled with prompting := true }

def confirm (yes ready : Bool) (answers : StartAnswers) : EngineDesk :=
  let asked := { desk with prompting := false }
  if !desk.prompting || !yes || !ready then asked
  else
    let (started, process) := asked.process.start answers
    { asked with
      process := process
      lastProcessState := if started then .running else .failed }

def stopButton (answers : PollAnswers) (duplicated started : CallOutcome) (now : UInt64) :
    EngineDesk :=
  if desk.shutdown.pending then desk
  else
    let (status, polled) := desk.polled answers
    if status ≠ .running then polled else polled.beginShutdown duplicated started now

/-- `kProcessTimer`, behind the banner. -/
def timer (answers : PollAnswers) (now : UInt64) (forced destroyed : StopAnswers) : EngineDesk :=
  let (status, polled) := desk.polled answers
  if desk.shutdown.pending then
    if status = .exited then polled.ended .stopped destroyed
    else if status ≠ .running || desk.shutdown.expired now gracePeriodMs then
      let (stopped, process) := polled.process.stop forced
      { polled with process := process }.ended (if stopped then .stopped else .failed) destroyed
    else polled
  else { polled with lastProcessState := status }

def close (answers : PollAnswers) (duplicated started : CallOutcome) (now : UInt64)
    (destroyed : StopAnswers) : EngineDesk :=
  if desk.shutdown.pending then { desk with closeRequested := true }
  else
    let (status, polled) := desk.polled answers
    if status = .running then
      { polled with closeRequested := true }.beginShutdown duplicated started now
    else polled.destroy destroyed

end EngineDesk

/-- A window that is destroyed gets no messages. -/
def engineDeskStep (desk : EngineDesk) : EngineMove → Unit × EngineDesk
  | .worker worker => ((), { desk with process := desk.process.workerStep worker })
  | .exits process =>
      ((), { desk with process := (windowsProcessStep desk.process (.exits process)).2 })
  | move => ((),
      if desk.destroyed then desk
      else match move with
        | .startButton found answers => desk.startButton found answers
        | .confirm yes ready answers => desk.confirm yes ready answers
        | .stopButton answers duplicated started now => desk.stopButton answers duplicated started now
        | .timer banner answers now forced destroyed =>
            (desk.polled banner).2.timer answers now forced destroyed
        | .close answers duplicated started now destroyed =>
            desk.close answers duplicated started now destroyed
        | .poll answers => (desk.polled answers).2
        | .destroy answers => desk.destroy answers
        | _ => desk)

structure Governed (desk : EngineDesk) : Prop where
  resting : Resting desk.process
  buttons : desk.destroyed = false → desk.buttons = !desk.shutdown.pending
  closing : desk.closeRequested = true → desk.shutdown.pending = true ∨ desk.destroyed = true
  gone : desk.destroyed = true → desk.process.object.process = none

theorem ended_of_no_process {run : ProcessRun} (resting : Resting run)
    (none_ : run.object.process = none) :
    run.object.handles = [] ∧
      ∀ child ∈ run.windows.children, child.resumed = true → child.ended = true := by
  constructor
  · simp [WindowsProcess.handles, none_, resting.sound.piped none_, resting.free none_]
  · intro child member resumed
    refine (resting.sound.running child member resumed).resolve_right fun contained => ?_
    cases none_.symm.trans contained.current

theorem process_of_exited {run : ProcessRun} {answers : PollAnswers}
    (exited : (run.poll answers).1 = .exited) : (run.poll answers).2.object.process = none := by
  unfold ProcessRun.poll at exited ⊢
  split
  · next none_ => exact none_
  · next process current =>
      simp only [current] at exited
      dsimp only at exited ⊢
      split
      · next running =>
          simp only [running] at exited
          cases exited
      · rfl
      · next error failed =>
          simp only [failed] at exited
          cases exited

theorem pending_of_begun (desk : EngineDesk) (duplicated started : CallOutcome) (now : UInt64) :
    (desk.beginShutdown duplicated started now).shutdown.pending = true := by
  simp only [EngineDesk.beginShutdown, ShutdownDeadline.begin]
  split
  · next pending => exact pending
  · rfl

namespace Governed

variable {desk : EngineDesk}

theorem initial : Governed {} :=
  ⟨.initial, fun _ => rfl, (fun closing => by cases closing), (fun gone => by cases gone)⟩

theorem polled (governed : Governed desk) (alive : desk.destroyed = false) (answers : PollAnswers) :
    Governed (desk.polled answers).2 :=
  ⟨governed.resting.poll answers, governed.buttons, governed.closing,
    fun gone => by cases alive.symm.trans gone⟩

theorem destroy (governed : Governed desk) (answers : StopAnswers) :
    Governed (desk.destroy answers) :=
  ⟨governed.resting.stop answers, (fun alive => by cases alive), fun _ => .inr rfl,
    fun _ => (stop_empty answers).1⟩

theorem beginShutdown (governed : Governed desk) (alive : desk.destroyed = false)
    (duplicated started : CallOutcome) (now : UInt64) :
    Governed (desk.beginShutdown duplicated started now) := by
  have pending := pending_of_begun desk duplicated started now
  refine ⟨governed.resting.requestQuitAsync duplicated started, fun _ => ?_, fun _ => .inl pending,
    fun gone => by cases alive.symm.trans gone⟩
  rw [pending]
  rfl

theorem ended (governed : Governed desk) (alive : desk.destroyed = false)
    (state : ProcessStatus) (answers : StopAnswers) :
    Governed (desk.ended state answers) := by
  unfold EngineDesk.ended
  dsimp only
  split
  · exact ⟨governed.resting.stop answers, (fun alive => by cases alive), fun _ => .inr rfl,
      fun _ => (stop_empty answers).1⟩
  · next open_ =>
      exact ⟨governed.resting, fun _ => rfl, fun closing => absurd closing open_,
        fun gone => by cases alive.symm.trans gone⟩

theorem startButton (governed : Governed desk) (alive : desk.destroyed = false) (found : Bool)
    (answers : PollAnswers) : Governed (desk.startButton found answers) := by
  have polled := governed.polled alive answers
  unfold EngineDesk.startButton
  split
  · exact governed
  dsimp only
  split
  · exact polled
  · exact ⟨polled.resting, polled.buttons, polled.closing, polled.gone⟩

theorem confirm (governed : Governed desk) (alive : desk.destroyed = false) (yes ready : Bool)
    (answers : StartAnswers) : Governed (desk.confirm yes ready answers) := by
  unfold EngineDesk.confirm
  dsimp only
  split
  · exact ⟨governed.resting, governed.buttons, governed.closing, governed.gone⟩
  · exact ⟨(governed.resting.launched answers).resting, governed.buttons, governed.closing,
      fun gone => by cases alive.symm.trans gone⟩

theorem stopButton (governed : Governed desk) (alive : desk.destroyed = false)
    (answers : PollAnswers) (duplicated started : CallOutcome) (now : UInt64) :
    Governed (desk.stopButton answers duplicated started now) := by
  have polled := governed.polled alive answers
  unfold EngineDesk.stopButton
  split
  · exact governed
  dsimp only
  split
  · exact polled
  · exact polled.beginShutdown alive duplicated started now

theorem timer (governed : Governed desk) (alive : desk.destroyed = false) (answers : PollAnswers)
    (now : UInt64) (forced destroyed : StopAnswers) :
    Governed (desk.timer answers now forced destroyed) := by
  have polled := governed.polled alive answers
  unfold EngineDesk.timer
  dsimp only
  split
  · split
    · exact polled.ended alive _ destroyed
    split
    · have stopped : Governed { (desk.polled answers).2 with
          process := ((desk.polled answers).2.process.stop forced).2 } :=
        ⟨polled.resting.stop forced, polled.buttons, polled.closing,
          fun gone => by cases alive.symm.trans gone⟩
      exact stopped.ended alive _ destroyed
    · exact polled
  · exact ⟨polled.resting, polled.buttons, polled.closing, polled.gone⟩

theorem close (governed : Governed desk) (alive : desk.destroyed = false) (answers : PollAnswers)
    (duplicated started : CallOutcome) (now : UInt64) (destroyed : StopAnswers) :
    Governed (desk.close answers duplicated started now destroyed) := by
  have polled := governed.polled alive answers
  unfold EngineDesk.close
  split
  · next pending =>
      exact ⟨governed.resting, governed.buttons, fun _ => .inl pending, governed.gone⟩
  dsimp only
  split
  · have begun := polled.beginShutdown alive duplicated started now
    have pending := pending_of_begun (desk.polled answers).2 duplicated started now
    exact ⟨begun.resting, begun.buttons, fun _ => .inl pending, begun.gone⟩
  · exact polled.destroy destroyed

theorem step (governed : Governed desk) (move : EngineMove) :
    Governed (engineDeskStep desk move).2 := by
  cases alive : desk.destroyed with
  | true =>
      have gone := governed.gone alive
      cases move with
      | worker worker =>
          exact ⟨governed.resting.workerStep worker, governed.buttons, governed.closing, fun _ => by
            simpa [engineDeskStep, ProcessRun.workerStep, apply_ite ProcessRun.object] using gone⟩
      | exits process =>
          exact ⟨governed.resting.step (.exits process), governed.buttons, governed.closing,
            fun _ => gone⟩
      | startButton _ _ | confirm _ _ _ | stopButton _ _ _ _ | timer _ _ _ _ _ | close _ _ _ _ _
      | poll _ | destroy _ =>
          simpa only [engineDeskStep, alive, if_true] using governed
  | false =>
      cases move with
      | worker worker =>
          exact ⟨governed.resting.workerStep worker, governed.buttons, governed.closing,
            fun gone => by cases alive.symm.trans gone⟩
      | exits process =>
          exact ⟨governed.resting.step (.exits process), governed.buttons, governed.closing,
            fun gone => by cases alive.symm.trans gone⟩
      | startButton found answers =>
          simpa [engineDeskStep, alive] using governed.startButton alive found answers
      | confirm yes ready answers =>
          simpa [engineDeskStep, alive] using governed.confirm alive yes ready answers
      | stopButton answers duplicated started now =>
          simpa [engineDeskStep, alive] using governed.stopButton alive answers duplicated started now
      | timer banner answers now forced destroyed =>
          simpa [engineDeskStep, alive] using
            (governed.polled alive banner).timer alive answers now forced destroyed
      | close answers duplicated started now destroyed =>
          simpa [engineDeskStep, alive] using
            governed.close alive answers duplicated started now destroyed
      | poll answers => simpa [engineDeskStep, alive] using governed.polled alive answers
      | destroy answers => simpa [engineDeskStep, alive] using governed.destroy answers

end Governed

theorem governed_run (moves : List EngineMove) : Governed (finalState engineDeskStep {} moves) :=
  finalState_invariant (fun _ move governed => governed.step move) .initial moves

/-! ## A shutdown from its begin to its end -/

/-- The shutdown is over, and so is the process. -/
structure Finished (desk : EngineDesk) : Prop where
  process : desk.process.object.process = none
  cleared : desk.shutdown.pending = false
  closed : desk.destroyed = desk.closeRequested
  buttons : desk.closeRequested = false → desk.buttons = true

/-- The shutdown goes on, and its deadline is where it was. -/
structure Waiting (before after : EngineDesk) : Prop where
  shutdown : after.shutdown = before.shutdown
  closing : before.closeRequested = true → after.closeRequested = true
  destroyed : before.destroyed = true → after.destroyed = true

section Shutdown

variable {desk : EngineDesk}

theorem Finished.of_ended (alive : desk.destroyed = false)
    (none_ : desk.process.object.process = none) (state : ProcessStatus) (answers : StopAnswers) :
    Finished (desk.ended state answers) := by
  unfold EngineDesk.ended
  dsimp only
  split
  · next asked =>
      exact ⟨(stop_empty answers).1, rfl, asked.symm, fun open_ => by cases asked.symm.trans open_⟩
  · next open_ => exact ⟨none_, rfl, alive.trans (Bool.eq_false_iff.mpr open_).symm, fun _ => rfl⟩

theorem closeRequested_ended (state : ProcessStatus) (answers : StopAnswers) :
    (desk.ended state answers).closeRequested = desk.closeRequested := by
  unfold EngineDesk.ended
  dsimp only
  split <;> rfl

theorem closeRequested_timer (answers : PollAnswers) (now : UInt64)
    (forced destroyed : StopAnswers) :
    (desk.timer answers now forced destroyed).closeRequested = desk.closeRequested := by
  unfold EngineDesk.timer
  dsimp only
  split
  · split
    · exact closeRequested_ended _ _
    split
    · exact closeRequested_ended _ _
    · rfl
  · rfl

theorem closeRequested_timerStep (alive : desk.destroyed = false) (banner answers : PollAnswers)
    (now : UInt64) (forced destroyed : StopAnswers) :
    (engineDeskStep desk (.timer banner answers now forced destroyed)).2.closeRequested =
      desk.closeRequested := by
  simp only [engineDeskStep, alive, Bool.false_eq_true, if_false]
  exact @closeRequested_timer (desk.polled banner).2 answers now forced destroyed

/-- What the timer does with a shutdown that is pending. -/
theorem timer_pending (alive : desk.destroyed = false) (pending : desk.shutdown.pending = true)
    (answers : PollAnswers) (now : UInt64) (forced destroyed : StopAnswers) :
    Finished (desk.timer answers now forced destroyed) ∨
      (desk.polled answers).1 = .running ∧ desk.shutdown.expired now gracePeriodMs = false ∧
        desk.timer answers now forced destroyed = (desk.polled answers).2 := by
  have open_ : (desk.polled answers).2.destroyed = false := alive
  unfold EngineDesk.timer
  dsimp only
  rw [if_pos pending]
  split
  · next exited =>
      have none_ : (desk.polled answers).2.process.object.process = none := process_of_exited exited
      exact .inl (.of_ended open_ none_ _ _)
  split
  · have stopped := @stop_empty (desk.polled answers).2.process forced
    generalize ((desk.polled answers).2.process.stop forced) = left at stopped ⊢
    refine .inl (.of_ended ?_ stopped.1 _ _)
    exact alive
  · next waits =>
      simp only [Bool.or_eq_true, decide_eq_true_eq, not_or, Decidable.not_not] at waits
      exact .inr ⟨waits.1, Bool.eq_false_iff.mpr waits.2, rfl⟩

theorem pending_step (pending : desk.shutdown.pending = true) (move : EngineMove) :
    Finished (engineDeskStep desk move).2 ∧
        (desk.closeRequested = true → (engineDeskStep desk move).2.closeRequested = true) ∨
      Waiting desk (engineDeskStep desk move).2 := by
  have same : Waiting desk desk := ⟨rfl, id, id⟩
  cases gone : desk.destroyed with
  | true =>
      refine .inr ?_
      cases move with
      | worker worker => exact ⟨rfl, id, id⟩
      | exits process => exact ⟨rfl, id, id⟩
      | startButton _ _ | confirm _ _ _ | stopButton _ _ _ _ | timer _ _ _ _ _ | close _ _ _ _ _
      | poll _ | destroy _ =>
          simpa only [engineDeskStep, gone, if_true] using same
  | false =>
      cases move with
      | worker worker => exact .inr ⟨rfl, id, id⟩
      | exits process => exact .inr ⟨rfl, id, id⟩
      | startButton found answers =>
          simpa [engineDeskStep, gone, EngineDesk.startButton, pending] using .inr same
      | confirm yes ready answers =>
          refine .inr ?_
          simp only [engineDeskStep, gone, Bool.false_eq_true, if_false, EngineDesk.confirm]
          split <;> exact ⟨rfl, id, fun before => by cases gone.symm.trans before⟩
      | stopButton answers duplicated started now =>
          simpa [engineDeskStep, gone, EngineDesk.stopButton, pending] using .inr same
      | timer banner answers now forced destroyed =>
          simp only [engineDeskStep, gone, Bool.false_eq_true, if_false]
          have closing := @closeRequested_timer (desk.polled banner).2 answers now forced destroyed
          rcases @timer_pending (desk.polled banner).2 gone pending answers now forced destroyed with finished | ⟨-, -, waits⟩
          · exact .inl ⟨finished, fun before => closing.trans before⟩
          · rw [waits]
            exact .inr ⟨rfl, id, id⟩
      | close answers duplicated started now destroyed =>
          refine .inr ?_
          simp only [engineDeskStep, gone, Bool.false_eq_true, if_false, EngineDesk.close, pending,
            if_true]
          exact ⟨rfl, fun _ => rfl, fun before => by cases gone.symm.trans before⟩
      | poll answers =>
          refine .inr ?_
          simp only [engineDeskStep, gone, Bool.false_eq_true, if_false]
          exact ⟨rfl, id, id⟩
      | destroy answers =>
          refine .inr ?_
          simp only [engineDeskStep, gone, Bool.false_eq_true, if_false]
          exact ⟨rfl, id, fun _ => rfl⟩

theorem destroyed_step (gone : desk.destroyed = true) (move : EngineMove) :
    (engineDeskStep desk move).2.destroyed = true := by
  cases move <;> simp [engineDeskStep, gone]

theorem destroyed_run (gone : desk.destroyed = true) (moves : List EngineMove) :
    (finalState engineDeskStep desk moves).destroyed = true := by
  induction moves generalizing desk with
  | nil => exact gone
  | cons move rest ih => exact ih (destroyed_step gone move)

/-- A timer behind the deadline ends the shutdown. -/
theorem due_step (alive : desk.destroyed = false) (pending : desk.shutdown.pending = true)
    {now : UInt64} (due : now - desk.shutdown.startedAt ≥ gracePeriodMs)
    (banner answers : PollAnswers) (forced destroyed : StopAnswers) :
    Finished (engineDeskStep desk (.timer banner answers now forced destroyed)).2 := by
  simp only [engineDeskStep, alive, Bool.false_eq_true, if_false]
  refine (@timer_pending (desk.polled banner).2 alive pending answers now forced destroyed).resolve_right fun ⟨_, early, _⟩ => ?_
  have expired : (desk.polled banner).2.shutdown.expired now gracePeriodMs = true := by
    simp only [EngineDesk.polled, ShutdownDeadline.expired, pending, Bool.true_and]
    exact decide_eq_true due
  cases early.symm.trans expired

/-- A child that runs answers a look with a timeout, which changes nothing. -/
theorem poll_of_running {run : ProcessRun} (resting : Resting run) {process : ℕ}
    (current : run.object.process = some process) {answers : PollAnswers}
    (runs : answers.wait = .timeout) : run.poll answers = (.running, run.withState .running) := by
  have used : run.windows.uses process = run.windows :=
    uses_table resting.sound.owns (mem_of_process current)
  have waited : run.waited process .timeout = run := by
    simp only [ProcessRun.waited, Windows.waitForSingleObject, used]
    rfl
  unfold ProcessRun.poll
  simp only [current, runs, waited]

/-- Before the deadline a timer leaves a child that runs alone. -/
theorem grace_step (governed : Governed desk) (alive : desk.destroyed = false)
    (pending : desk.shutdown.pending = true) {process : ℕ}
    (current : desk.process.object.process = some process) {now : UInt64}
    (early : now - desk.shutdown.startedAt < gracePeriodMs) {banner answers : PollAnswers}
    (first : banner.wait = .timeout) (second : answers.wait = .timeout)
    (forced destroyed : StopAnswers) :
    (engineDeskStep desk (.timer banner answers now forced destroyed)).2 =
      { desk with process := desk.process.withState .running } := by
  have polled : desk.polled banner =
      (.running, { desk with process := desk.process.withState .running }) := by
    simp only [EngineDesk.polled, poll_of_running governed.resting current first]
  have resting : Resting (desk.process.withState .running) := by
    have kept := (governed.polled alive banner).resting
    rwa [polled] at kept
  have again := poll_of_running resting current second
  have unexpired : desk.shutdown.expired now gracePeriodMs = false := by
    simp only [ShutdownDeadline.expired, pending, Bool.true_and]
    exact decide_eq_false (UInt64.not_le.mpr early)
  simp only [engineDeskStep, alive, Bool.false_eq_true, if_false, polled]
  simp [EngineDesk.timer, EngineDesk.polled, again, pending, unexpired]
  rfl

/-- A window that waits for its shutdown to close it, or is gone. -/
def Closing (deadline : ShutdownDeadline) (desk : EngineDesk) : Prop :=
  desk.destroyed = true ∨ desk.closeRequested = true ∧ desk.shutdown = deadline

theorem closing_step {deadline : ShutdownDeadline} (pending : deadline.pending = true)
    (closing : Closing deadline desk) (move : EngineMove) :
    Closing deadline (engineDeskStep desk move).2 := by
  rcases closing with gone | ⟨requested, rfl⟩
  · exact .inl (destroyed_step gone move)
  · rcases pending_step pending move with ⟨finished, kept⟩ | waiting
    · exact .inl (finished.closed.trans (kept requested))
    · exact .inr ⟨waiting.closing requested, waiting.shutdown⟩

end Shutdown

/-- The moves that are a timer at or behind the deadline. -/
def EngineMove.Due (deadline : ShutdownDeadline) : EngineMove → Prop
  | .timer _ _ now _ _ => now - deadline.startedAt ≥ gracePeriodMs
  | _ => False

/-- A window that waits for its shutdown is gone behind a timer that is due. -/
theorem gone_of_due {deadline : ShutdownDeadline} (pending : deadline.pending = true)
    {desk : EngineDesk} (closing : Closing deadline desk) {moves : List EngineMove}
    (due : ∃ move ∈ moves, move.Due deadline) :
    (finalState engineDeskStep desk moves).destroyed = true := by
  obtain ⟨move, member, late⟩ := due
  obtain ⟨before, after, rfl⟩ := List.append_of_mem member
  have kept : ∀ desk move, Closing deadline desk → Closing deadline (engineDeskStep desk move).2 :=
    fun _ move known => closing_step pending known move
  have waits : Closing deadline (finalState engineDeskStep desk before) :=
    finalState_invariant kept closing before
  have gone : (engineDeskStep (finalState engineDeskStep desk before) move).2.destroyed = true := by
    rcases waits with gone | ⟨requested, same⟩
    · exact destroyed_step gone move
    · cases move with
      | timer banner answers now forced destroyed =>
          cases alive : (finalState engineDeskStep desk before).destroyed with
          | true => exact destroyed_step alive _
          | false =>
              have running := same ▸ pending
              have finished := due_step alive running (same ▸ late) banner answers forced destroyed
              refine finished.closed.trans ?_
              rw [closeRequested_timerStep alive]
              exact requested
      | startButton _ _ | confirm _ _ _ | stopButton _ _ _ _ | close _ _ _ _ _ | poll _ | destroy _
      | worker _ | exits _ =>
          cases late
  rw [finalState_append, finalState_cons]
  exact destroyed_run gone after

/-- How the engine's process ends, over a whole run of the desktop. -/
structure ShutdownKept (moves : List EngineMove) : Prop where
  /-- The buttons are there whenever no shutdown is pending. -/
  buttons : (finalState engineDeskStep {} moves).destroyed = false →
    (finalState engineDeskStep {} moves).buttons =
      !(finalState engineDeskStep {} moves).shutdown.pending
  /-- A window is to be closed only while its shutdown is pending. -/
  closing : (finalState engineDeskStep {} moves).closeRequested = true →
    (finalState engineDeskStep {} moves).shutdown.pending = true ∨
      (finalState engineDeskStep {} moves).destroyed = true
  /-- Behind the window no child runs, and the object holds no handle. -/
  destroyed : (finalState engineDeskStep {} moves).destroyed = true →
    (finalState engineDeskStep {} moves).process.object.handles = [] ∧
      ∀ child ∈ (finalState engineDeskStep {} moves).process.windows.children,
        child.resumed = true → child.ended = true
  /-- Whatever is pressed, a child is asked to quit once at most. -/
  asked : (finalState engineDeskStep {} moves).process.windows.quits.Nodup
  /-- Nothing moves the deadline of a shutdown. -/
  deadline : ∀ stage ∈ stages engineDeskStep {} moves, stage.before.shutdown.pending = true →
    stage.after.shutdown.pending = true → stage.after.shutdown = stage.before.shutdown
  /-- Before the deadline the timer leaves a child that runs alone. -/
  grace : ∀ stage ∈ stages engineDeskStep {} moves, ∀ banner answers now forced destroyed process,
    stage.input = .timer banner answers now forced destroyed →
    stage.before.destroyed = false → stage.before.shutdown.pending = true →
    now - stage.before.shutdown.startedAt < gracePeriodMs →
    stage.before.process.object.process = some process →
    banner.wait = .timeout → answers.wait = .timeout →
      stage.after.process.windows = stage.before.process.windows ∧
        stage.after.shutdown = stage.before.shutdown
  /-- Behind the deadline the timer ends it, and gives the buttons back or closes the window. -/
  due : ∀ stage ∈ stages engineDeskStep {} moves, stage.before.destroyed = false →
    stage.before.shutdown.pending = true → stage.input.Due stage.before.shutdown →
      stage.after.shutdown.pending = false ∧ stage.after.process.object.handles = [] ∧
        (∀ child ∈ stage.after.process.windows.children,
          child.resumed = true → child.ended = true) ∧
        if stage.before.closeRequested then stage.after.destroyed = true
        else stage.after.buttons = true
  /-- A window that is to be closed is gone once a timer is due. -/
  closes : ∀ more deadline, (finalState engineDeskStep {} moves).closeRequested = true →
    (finalState engineDeskStep {} moves).shutdown = deadline →
    (∃ move ∈ more, move.Due deadline) →
      (finalState engineDeskStep {} (moves ++ more)).destroyed = true

theorem shutdown_kept (moves : List EngineMove) : ShutdownKept moves := by
  have governed := governed_run moves
  refine ⟨governed.buttons, governed.closing, ?_, governed.resting.sound.quits, ?_, ?_, ?_, ?_⟩
  · exact fun gone => ended_of_no_process governed.resting (governed.gone gone)
  · refine stages_forall_of_step _ ?_ ({} : EngineDesk) moves
    intro desk move before after
    rcases pending_step before move with ⟨finished, -⟩ | waiting
    · cases finished.cleared.symm.trans after
    · exact waiting.shutdown
  · refine @stages_forall _ _ _ _ Governed _ (fun _ move known => known.step move) ?_ _ .initial moves
    intro desk move known banner answers now forced destroyed process input alive pending early current
      first second
    change move = .timer banner answers now forced destroyed at input
    subst input
    have same := grace_step known alive pending current early first second forced destroyed
    exact ⟨congrArg (·.process.windows) same, congrArg (·.shutdown) same⟩
  · refine @stages_forall _ _ _ _ Governed _ (fun _ move known => known.step move) ?_ _ .initial moves
    intro desk move known alive pending due
    cases move with
    | timer banner answers now forced destroyed =>
        have finished := due_step alive pending due banner answers forced destroyed
        have left := ended_of_no_process
          (known.step (.timer banner answers now forced destroyed)).resting finished.process
        have asked := closeRequested_timerStep alive banner answers now forced destroyed
        refine ⟨finished.cleared, left.1, left.2, ?_⟩
        split
        · next requested => exact finished.closed.trans (asked.trans requested)
        · next open_ => exact finished.buttons (asked.trans (Bool.eq_false_iff.mpr open_))
    | startButton _ _ | confirm _ _ _ | stopButton _ _ _ _ | close _ _ _ _ _ | poll _ | destroy _
    | worker _ | exits _ =>
        cases due
  · intro more deadline requested same due
    rw [finalState_append]
    cases alive : (finalState engineDeskStep {} moves).destroyed with
    | true => exact destroyed_run alive more
    | false =>
        have pending := (governed.closing requested).resolve_right fun gone => by
          cases alive.symm.trans gone
        exact gone_of_due (same ▸ pending) (.inr ⟨requested, same⟩) due

end AxeVoice.Desktop
