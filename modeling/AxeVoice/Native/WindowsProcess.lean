import AxeVoice.Foundation.Handles
import AxeVoice.Foundation.Reactive

/-!
# The process of the engine

The engine runs as a child process in a job of its own, with a pipe as its standard
input.  What the system answers to a call is an argument; a call that fails has an
error.  The threads that write to the pipe, and the child, go on by themselves.
-/

namespace AxeVoice.Native

open Foundation

structure Child where
  /-- The handle that `CreateProcessW` has returned. -/
  process : ℕ
  /-- The handles that the child has been given. -/
  inherited : List ℕ
  job : Option ℕ := none
  /-- Its first thread was resumed. -/
  resumed : Bool := false
  ended : Bool := false
  deriving DecidableEq, Repr

/-- A thread that has to write to the standard input of a child, through a handle of its own. -/
structure QuitWorker where
  writeEnd : ℕ
  child : ℕ
  deriving DecidableEq, Repr

structure Windows where
  table : HandleTable := {}
  /-- The jobs that end with their last handle. -/
  killOnJobClose : List ℕ := []
  children : List Child := []
  workers : List QuitWorker := []
  /-- The children that were asked to quit. -/
  quits : List ℕ := []
  deriving DecidableEq, Repr

/-- The error of a call that fails. -/
abbrev CallOutcome := Option UInt32

inductive WaitAnswer where
  | object
  | timeout
  | failed (error : UInt32)
  deriving DecidableEq, Repr

namespace Windows

variable (windows : Windows)

def withTable (table : HandleTable) : Windows := { windows with table := table }

def create : Windows := windows.withTable windows.table.create

def change (chosen : Child → Bool) (changed : Child → Child) : Windows :=
  { windows with
    children := windows.children.map fun child => if chosen child then changed child else child }

def endChildren (chosen : Child → Bool) : Windows :=
  windows.change chosen fun child => { child with ended := true }

/-- The last handle of a job ends what is in it. -/
def closeHandle (handle : ℕ) : Windows :=
  (windows.withTable (windows.table.close handle)).endChildren fun child =>
    child.job = some handle && handle ∈ windows.killOnJobClose

def closeAll (handles : List ℕ) : Windows := handles.foldl closeHandle windows

def uses (handle : ℕ) : Windows := windows.withTable (windows.table.uses handle)

def limitJob (job : ℕ) : Windows :=
  { windows.uses job with killOnJobClose := job :: windows.killOnJobClose }

def terminateJobObject (job : ℕ) (outcome : CallOutcome) : Windows :=
  let used := windows.uses job
  if outcome.isSome then used else used.endChildren fun child => child.job = some job

def terminateProcess (process : ℕ) (outcome : CallOutcome) : Windows :=
  let used := windows.uses process
  if outcome.isSome then used else used.endChildren fun child => child.process = process

def waitForSingleObject (process : ℕ) (answer : WaitAnswer) : Windows :=
  let used := windows.uses process
  if answer = .object then used.endChildren fun child => child.process = process else used

/-- `CreateProcessW` creates the process, its first thread, and their handles. -/
def createProcess (inherited : List ℕ) : Windows :=
  let process := windows.table.next
  let created := windows.create.create
  { created with children := ⟨process, inherited, none, false, false⟩ :: created.children }

def assignProcess (job process : ℕ) : Windows :=
  ((windows.uses job).uses process).change (fun child => child.process = process)
    fun child => { child with job := some job }

def resumeThread (thread process : ℕ) : Windows :=
  (windows.uses thread).change (fun child => child.process = process)
    fun child => { child with resumed := true }

/-- "/quit" is written, or a thread is started that will. -/
def noteQuit (child : ℕ) : Windows := { windows with quits := child :: windows.quits }

end Windows

inductive ProcessStatus where
  | stopped
  | running
  | exited
  | failed
  deriving DecidableEq, Repr

inductive GracefulStopResult where
  | alreadyStopped
  | exitedAfterQuit
  | forced
  | failed
  deriving DecidableEq, Repr

structure WindowsProcess where
  job : Option ℕ := none
  process : Option ℕ := none
  stdinWrite : Option ℕ := none
  processId : UInt32 := 0
  lastError : UInt32 := 0
  exitCode : Option UInt32 := none
  state : ProcessStatus := .stopped
  deriving DecidableEq, Repr

def errorFileNotFound : UInt32 := 2
def errorInvalidHandle : UInt32 := 6
def errorNotEnoughMemory : UInt32 := 8
def errorWriteFault : UInt32 := 29
def errorInvalidParameter : UInt32 := 87
def errorAlreadyExists : UInt32 := 183

/-- The object and the system. -/
structure ProcessRun where
  object : WindowsProcess := {}
  windows : Windows := {}
  deriving DecidableEq, Repr

structure PollAnswers where
  wait : WaitAnswer
  exitCode : Except UInt32 UInt32

structure StopAnswers where
  terminated : CallOutcome
  wait : WaitAnswer

/-- What `WriteFile` answers: its error, or whether all was written. -/
abbrev WriteAnswer := Except UInt32 Bool

structure GracefulAnswers where
  write : WriteAnswer
  wait : WaitAnswer
  exitCode : Except UInt32 UInt32
  stop : StopAnswers

/-- What `start` meets with; the allocations may throw at three places. -/
structure StartAnswers where
  poll : PollAnswers
  stop : StopAnswers
  pathsThrow : Bool := false
  regularFile : Bool := true
  /-- There is no profile, or it is a directory that is no link. -/
  profileAccepted : Bool := true
  createJob : CallOutcome := none
  limitJob : CallOutcome := none
  createPipe : CallOutcome := none
  keepWriteEnd : CallOutcome := none
  openNul : CallOutcome := none
  storageThrows : Bool := false
  initializeList : CallOutcome := none
  updateList : CallOutcome := none
  commandThrows : Bool := false
  createProcess : CallOutcome := none
  processId : UInt32 := 0
  assignProcess : CallOutcome := none
  terminateProcess : CallOutcome := none
  resumeThread : CallOutcome := none
  /-- What follows a failure behind `CreateProcessW`. -/
  abandoned : StopAnswers

namespace ProcessRun

variable (run : ProcessRun)

def withError (error : UInt32) : ProcessRun :=
  { run with object := { run.object with lastError := error } }

/-- The error is noted where a call has failed. -/
def noting (outcome : CallOutcome) : ProcessRun := outcome.elim run run.withError

/-- `exit_code_.reset()` -/
def withoutExit : ProcessRun := { run with object := { run.object with exitCode := none } }

def waited (process : ℕ) (answer : WaitAnswer) : ProcessRun :=
  { run with windows := run.windows.waitForSingleObject process answer }

/-- `WAIT_FAILED` is noted. -/
def notingWait : WaitAnswer → ProcessRun
  | .failed error => run.withError error
  | .object | .timeout => run

def notingExit : Except UInt32 UInt32 → ProcessRun
  | .ok code => { run with object := { run.object with exitCode := some code } }
  | .error error =>
      { run with object := { run.object with lastError := error, exitCode := none } }

def releaseHandles : ProcessRun :=
  { object := { run.object with
      stdinWrite := none, process := none, job := none, processId := 0 }
    windows := run.windows.closeAll
      (run.object.stdinWrite.toList ++ run.object.process.toList ++ run.object.job.toList) }

def withState (state : ProcessStatus) : ProcessRun :=
  { run with object := { run.object with state := state } }

def poll (answers : PollAnswers) : ProcessStatus × ProcessRun :=
  match run.object.process with
  | none => (run.object.state, run)
  | some process =>
      let waited := run.waited process answers.wait
      match answers.wait with
      | .timeout => (.running, waited.withState .running)
      | .object =>
          (.exited, ((waited.notingExit answers.exitCode).releaseHandles).withState .exited)
      | .failed error => (.failed, (waited.withError error).withState .failed)

/-- The write end, if there is a process and the pipe is open. -/
def writeEnd : Option (ℕ × ℕ) := do
  let process ← run.object.process
  let stdin ← run.object.stdinWrite
  return (process, stdin)

def notingWrite : WriteAnswer → ProcessRun
  | .error error => run.withError error
  | .ok true => run
  | .ok false => run.withError errorWriteFault

/-- A handle that is open can be closed. -/
def closeStdin (stdin : ℕ) : Bool × ProcessRun :=
  let closed := decide (stdin ∈ run.windows.table.opened)
  (closed,
    { object := { run.object with
        stdinWrite := none
        lastError := if closed then run.object.lastError else errorInvalidHandle }
      windows := run.windows.closeHandle stdin })

def requestQuit (write : WriteAnswer) : Bool × ProcessRun :=
  match run.writeEnd with
  | none => (false, run.withError errorInvalidHandle)
  | some (process, stdin) =>
      let written := { run with windows := (run.windows.uses stdin).noteQuit process }
      let (closed, left) := (written.notingWrite write).closeStdin stdin
      (write.toOption = some true && closed, left)

def requestQuitAsync (duplicated started : CallOutcome) : Bool × ProcessRun :=
  match run.writeEnd with
  | none => (false, run.withError errorInvalidHandle)
  | some (process, stdin) =>
      let used := { run with windows := run.windows.uses stdin }
      match duplicated with
      | some error => (false, used.withError error)
      | none =>
          let duplicate := used.windows.table.next
          let doubled := { used with windows := used.windows.create }
          match started with
          | some error =>
              (false, { doubled.withError error with
                windows := doubled.windows.closeHandle duplicate })
          | none =>
              let worker := doubled.windows.table.next
              let windows := (doubled.windows.create.closeHandle worker).closeHandle stdin
              (true,
                { object := { doubled.object with stdinWrite := none, lastError := 0 }
                  windows := { windows.noteQuit process with
                    workers := ⟨duplicate, process⟩ :: windows.workers } })

/-- The job is terminated, and its process waited for. -/
def killed (process : ℕ) (answers : StopAnswers) : ProcessRun :=
  let terminated := { run with
    windows := run.windows.terminateJobObject (run.object.job.getD 0) answers.terminated }
  ((terminated.noting answers.terminated).waited process answers.wait).notingWait answers.wait

def stop (answers : StopAnswers) : Bool × ProcessRun :=
  match run.object.process with
  | none => (true, run.withoutExit.releaseHandles.withState .stopped)
  | some process =>
      (answers.terminated.isNone && answers.wait = .object,
        (run.withoutExit.killed process answers).releaseHandles.withState .stopped)

def stopGracefully (answers : GracefulAnswers) : GracefulStopResult × ProcessRun :=
  match run.object.process with
  | none => (.alreadyStopped, (run.stop answers.stop).2)
  | some process =>
      let asked := ((run.requestQuit answers.write).2.waited process answers.wait)
      if answers.wait = .object then
        (.exitedAfterQuit, ((asked.notingExit answers.exitCode).releaseHandles).withState .stopped)
      else
        let killed := (asked.notingWait answers.wait).killed process answers.stop
        let left := killed.withoutExit.releaseHandles
        if answers.stop.terminated.isNone && answers.stop.wait = .object then
          (.forced, left.withState .stopped)
        else (.failed, left.withState .failed)

/-- The launch fails; the handles of its scope are closed behind the object's. -/
def failed (error : UInt32) (scope : List ℕ) : Bool × ProcessRun :=
  let left := (run.withError error).releaseHandles.withState .failed
  (false, { left with windows := left.windows.closeAll scope })

/-- An allocation throws; the scope is left before the handler. -/
def outOfMemory (scope : List ℕ) : Bool × ProcessRun :=
  let left := { run with windows := run.windows.closeAll scope }
  (false, (left.releaseHandles.withError errorNotEnoughMemory).withState .failed)

/-- A child that was not resumed is waited for and let go. -/
def abandoned (process thread : ℕ) (wait : WaitAnswer) : Bool × ProcessRun :=
  let left := run.waited process wait
  let closed := { left with windows := left.windows.closeHandle thread }
  (false, closed.releaseHandles.withState .failed)

/-- The child exists, and waits for its first thread to be resumed. -/
def startSuspended (answers : StartAnswers) (process thread : ℕ) : Bool × ProcessRun :=
  let job := run.object.job.getD 0
  match answers.assignProcess with
  | some error =>
      let terminated := { run.withError error with
        windows := run.windows.terminateProcess process answers.terminateProcess }
      terminated.abandoned process thread answers.abandoned.wait
  | none =>
      let assigned := { run with windows := run.windows.assignProcess job process }
      match answers.resumeThread with
      | some error =>
          let terminated := { assigned.withError error with
            windows := (assigned.windows.uses thread).terminateJobObject job
              answers.abandoned.terminated }
          terminated.abandoned process thread answers.abandoned.wait
      | none =>
          let resumed := { assigned with windows :=
            (assigned.windows.resumeThread thread process).closeHandle thread }
          (true, resumed.withState .running)

/-- The child is created; the handles that it was given are closed here. -/
def spawned (read write nul : ℕ) (processId : UInt32) : ProcessRun :=
  { object := { run.object with
      stdinWrite := some write, process := some run.windows.table.next, processId := processId }
    windows := (run.windows.createProcess [read, nul]).closeAll [read, nul] }

/-- The attribute list names the handles that the child is given. -/
def startListed (answers : StartAnswers) (read write nul : ℕ) : Bool × ProcessRun :=
  if answers.commandThrows then run.outOfMemory [nul, write, read]
  else
    match answers.createProcess with
    | some error =>
        let closed := { run.withError error with windows := run.windows.closeAll [read, nul] }
        let left := closed.releaseHandles.withState .failed
        (false, { left with windows := left.windows.closeHandle write })
    | none =>
        (run.spawned read write nul answers.processId).startSuspended answers
          run.windows.table.next (run.windows.table.next + 1)

/-- The pipe exists. -/
def startPiped (answers : StartAnswers) (read write : ℕ) : Bool × ProcessRun :=
  match answers.keepWriteEnd with
  | some error => run.failed error [write, read]
  | none =>
      match answers.openNul with
      | some error => run.failed error [write, read]
      | none =>
          let nul := run.windows.table.next
          let opened := { run with windows := run.windows.create }
          if answers.storageThrows then opened.outOfMemory [nul, write, read]
          else
            match answers.initializeList, answers.updateList with
            | some error, _ => opened.failed error [nul, write, read]
            | none, some error => opened.failed error [nul, write, read]
            | none, none => opened.startListed answers read write nul

/-- The job exists. -/
def startInJob (answers : StartAnswers) (job : ℕ) : Bool × ProcessRun :=
  match answers.limitJob with
  | some error => { run with windows := run.windows.uses job }.failed error []
  | none =>
      let limited := { run with windows := run.windows.limitJob job }
      match answers.createPipe with
      | some error => limited.failed error []
      | none =>
          let read := limited.windows.table.next
          startPiped { limited with windows := limited.windows.create.create } answers read (read + 1)

/-- The part of `start` behind the call of `stop`. -/
def startStopped (answers : StartAnswers) : Bool × ProcessRun :=
  let cleared := { run with object := { run.object with exitCode := none, lastError := 0 } }
  if answers.pathsThrow then cleared.outOfMemory []
  else if !answers.regularFile then
    (false, (cleared.withError errorFileNotFound).withState .failed)
  else if !answers.profileAccepted then
    (false, (cleared.withError errorInvalidParameter).withState .failed)
  else
    match answers.createJob with
    | some error => (false, (cleared.withError error).withState .failed)
    | none =>
        let job := cleared.windows.table.next
        startInJob { object := { cleared.object with job := some job }
                     windows := cleared.windows.create } answers job

def start (answers : StartAnswers) : Bool × ProcessRun :=
  let (status, polled) := run.poll answers.poll
  if status = .running then (false, polled.withError errorAlreadyExists)
  else (polled.stop answers.stop).2.startStopped answers

/-- A thread writes to the pipe, and closes its handle. -/
def workerStep (worker : QuitWorker) : ProcessRun :=
  if worker ∈ run.windows.workers then
    let written := (run.windows.uses worker.writeEnd).closeHandle worker.writeEnd
    { run with windows := { written with workers := written.workers.erase worker } }
  else run

end ProcessRun

inductive ProcessMove where
  | start (answers : StartAnswers)
  | poll (answers : PollAnswers)
  | requestQuit (write : WriteAnswer)
  | requestQuitAsync (duplicated started : CallOutcome)
  | stopGracefully (answers : GracefulAnswers)
  /-- So does the destructor. -/
  | stop (answers : StopAnswers)
  | worker (worker : QuitWorker)
  /-- A child ends by itself. -/
  | exits (process : ℕ)

inductive ProcessObserved where
  | started (done : Bool)
  | polled (status : ProcessStatus)
  | requested (done : Bool)
  | graceful (result : GracefulStopResult)
  | stopped (done : Bool)
  | nothing
  deriving DecidableEq, Repr

def windowsProcessStep (run : ProcessRun) : ProcessMove → ProcessObserved × ProcessRun
  | .start answers => (run.start answers).map .started id
  | .poll answers => (run.poll answers).map .polled id
  | .requestQuit write => (run.requestQuit write).map .requested id
  | .requestQuitAsync duplicated started =>
      (run.requestQuitAsync duplicated started).map .requested id
  | .stopGracefully answers => (run.stopGracefully answers).map .graceful id
  | .stop answers => (run.stop answers).map .stopped id
  | .worker worker => (.nothing, run.workerStep worker)
  | .exits process =>
      (.nothing, { run with windows :=
        run.windows.endChildren fun child => child.process = process })

end AxeVoice.Native
