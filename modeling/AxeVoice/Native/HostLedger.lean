import AxeVoice.Native.HostThreads

/-!
# The submissions of the host

A command does not say which call it is from.  The queue keeps the order of its
commands and a tick goes through its batch in that order, so that the run itself
says which submission is executed, and which one has started a registration.
-/

namespace AxeVoice.Native

open AxeVoice.Foundation

/-- A command of a call that the queue has accepted. -/
structure HostSubmission where
  call : ℕ
  command : RegistrationCommand
  deriving DecidableEq, Repr

/-- What has become of the submissions, each list in the order of acceptance. -/
structure HostLedger where
  issued : List HostSubmission := []
  /-- In the queue. -/
  waiting : List HostSubmission := []
  /-- In the batch of the tick, and not executed yet. -/
  taken : List HostSubmission := []
  executed : List HostSubmission := []
  /-- By which the last registration of the gateway was started. -/
  starter : Option HostSubmission := none
  deriving DecidableEq, Repr

namespace HostLedger

def accept (ledger : HostLedger) (submission : HostSubmission) : HostLedger :=
  { ledger with
    issued := ledger.issued ++ [submission], waiting := ledger.waiting ++ [submission] }

/-- The queue is cleared. -/
def clear (ledger : HostLedger) : HostLedger :=
  { ledger with waiting := [] }

/-- A tick takes all that waits. -/
def take (ledger : HostLedger) : HostLedger :=
  { ledger with taken := ledger.waiting, waiting := [] }

def execute (ledger : HostLedger) : HostLedger :=
  match ledger.taken with
  | [] => ledger
  | submission :: rest =>
      { ledger with taken := rest, executed := ledger.executed ++ [submission] }

def note (ledger : HostLedger) : HostObserved → HostLedger
  | .enqueued number answer command =>
      match answer with
      | .refused => ledger
      | .overflowed => ledger.clear
      | .accepted => if command.kind = .cancel then ledger.clear else ledger.accept ⟨number, command⟩
  | .invalidated => ledger.clear
  | .dispatched observed =>
      match observed with
      | .invalidated => ledger.clear
      | .drained batch => if batch.generation = 0 then ledger else ledger.take
      | .executes _ => ledger.execute
      | .submitted submission =>
          if submission = .submitted then { ledger with starter := ledger.executed.getLast? }
          else ledger
      | _ => ledger
  | _ => ledger

end HostLedger

def hostLedger (history : List HostStage) : HostLedger :=
  history.foldl (fun ledger stage => ledger.note stage.output) {}

theorem hostLedger_concat (history : List HostStage) (stage : HostStage) :
    hostLedger (history ++ [stage]) = (hostLedger history).note stage.output := by
  rw [hostLedger, List.foldl_append]
  rfl

/-- Neither the queue nor the dispatcher is at work. -/
def HostObserved.Unseen : HostObserved → Prop
  | .enqueued .. | .invalidated | .dispatched _ | .began _ => False
  | _ => True

theorem HostObserved.Unseen.note {observed : HostObserved} (unseen : observed.Unseen)
    (ledger : HostLedger) : ledger.note observed = ledger := by
  cases observed with
  | enqueued | invalidated | dispatched | began => exact absurd unseen id
  | nothing | returned | tickBegins | stopped | startReturned | startThrew | stopReturned => rfl

/-- A handler runs the ticks, or waits for them. -/
def HostThread.loops : HostThread → Bool
  | looping | entering | ticking => true
  | _ => false

namespace BaresipNativeRegistrationHost

/-- A `stop` has invalidated the queue, and has not seen the owner's thread end. -/
def Stopping (host : BaresipNativeRegistrationHost) : Prop :=
  host.lifecycle = .stopEnding ∨ host.lifecycle = .stopJoining

/-- The owner minds the queue, and no `stop` has invalidated it. -/
def Minding (host : BaresipNativeRegistrationHost) : Prop :=
  host.owner.loops = true ∧ ¬ host.Stopping

end BaresipNativeRegistrationHost

/-- Where a call may stand once it has issued a submission of this generation. -/
def IssuedAt (queue : RegistrationCommandQueue) (generation : UInt64) : CallPoint → Prop
  | .waking id | .withdrawing id => id = generation
  | .returning false => queue.Closed generation
  | .returning true | .returned => True
  | _ => False

/-- What the queue, the account, the tick and the calls notice of a step. -/
inductive HostStepped (host : BaresipNativeRegistrationHost) :
    HostObserved → BaresipNativeRegistrationHost → Prop
  | elsewhere {observed : HostObserved} {after : BaresipNativeRegistrationHost}
      (unseen : observed.Unseen) (same : Undisturbed host.dispatch after.dispatch)
      (calls : after.calls = host.calls)
      (minds : after.Minding →
        host.Minding ∨ host.dispatch.point = .idle ∧ host.dispatch.gateway.owner = 0) :
      HostStepped host observed after
  | called {observed : HostObserved} (number : ℕ) {point : CallPoint} (unseen : observed.Unseen)
      (live : host.calls number ≠ .returned)
      (keeps : ∀ queue generation, IssuedAt queue generation (host.calls number) →
        IssuedAt queue generation point) :
      HostStepped host observed (host.withCall number point)
  | submits {number : ℕ} {id : UInt64} {timeoutMs : UInt32}
      (at_ : host.calls number = .enqueueing id timeoutMs) :
      HostStepped host
        (.enqueued number (host.dispatch.queue.submit id timeoutMs).1
          ⟨.submitSelectedAccount, id, timeoutMs⟩)
        ((host.withQueue (host.dispatch.queue.submit id timeoutMs).2).withCall number
          (if (host.dispatch.queue.submit id timeoutMs).1 = .accepted then .waking id
          else .returning false))
  | cancels {number : ℕ} {id : UInt64} {point : CallPoint}
      (at_ : host.calls number = .withdrawing id ∧ point = .returning false ∨
        host.calls number = .cancelling id) :
      HostStepped host
        (.enqueued number (host.dispatch.queue.cancel id).1 ⟨.cancel, id, 0⟩)
        ((host.withQueue (host.dispatch.queue.cancel id).2).withCall number point)
  | invalidated {after : BaresipNativeRegistrationHost}
      (dispatch : after.dispatch = { host.dispatch with queue := host.dispatch.queue.invalidate })
      (calls : after.calls = host.calls) (unminded : ¬ after.Minding) :
      HostStepped host .invalidated after
  | began {after : BaresipNativeRegistrationHost}
      (begun : host.dispatch.queue.beginGeneration.1 ≠ 0)
      (dispatch : after.dispatch =
        { queue := host.dispatch.queue.beginGeneration.2, gateway := host.newGateway
          point := .idle })
      (calls : after.calls = host.calls) (unminded : ¬ after.Minding) :
      HostStepped host (.began host.dispatch.queue.beginGeneration.1) after
  | drained {after : BaresipNativeRegistrationHost} {monotonicMs : UInt64} {selected : Address}
      (idle : host.dispatch.point = .idle) (owned : host.ownerGeneration ≠ 0)
      (dispatch : after.dispatch =
        (host.dispatch.beginTick host.ownerGeneration monotonicMs selected).2)
      (calls : after.calls = host.calls) (loops : after.owner.loops = true)
      (lifecycle : after.lifecycle = host.lifecycle) (minds : after.Minding → host.Minding) :
      HostStepped host
        (.dispatched (host.dispatch.beginTick host.ownerGeneration monotonicMs selected).1) after
  | worked {after : BaresipNativeRegistrationHost} (sdk : SdkAnswers)
      (dispatch : after.dispatch = (host.dispatch.ownerStep sdk).2)
      (calls : after.calls = host.calls) (minds : after.Minding → host.Minding) :
      HostStepped host (.dispatched (host.dispatch.ownerStep sdk).1) after
  /-- A tick is left, or the gateway's `stop` in `on_stop` begins. -/
  | turned {after : BaresipNativeRegistrationHost}
      (dispatch : after.dispatch = { host.dispatch with point := .idle } ∨
        after.dispatch = { host.dispatch with point := .stopping none })
      (calls : after.calls = host.calls) (unminded : ¬ after.Minding) :
      HostStepped host .nothing after

theorem undisturbed_refl (dispatch : RegistrationHost) : Undisturbed dispatch dispatch :=
  ⟨rfl, rfl, rfl⟩

theorem advanceCall_stepped (host : BaresipNativeRegistrationHost) (number : ℕ) (pushed : Bool) :
    HostStepped host (host.advanceCall number pushed).1 (host.advanceCall number pushed).2 := by
  have same : HostStepped host .nothing host := .elsewhere trivial (undisturbed_refl _) rfl .inl
  rw [BaresipNativeRegistrationHost.advanceCall]
  cases at_ : host.calls number with
  | unmade | returned => exact same
  | enqueueing id timeoutMs => exact .submits at_
  | withdrawing id => exact .cancels (.inl ⟨at_, rfl⟩)
  | cancelling id => exact .cancels (.inr at_)
  | waking id =>
      refine .called number trivial (by simp [at_]) fun queue generation issued => ?_
      rw [at_] at issued
      split
      · trivial
      · exact issued
  | returning answer =>
      refine .called number trivial (by simp [at_]) fun queue generation issued => ?_
      trivial
  | naming | admitting | comparing | cancelNaming | cancelAdmitting | cancelWaking =>
      refine .called number trivial (by simp [at_]) fun queue generation issued => ?_
      rw [at_] at issued
      exact absurd issued id

/-- A step of `start` or `stop` that the dispatcher does not notice. -/
theorem HostStepped.lifecycled {host after : BaresipNativeRegistrationHost}
    {observed : HostObserved} (unseen : observed.Unseen) (dispatch : after.dispatch = host.dispatch)
    (calls : after.calls = host.calls)
    (minds : after.owner = host.owner ∧ ¬ host.Stopping ∨ after.owner.loops = false ∨
      after.Stopping) :
    HostStepped host observed after := by
  refine .elsewhere unseen ?_ calls fun minding => .inl ?_
  · rw [dispatch]
    exact undisturbed_refl _
  · rcases minds with ⟨same, minded⟩ | away | stopping
    · refine ⟨?_, minded⟩
      rw [← same]
      exact minding.1
    · cases away.symm.trans minding.1
    · exact absurd stopping minding.2

theorem advanceLifecycle_stepped (host : BaresipNativeRegistrationHost) (created : Bool) :
    HostStepped host (host.advanceLifecycle created).1 (host.advanceLifecycle created).2 := by
  rw [BaresipNativeRegistrationHost.advanceLifecycle]
  have minded {point : LifecyclePoint} (at_ : host.lifecycle = point)
      (other : point ≠ .stopEnding ∧ point ≠ .stopJoining) : ¬ host.Stopping := by
    rw [← at_] at other
    rintro (ending | joining)
    · exact other.1 ending
    · exact other.2 joining
  cases at_ : host.lifecycle with
  | idle => exact .elsewhere trivial (undisturbed_refl _) rfl .inl
  | startProbing =>
      have minded := minded at_ (by simp)
      dsimp only
      split
      · exact .lifecycled trivial rfl rfl (.inl ⟨rfl, minded⟩)
      · exact .lifecycled trivial rfl rfl (.inl ⟨rfl, minded⟩)
  | startRefusing =>
      exact .lifecycled trivial rfl rfl (.inl ⟨rfl, minded at_ (by simp)⟩)
  | startLaunching =>
      have minded := minded at_ (by simp)
      dsimp only
      split
      · exact .lifecycled trivial rfl rfl (.inl ⟨rfl, minded⟩)
      · split
        · exact .lifecycled trivial rfl rfl (.inl ⟨rfl, minded⟩)
        · exact .lifecycled trivial rfl rfl (.inr (.inl rfl))
  | startWaiting =>
      have minded := minded at_ (by simp)
      dsimp only
      split
      · exact .elsewhere trivial (undisturbed_refl _) rfl .inl
      · split
        · exact .lifecycled trivial rfl rfl (.inl ⟨rfl, minded⟩)
        · exact .lifecycled trivial rfl rfl (.inl ⟨rfl, minded⟩)
  | startEnding =>
      have minded := minded at_ (by simp)
      dsimp only
      split
      · exact .lifecycled trivial rfl rfl (.inl ⟨rfl, minded⟩)
      · exact .lifecycled trivial rfl rfl (.inl ⟨rfl, minded⟩)
  | startJoining =>
      dsimp only
      split
      · exact .lifecycled trivial rfl rfl (.inr (.inl rfl))
      · exact .elsewhere trivial (undisturbed_refl _) rfl .inl
  | startReading =>
      exact .lifecycled trivial rfl rfl (.inl ⟨rfl, minded at_ (by simp)⟩)
  | stopRefusing =>
      exact .lifecycled trivial rfl rfl (.inl ⟨rfl, minded at_ (by simp)⟩)
  | stopInvalidating => exact .invalidated rfl rfl fun minding => minding.2 (.inl rfl)
  | stopEnding =>
      dsimp only
      split
      · next absent =>
          refine .lifecycled trivial rfl rfl (.inr (.inl ?_))
          dsimp only
          rw [absent]
          rfl
      · exact .lifecycled trivial rfl rfl (.inr (.inr (.inr rfl)))
  | stopJoining =>
      dsimp only
      split
      · exact .lifecycled trivial rfl rfl (.inr (.inl rfl))
      · exact .elsewhere trivial (undisturbed_refl _) rfl .inl
  | stopClearing =>
      exact .lifecycled trivial rfl rfl (.inl ⟨rfl, minded at_ (by simp)⟩)

/-- A step of the owner's thread that leaves the event loop, or comes to it with nothing submitted. -/
theorem HostStepped.owned {host after : BaresipNativeRegistrationHost} {observed : HostObserved}
    (unseen : observed.Unseen) (dispatch : after.dispatch = host.dispatch)
    (calls : after.calls = host.calls) (away : after.owner.loops = false) :
    HostStepped host observed after := by
  refine .elsewhere unseen ?_ calls fun minding => ?_
  · rw [dispatch]
    exact undisturbed_refl _
  · cases away.symm.trans minding.1

/-- A step inside the event loop. -/
theorem minding_of_loops {host after : BaresipNativeRegistrationHost}
    (loops : host.owner.loops = true) (lifecycle : after.lifecycle = host.lifecycle)
    (minding : after.Minding) : host.Minding := by
  refine ⟨loops, fun stopping => minding.2 ?_⟩
  rw [BaresipNativeRegistrationHost.Stopping, lifecycle]
  exact stopping

theorem create_stepped {host : BaresipNativeRegistrationHost} :
    HostStepped host host.create.1 host.create.2 := by
  rw [BaresipNativeRegistrationHost.create]
  dsimp only
  split
  · exact .owned trivial rfl rfl rfl
  · next begun => exact .began begun rfl rfl fun minding => by cases minding.1

theorem advanceOwner_stepped {host : BaresipNativeRegistrationHost} (coupled : ThreadsCoupled host)
    (answers : OwnerAnswers) :
    HostStepped host (host.advanceOwner answers).1 (host.advanceOwner answers).2 := by
  have point := coupled.point
  rw [BaresipNativeRegistrationHost.advanceOwner.eq_def]
  cases at_ : host.owner with
  | absent | looping | finished => exact .elsewhere trivial (undisturbed_refl _) rfl .inl
  | initializing =>
      dsimp only
      split
      · exact .owned trivial rfl rfl rfl
      · exact .owned trivial rfl rfl rfl
  | creating => exact create_stepped
  | publishing | admitting | leaving | refusing | clearing | detaching =>
      exact .owned trivial rfl rfl rfl
  | announcing began =>
      rw [at_] at point
      have free : host.dispatch.gateway.owner = 0 := by
        by_contra held
        have holds := (coupled.held held).1
        rw [at_] at holds
        cases holds
      exact .elsewhere trivial (undisturbed_refl _) rfl fun _ => .inr ⟨point, free⟩
  | entering =>
      have loops : host.owner.loops = true := by
        rw [at_]
        rfl
      have idle : host.dispatch.point = .idle := by
        rw [at_] at point
        exact point
      dsimp only
      split
      · exact .turned (.inl rfl) rfl fun minding => by cases minding.1
      · next owned => exact .drained idle owned rfl rfl rfl rfl (minding_of_loops loops rfl)
  | ticking =>
      have loops : host.owner.loops = true := by
        rw [at_]
        rfl
      exact .worked answers.sdk rfl rfl (minding_of_loops loops rfl)
  | invalidating => exact .invalidated rfl rfl fun minding => by cases minding.1
  | releasing =>
      have idle : host.dispatch.point = .idle := by
        rw [at_] at point
        exact point
      dsimp only
      split
      · exact .owned trivial rfl rfl rfl
      · refine .turned (.inr ?_) rfl fun minding => by cases minding.1
        rw [registrationStep, if_neg (not_not_intro idle)]
  | stopping =>
      refine .worked answers.sdk ?_ ?_ fun minding => ?_
      · dsimp only
        split <;> rfl
      · dsimp only
        split <;> rfl
      · dsimp only at minding
        split at minding
        · cases minding.1
        · cases minding.1

/-- Native events leave the calls, the lifecycle and the owner's thread alone. -/
theorem native_stepped (host : BaresipNativeRegistrationHost) {move : RegistrationMove}
    (native : move.FromNative) : HostStepped host .nothing (host.native move) := by
  obtain ⟨dispatch, same, undisturbed⟩ := native_cases host native
  rw [same]
  exact .elsewhere trivial undisturbed rfl .inl

theorem fire_stepped (host : BaresipNativeRegistrationHost) :
    HostStepped host host.fire.1 host.fire.2 := by
  rw [BaresipNativeRegistrationHost.fire]
  split
  · exact .elsewhere trivial (undisturbed_refl _) rfl .inl
  · next looping =>
      have loops : host.owner.loops = true := by
        rw [not_not.mp looping]
        rfl
      split
      · exact .owned trivial rfl rfl rfl
      · exact .elsewhere trivial (undisturbed_refl _) rfl
          fun minding => .inl (minding_of_loops loops (by rfl) minding)

theorem hostStep_stepped {host : BaresipNativeRegistrationHost} (coupled : ThreadsCoupled host)
    (move : HostMove) : HostStepped host (hostStep host move).1 (hostStep host move).2 := by
  have same : HostStepped host .nothing host :=
    .elsewhere trivial (undisturbed_refl _) rfl .inl
  cases move with
  | call number request =>
      rw [hostStep, BaresipNativeRegistrationHost.beginCall.eq_def]
      split
      · exact same
      · next unmade =>
          have unmade := not_not.mp unmade
          refine .called number trivial (by simp [unmade]) fun queue generation issued => ?_
          rw [unmade] at issued
          exact absurd issued id
  | advance number pushed => exact advanceCall_stepped host number pushed
  | start | stop =>
      rw [hostStep]
      split
      · next idle =>
          refine .lifecycled trivial rfl rfl (.inl ⟨rfl, ?_⟩)
          rintro (ending | joining)
          · cases idle.symm.trans ending
          · cases idle.symm.trans joining
      · exact same
  | lifecycle created => exact advanceLifecycle_stepped host created
  | owner answers => exact advanceOwner_stepped coupled answers
  | fires => exact fire_stepped host
  | loopEnds =>
      rw [hostStep]
      split
      · exact .owned trivial rfl rfl rfl
      · exact same
  | throws =>
      rw [hostStep]
      split
      · exact .turned (.inl rfl) rfl fun minding => by cases minding.1
      · exact same
  | deliver delivery context => exact native_stepped host trivial
  | otherAdapterClaims => exact native_stepped host trivial
  | otherAdapterReleases => exact native_stepped host trivial

/-! ## The queue -/

/-- What becomes of a command, by the state of the queue. -/
inductive Enqueues (queue : RegistrationCommandQueue) (command : RegistrationCommand) :
    Enqueued → RegistrationCommandQueue → Prop
  | refused : Enqueues queue command .refused queue
  | cancelled (kind : command.kind = .cancel) {revision : UInt64} :
      Enqueues queue command .accepted
        { queue with entries := [command], opened := false, revision := revision }
  | overflowed {revision : UInt64} :
      Enqueues queue command .overflowed
        { queue with entries := [], opened := false, overflow := true, revision := revision }
  | accepted (kind : command.kind ≠ .cancel) (opened : queue.opened = true)
      (nonzero : command.generation ≠ 0) (generation : command.generation = queue.generation) :
      Enqueues queue command .accepted { queue with entries := queue.entries ++ [command] }

theorem enqueue_enqueues (queue : RegistrationCommandQueue) (command : RegistrationCommand) :
    Enqueues queue command (queue.enqueue command).1 (queue.enqueue command).2 := by
  rw [RegistrationCommandQueue.enqueue]
  split
  · exact .refused
  · next open_ =>
      simp only [Bool.or_eq_true, Bool.not_eq_true', decide_eq_true_eq, not_or, not_not,
        Bool.not_eq_false] at open_
      obtain ⟨⟨⟨opened, nonzero⟩, same⟩, -⟩ := open_
      split
      · next cancel => exact .cancelled cancel
      · next submits =>
          split
          · exact .overflowed
          · exact .accepted submits opened nonzero same

theorem submit_enqueues (queue : RegistrationCommandQueue) (id : UInt64) (timeoutMs : UInt32) :
    Enqueues queue ⟨.submitSelectedAccount, id, timeoutMs⟩ (queue.submit id timeoutMs).1
      (queue.submit id timeoutMs).2 := by
  rw [RegistrationCommandQueue.submit]
  split
  · exact .refused
  · exact enqueue_enqueues queue _

/-- The submissions that wait are the entries of the queue; behind a revocation there are none. -/
inductive Waits : RegistrationCommandQueue → List HostSubmission → Prop
  | opened {queue : RegistrationCommandQueue} {waiting : List HostSubmission}
      (opened : queue.opened = true) (calm : queue.overflow = false)
      (entries : queue.entries = waiting.map HostSubmission.command)
      (generation : ∀ submission ∈ waiting, submission.command.generation = queue.generation) :
      Waits queue waiting
  | closed {queue : RegistrationCommandQueue} (closed : queue.opened = false)
      (entries : queue.entries = [] ∨ ∃ command, command.kind = .cancel ∧ queue.entries = [command]) :
      Waits queue []

namespace Waits

theorem none_of_closed {queue : RegistrationCommandQueue} {waiting : List HostSubmission}
    (waits : Waits queue waiting) (closed : queue.opened = false) : waiting = [] := by
  cases waits with
  | opened opened calm entries generation => cases closed.symm.trans opened
  | closed closed entries => rfl

theorem entries_eq {queue : RegistrationCommandQueue} {waiting : List HostSubmission}
    (waits : Waits queue waiting) (opened : queue.opened = true) :
    queue.entries = waiting.map HostSubmission.command := by
  cases waits with
  | opened opened calm entries generation => exact entries
  | closed closed entries => cases closed.symm.trans opened

theorem calm_eq {queue : RegistrationCommandQueue} {waiting : List HostSubmission}
    (waits : Waits queue waiting) (opened : queue.opened = true) : queue.overflow = false := by
  cases waits with
  | opened opened calm entries generation => exact calm
  | closed closed entries => cases closed.symm.trans opened

theorem generation_eq {queue : RegistrationCommandQueue} {waiting : List HostSubmission}
    (waits : Waits queue waiting) :
    ∀ submission ∈ waiting, submission.command.generation = queue.generation := by
  cases waits with
  | opened opened calm entries generation => exact generation
  | closed closed entries => exact fun _ member => absurd member List.not_mem_nil

theorem invalidate (queue : RegistrationCommandQueue) : Waits queue.invalidate [] :=
  .closed rfl (.inl rfl)

/-- A generation begins with nothing that waits. -/
theorem begin {queue : RegistrationCommandQueue} {waiting : List HostSubmission}
    (waits : Waits queue waiting) (begun : queue.beginGeneration.1 ≠ 0) :
    waiting = [] ∧ Waits queue.beginGeneration.2 [] := by
  rw [RegistrationCommandQueue.beginGeneration] at begun ⊢
  split at begun
  · exact absurd rfl begun
  · next free =>
      rw [if_neg free]
      simp only [Bool.or_eq_true, decide_eq_true_eq, not_or, Bool.not_eq_true, Bool.not_eq_false',
        List.isEmpty_iff] at free
      obtain ⟨⟨⟨closed, entries⟩, calm⟩, -⟩ := free
      exact ⟨waits.none_of_closed closed,
        .opened rfl calm entries fun _ member => absurd member List.not_mem_nil⟩

/-- Behind a cancellation that is asked for, accepted or not, the generation is closed. -/
theorem cancel_closed {queue : RegistrationCommandQueue} {waiting : List HostSubmission}
    (waits : Waits queue waiting) {id : UInt64} (nonzero : id ≠ 0)
    (begun : id ≤ queue.lastGeneration) : (queue.cancel id).2.Closed id := by
  have keeps := queue.enqueue_keeps ⟨.cancel, id, 0⟩
  rw [RegistrationCommandQueue.cancel]
  constructor
  · rw [keeps.lastGeneration]
    exact begun
  · rw [keeps.generation]
    intro same
    cases waits with
    | opened opened calm entries generation =>
        rw [RegistrationCommandQueue.enqueue, opened, calm]
        simp [nonzero, same]
    | closed closed entries =>
        rw [Bool.eq_false_iff]
        intro opened
        cases closed.symm.trans (keeps.opened opened)

end Waits

/-- The rest of a batch is the submissions that have been taken and not executed. -/
structure Rests (generation : UInt64) (commands : List RegistrationCommand)
    (taken : List HostSubmission) : Prop where
  commands : commands = taken.map HostSubmission.command
  generation : ∀ submission ∈ taken, submission.command.generation = generation

/-- What a tick has taken, up to a cancellation. -/
inductive Takes (generation : UInt64) : List RegistrationCommand → List HostSubmission → Prop
  | submissions {commands : List RegistrationCommand} {taken : List HostSubmission}
      (rests : Rests generation commands taken) : Takes generation commands taken
  | cancel {command : RegistrationCommand} (kind : command.kind = .cancel) :
      Takes generation [command] []

theorem Takes.head {generation : UInt64} {command : RegistrationCommand}
    {behind : List RegistrationCommand} {taken : List HostSubmission}
    (takes : Takes generation (command :: behind) taken) (submits : command.kind ≠ .cancel) :
    ∃ submission rest, taken = submission :: rest ∧ submission.command = command ∧
      command.generation = generation ∧ Rests generation behind rest := by
  cases takes with
  | submissions rests =>
      obtain ⟨submission, rest, rfl, same, later⟩ := List.map_eq_cons_iff.mp rests.commands.symm
      refine ⟨submission, rest, rfl, same, ?_, later.symm, ?_⟩
      · rw [← same]
        exact rests.generation submission List.mem_cons_self
      · exact fun other member => rests.generation other (List.mem_cons_of_mem _ member)
  | cancel kind => exact absurd kind submits

/-- How far a tick has come with what it has taken. -/
def TracksPoint (generation : UInt64) (ledger : HostLedger) : TickPoint → Prop
  | .deciding frame index _ => Takes generation (frame.batch.commands.drop index) ledger.taken
  | .submitting frame index command =>
      ∃ submission rest, ledger.taken = submission :: rest ∧ submission.command = command ∧
        command.generation = generation ∧
        Rests generation (frame.batch.commands.drop (index + 1)) rest
  | .registering frame index _ =>
      Rests generation (frame.batch.commands.drop (index + 1)) ledger.taken ∧
        ∃ submission, ledger.executed.getLast? = some submission ∧
          submission.command.generation = generation
  | .submitted frame index .. | .arming frame index .. | .armed frame index _ =>
      Rests generation (frame.batch.commands.drop (index + 1)) ledger.taken
  | _ => True

theorem TracksPoint.congr {generation : UInt64} {before after : HostLedger} {point : TickPoint}
    (tracks : TracksPoint generation before point) (taken : after.taken = before.taken)
    (executed : after.executed = before.executed) : TracksPoint generation after point := by
  cases point with
  | idle | stopping | unregistering | invalidating | returning => trivial
  | deciding | submitting | registering | submitted | arming | armed =>
      rw [TracksPoint, taken] at *
      try rw [executed]
      exact tracks

theorem TracksPoint.of_frameless {generation : UInt64} {ledger : HostLedger} {point : TickPoint}
    (frameless : point.frame? = none) : TracksPoint generation ledger point := by
  cases point with
  | idle | stopping | unregistering | invalidating | returning => trivial
  | deciding | submitting | registering | submitted | arming | armed => cases frameless

/-- A drain takes nothing, or all there is. -/
inductive Drains (queue : RegistrationCommandQueue) :
    RegistrationBatch → RegistrationCommandQueue → Prop
  | stale : Drains queue {} queue
  | taken {batch : RegistrationBatch} (nonzero : batch.generation ≠ 0)
      (overflow : batch.overflow = queue.overflow)
      (commands : queue.overflow = false → batch.commands = queue.entries) :
      Drains queue batch { queue with entries := [], overflow := false }

theorem drain_drains (queue : RegistrationCommandQueue) (generation : UInt64) :
    Drains queue (queue.drain generation).1 (queue.drain generation).2 := by
  rw [RegistrationCommandQueue.drain]
  split
  · exact .stale
  · next current =>
      split
      · exact .stale
      · simp only [Bool.or_eq_true, decide_eq_true_eq, not_or, not_not] at current
        refine .taken ?_ rfl fun overflow => ?_
        · rw [current.2]
          exact current.1
        · rw [overflow]
          rfl

theorem Waits.takes {queue : RegistrationCommandQueue} {waiting : List HostSubmission}
    (waits : Waits queue waiting) : Takes queue.generation queue.entries waiting := by
  cases waits with
  | opened opened calm entries generation => exact .submissions ⟨entries, generation⟩
  | closed closed entries =>
      rcases entries with none_ | ⟨command, kind, only⟩
      · rw [none_]
        exact .submissions ⟨rfl, fun _ member => absurd member List.not_mem_nil⟩
      · rw [only]
        exact .cancel kind

theorem Waits.emptied {queue : RegistrationCommandQueue} {waiting : List HostSubmission}
    (waits : Waits queue waiting) : Waits { queue with entries := [], overflow := false } [] := by
  cases waits with
  | opened opened calm entries generation =>
      exact .opened opened rfl rfl fun _ member => absurd member List.not_mem_nil
  | closed closed entries => exact .closed closed (.inl rfl)

/-- A drain that is not stale takes what waits. -/
theorem beginTick_tracks {host : RegistrationHost} {ledger : HostLedger}
    (waits : Waits host.queue ledger.waiting) (generation monotonicMs : UInt64)
    (selected : Address) :
    Waits (host.beginTick generation monotonicMs selected).2.queue
        (ledger.note (.dispatched (host.beginTick generation monotonicMs selected).1)).waiting ∧
      TracksPoint host.queue.generation
        (ledger.note (.dispatched (host.beginTick generation monotonicMs selected).1))
        (host.beginTick generation monotonicMs selected).2.point := by
  have drains := drain_drains host.queue generation
  rw [RegistrationHost.beginTick]
  dsimp only [HostLedger.note]
  generalize (host.queue.drain generation).1 = batch at drains ⊢
  generalize (host.queue.drain generation).2 = after at drains ⊢
  cases drains with
  | stale =>
      have stale : (decide ((0 : UInt64) ≠ generation) || decide (generation = 0)) = true := by
        rw [Bool.or_eq_true, decide_eq_true_eq, decide_eq_true_eq]
        by_cases none_ : generation = 0
        · exact .inr none_
        · exact .inl (Ne.symm none_)
      rw [if_pos rfl]
      refine ⟨waits, ?_⟩
      split
      · trivial
      · next current => exact absurd stale current
  | taken nonzero overflow commands =>
      rw [if_neg nonzero]
      refine ⟨waits.emptied, ?_⟩
      split
      · trivial
      · split
        · trivial
        · next calm =>
            rw [overflow, Bool.not_eq_true] at calm
            rw [TracksPoint, commands calm]
            exact waits.takes

theorem HostLedger.execute_cons {ledger : HostLedger} {submission : HostSubmission}
    {rest : List HostSubmission} (taken : ledger.taken = submission :: rest) :
    ledger.execute =
      { ledger with taken := rest, executed := ledger.executed ++ [submission] } := by
  rw [HostLedger.execute, taken]

/-- Behind the loop a tick has nothing more to execute. -/
theorem poll_tracks (host : RegistrationHost) (frame : TickFrame)
    (result : RegistrationDispatchOutcome) (uaIsregistered : Bool) (generation : UInt64)
    (ledger : HostLedger) :
    TracksPoint generation ledger (host.poll frame result uaIsregistered).2.point := by
  rw [RegistrationHost.poll]
  dsimp only
  split
  · trivial
  · trivial
  · trivial
  · trivial
  · trivial
  · trivial
  · trivial

theorem check_tracks {generation : UInt64} {ledger : HostLedger} {next : TickPoint}
    (tracks : TracksPoint generation ledger next) (host : RegistrationHost)
    (batch : RegistrationBatch) (superseded : RegistrationDispatchOutcome) :
    TracksPoint generation ledger (host.check batch superseded next).2.point := by
  rw [RegistrationHost.check]
  dsimp only
  split
  · exact tracks
  · trivial

theorem decideCommand_tracks {generation : UInt64} {ledger : HostLedger} {frame : TickFrame}
    {index : ℕ} {command : RegistrationCommand}
    (takes : Takes generation (frame.batch.commands.drop index) ledger.taken)
    (found : frame.batch.commands[index]? = some command) (host : RegistrationHost) :
    TracksPoint generation ledger (host.decideCommand frame index command).2.point := by
  have head : frame.batch.commands.drop index =
      command :: frame.batch.commands.drop (index + 1) := by
    obtain ⟨inside, same⟩ := List.getElem?_eq_some_iff.mp found
    rw [← same]
    exact List.drop_eq_getElem_cons inside
  rw [RegistrationHost.decideCommand]
  split
  · trivial
  · split
    · trivial
    · next submits =>
        refine check_tracks ?_ host _ _
        rw [head] at takes
        exact takes.head submits

/-- A tick goes through what it has taken in order. -/
theorem ownerStep_tracks {host : RegistrationHost} {ledger : HostLedger} {generation : UInt64}
    (tracks : TracksPoint generation ledger host.point) (sdk : SdkAnswers) :
    TracksPoint generation (ledger.note (.dispatched (host.ownerStep sdk).1))
      (host.ownerStep sdk).2.point := by
  rw [RegistrationHost.ownerStep]
  cases at_ : host.point with
  | idle =>
      rw [at_]
      trivial
  | deciding frame index result =>
      rw [at_] at tracks
      dsimp only
      cases found : frame.batch.commands[index]? with
      | none => exact poll_tracks host frame result sdk.uaIsregistered generation _
      | some command =>
          have silent : ledger.note (.dispatched (host.decideCommand frame index command).1) =
              ledger := by
            rw [RegistrationHost.decideCommand]
            split
            · rfl
            · split <;> rfl
          dsimp only
          rw [silent]
          exact decideCommand_tracks tracks found host
  | submitting frame index command =>
      rw [at_] at tracks
      obtain ⟨submission, rest, taken, same, generation_eq, rests⟩ := tracks
      dsimp only [HostLedger.note]
      rw [HostLedger.execute_cons taken]
      split
      · refine ⟨rests, submission, List.getLast?_concat, ?_⟩
        rw [same]
        exact generation_eq
      · exact rests
  | registering frame index command =>
      rw [at_] at tracks
      dsimp only [HostLedger.note]
      split
      · exact tracks.1
      · exact tracks.1
  | submitted frame index command submission =>
      rw [at_] at tracks
      have next : TracksPoint generation ledger (.arming frame index command submission) := tracks
      exact check_tracks next host _ _
  | arming frame index command submission =>
      rw [at_] at tracks
      dsimp only
      split
      · trivial
      · dsimp only
        split
        · exact tracks
        · trivial
  | armed frame index submission =>
      rw [at_] at tracks
      have next : TracksPoint generation ledger
          (.deciding frame (index + 1) ⟨.submitted, submission⟩) := Takes.submissions tracks
      exact check_tracks next host _ _
  | stopping next =>
      dsimp only
      split
      · trivial
      · dsimp only
        cases next <;> trivial
  | unregistering next =>
      dsimp only
      cases next <;> trivial
  | invalidating outcome => trivial
  | returning outcome => trivial

namespace HostLedger

/-- What may still be executed, behind what has been. -/
def pipeline (ledger : HostLedger) : List HostSubmission :=
  ledger.executed ++ ledger.taken ++ ledger.waiting

theorem clear_pipeline (ledger : HostLedger) : ledger.clear.pipeline.Sublist ledger.pipeline := by
  rw [pipeline, pipeline, clear]
  exact (List.Sublist.refl _).append (List.nil_sublist _)

theorem take_pipeline (ledger : HostLedger) : ledger.take.pipeline.Sublist ledger.pipeline := by
  rw [pipeline, pipeline, take, List.append_nil]
  exact (List.sublist_append_left _ _).append (List.Sublist.refl _)

theorem execute_pipeline (ledger : HostLedger) : ledger.execute.pipeline = ledger.pipeline := by
  cases taken : ledger.taken with
  | nil => rw [execute, taken]
  | cons submission rest =>
      rw [execute_cons taken, pipeline, pipeline, taken]
      simp

theorem execute_issued (ledger : HostLedger) : ledger.execute.issued = ledger.issued := by
  cases taken : ledger.taken with
  | nil => rw [execute, taken]
  | cons submission rest => rw [execute_cons taken]

theorem execute_waiting (ledger : HostLedger) : ledger.execute.waiting = ledger.waiting := by
  cases taken : ledger.taken with
  | nil => rw [execute, taken]
  | cons submission rest => rw [execute_cons taken]

theorem execute_starter (ledger : HostLedger) : ledger.execute.starter = ledger.starter := by
  cases taken : ledger.taken with
  | nil => rw [execute, taken]
  | cons submission rest => rw [execute_cons taken]

theorem note_drained_starter (ledger : HostLedger) (batch : RegistrationBatch) :
    (ledger.note (.dispatched (.drained batch))).starter = ledger.starter := by
  rw [note]
  split <;> rfl

/-- The dispatcher issues nothing, and executes in the order of acceptance. -/
theorem note_dispatched (ledger : HostLedger) (observed : RegistrationObserved) :
    (ledger.note (.dispatched observed)).issued = ledger.issued ∧
      (ledger.note (.dispatched observed)).pipeline.Sublist ledger.pipeline := by
  have same : ledger.issued = ledger.issued ∧ ledger.pipeline.Sublist ledger.pipeline :=
    ⟨rfl, List.Sublist.refl _⟩
  cases observed with
  | invalidated => exact ⟨rfl, ledger.clear_pipeline⟩
  | executes command =>
      refine ⟨ledger.execute_issued, ?_⟩
      rw [note, execute_pipeline]
  | drained batch =>
      rw [note]
      split
      · exact same
      · exact ⟨rfl, ledger.take_pipeline⟩
  | submitted submission =>
      rw [note]
      split <;> exact same
  | nothing | enqueued | began | checked | stops | returned | refusedThread => exact same

end HostLedger

/-- A registration of the gateway was started by a submission of this generation. -/
def StartedIn (generation : UInt64) (ledger : HostLedger) : Prop :=
  ∃ submission, ledger.starter = some submission ∧ submission.command.generation = generation

/-- What a step of the dispatcher leaves in the queue and in the gateway. -/
theorem ownerStep_accounts {host : RegistrationHost} {ledger : HostLedger}
    (waits : Waits host.queue ledger.waiting)
    (tracks : TracksPoint host.queue.generation ledger host.point)
    (starter : host.gateway.owner ≠ 0 → StartedIn host.queue.generation ledger) (sdk : SdkAnswers) :
    Waits (host.ownerStep sdk).2.queue
        (ledger.note (.dispatched (host.ownerStep sdk).1)).waiting ∧
      ((host.ownerStep sdk).2.gateway.owner ≠ 0 →
        StartedIn host.queue.generation (ledger.note (.dispatched (host.ownerStep sdk).1))) := by
  have stepped := ownerStep_stepped host sdk
  generalize (host.ownerStep sdk).1 = observed at stepped ⊢
  generalize (host.ownerStep sdk).2 = after at stepped ⊢
  cases stepped with
  | waits | checked | settled | returned => exact ⟨waits, starter⟩
  | unregisters at_ calls => exact ⟨waits, starter⟩
  | executed at_ registers =>
      dsimp only [HostLedger.note]
      rw [StartedIn, HostLedger.execute_waiting, HostLedger.execute_starter]
      exact ⟨waits, starter⟩
  | @registered frame index command gateway submission at_ owner =>
      rw [at_] at tracks
      dsimp only [HostLedger.note]
      split
      · exact ⟨waits, fun _ => tracks.2⟩
      · next rejected =>
          rw [if_neg rejected] at owner
          rw [owner]
          exact ⟨waits, starter⟩
  | stopped at_ silent => exact ⟨waits, fun held => absurd rfl held⟩
  | unregistered at_ => exact ⟨waits, fun held => absurd rfl held⟩
  | invalidated at_ => exact ⟨.invalidate host.queue, starter⟩

/-! ## A step of the host -/

/-- The history of the submissions agrees with the state. -/
structure Reconciled (ledger : HostLedger) (host : BaresipNativeRegistrationHost) : Prop where
  waits : Waits host.dispatch.queue ledger.waiting
  point : TracksPoint host.dispatch.queue.generation ledger host.dispatch.point
  starter : host.dispatch.gateway.owner ≠ 0 → StartedIn host.dispatch.queue.generation ledger
  order : ledger.pipeline.Sublist ledger.issued
  distinct : (ledger.issued.map HostSubmission.call).Nodup
  begun : ∀ submission ∈ ledger.issued, submission.command.generation ≠ 0 ∧
    submission.command.generation ≤ host.dispatch.queue.lastGeneration
  calls : ∀ submission ∈ ledger.issued,
    IssuedAt host.dispatch.queue submission.command.generation (host.calls submission.call)

theorem reconciled_initial : Reconciled {} {} where
  waits := .closed rfl (.inl rfl)
  point := trivial
  starter held := absurd rfl held
  order := List.Sublist.refl _
  distinct := List.nodup_nil
  begun _ member := absurd member List.not_mem_nil
  calls _ member := absurd member List.not_mem_nil

/-- A queue that closes no generation again leaves a call where it may stand. -/
theorem IssuedAt.mono {before after : RegistrationCommandQueue} {generation : UInt64}
    {point : CallPoint} (issued : IssuedAt before generation point)
    (closed : before.Closed generation → after.Closed generation) :
    IssuedAt after generation point := by
  cases point with
  | returning answer =>
      cases answer with
      | true => trivial
      | false => exact closed issued
  | waking id | withdrawing id => exact issued
  | returned => trivial
  | unmade | naming | admitting | comparing | enqueueing | cancelNaming | cancelAdmitting
  | cancelling | cancelWaking => exact absurd issued id

namespace Reconciled

variable {ledger : HostLedger} {host after : BaresipNativeRegistrationHost}

/-- A step that is no one's call, and issues nothing. -/
theorem stepped (reconciled : Reconciled ledger host) {observed : HostObserved}
    (issued : (ledger.note observed).issued = ledger.issued)
    (pipeline : (ledger.note observed).pipeline.Sublist ledger.pipeline)
    (waits : Waits after.dispatch.queue (ledger.note observed).waiting)
    (point : TracksPoint after.dispatch.queue.generation (ledger.note observed)
      after.dispatch.point)
    (starter : after.dispatch.gateway.owner ≠ 0 →
      StartedIn after.dispatch.queue.generation (ledger.note observed))
    (last : host.dispatch.queue.lastGeneration ≤ after.dispatch.queue.lastGeneration)
    (closed : ∀ generation, host.dispatch.queue.Closed generation →
      after.dispatch.queue.Closed generation)
    (calls : after.calls = host.calls) : Reconciled (ledger.note observed) after := by
  constructor
  · exact waits
  · exact point
  · exact starter
  · rw [issued]
    exact pipeline.trans reconciled.order
  · rw [issued]
    exact reconciled.distinct
  · rw [issued]
    intro submission member
    obtain ⟨nonzero, before⟩ := reconciled.begun submission member
    exact ⟨nonzero, UInt64.le_trans before last⟩
  · rw [issued, calls]
    intro submission member
    exact (reconciled.calls submission member).mono (closed _)

/-- A call goes on. -/
theorem called (reconciled : Reconciled ledger host) (number : ℕ) {point : CallPoint}
    (keeps : ∀ submission ∈ ledger.issued,
      IssuedAt host.dispatch.queue submission.command.generation (host.calls number) →
        IssuedAt host.dispatch.queue submission.command.generation point) :
    Reconciled ledger (host.withCall number point) := by
  obtain ⟨waits, tracks, starter, order, distinct, begun, calls⟩ := reconciled
  refine ⟨waits, tracks, starter, order, distinct, begun, fun submission member => ?_⟩
  have before := calls submission member
  rw [BaresipNativeRegistrationHost.withCall]
  dsimp only
  by_cases same : submission.call = number
  · rw [same] at before ⊢
    rw [Function.update_self]
    exact keeps submission member before
  · rw [Function.update_of_ne same]
    exact before

/-- The queue is cleared for the rest of its generation. -/
theorem cleared (reconciled : Reconciled ledger host) {observed : HostObserved}
    (clears : ledger.note observed = ledger.clear) {queue : RegistrationCommandQueue}
    (keeps : host.dispatch.queue.QueueKeeps queue) (waits : Waits queue [])
    (dispatch : after.dispatch = { host.dispatch with queue := queue })
    (calls : after.calls = host.calls) : Reconciled (ledger.note observed) after := by
  have generation : after.dispatch.queue.generation = host.dispatch.queue.generation := by
    rw [dispatch]
    exact keeps.generation
  refine reconciled.stepped ?_ ?_ ?_ ?_ ?_ ?_ ?_ calls
  · rw [clears]
    rfl
  · rw [clears]
    exact ledger.clear_pipeline
  · rw [clears, dispatch]
    exact waits
  · rw [clears, generation, dispatch]
    exact reconciled.point.congr rfl rfl
  · rw [clears, generation, dispatch]
    exact reconciled.starter
  · rw [dispatch]
    exact UInt64.le_of_eq keeps.lastGeneration.symm
  · rw [dispatch]
    exact fun _ closed => closed.keep keeps

/-- A submission is accepted: its call has issued none before. -/
theorem accepted (reconciled : Reconciled ledger host) {number : ℕ} {id : UInt64}
    {timeoutMs : UInt32} (at_ : host.calls number = .enqueueing id timeoutMs)
    (last : host.dispatch.queue.generation ≤ host.dispatch.queue.lastGeneration)
    (opened : host.dispatch.queue.opened = true) (nonzero : id ≠ 0)
    (same : id = host.dispatch.queue.generation) :
    Reconciled (ledger.accept ⟨number, .submitSelectedAccount, id, timeoutMs⟩)
      ((host.withQueue { host.dispatch.queue with
        entries := host.dispatch.queue.entries ++ [⟨.submitSelectedAccount, id, timeoutMs⟩] }).withCall
        number (.waking id)) := by
  obtain ⟨waits, tracks, starter, order, distinct, begun, calls⟩ := reconciled
  have fresh : ∀ submission ∈ ledger.issued, submission.call ≠ number := by
    rintro submission member rfl
    have issued := calls submission member
    rw [at_] at issued
    exact issued
  constructor
  · refine .opened opened (waits.calm_eq opened) ?_ ?_
    · dsimp only [BaresipNativeRegistrationHost.withQueue,
        BaresipNativeRegistrationHost.withCall, HostLedger.accept]
      rw [waits.entries_eq opened, List.map_append]
      rfl
    · exact forall_mem_concat waits.generation_eq same
  · exact tracks.congr rfl rfl
  · exact starter
  · rw [HostLedger.pipeline, HostLedger.accept]
    dsimp only
    rw [← List.append_assoc]
    exact order.append (List.Sublist.refl _)
  · dsimp only [HostLedger.accept]
    rw [List.map_append, List.nodup_append]
    refine ⟨distinct, List.pairwise_singleton _ _, ?_⟩
    intro call earlier other now
    obtain ⟨submission, member, rfl⟩ := List.mem_map.mp earlier
    rw [List.mem_singleton.mp now]
    exact fresh submission member
  · refine forall_mem_concat begun ⟨nonzero, ?_⟩
    rw [same]
    exact last
  · intro submission member
    dsimp only [BaresipNativeRegistrationHost.withQueue, BaresipNativeRegistrationHost.withCall]
    rcases List.mem_append.mp member with earlier | now
    · rw [Function.update_of_ne (fresh submission earlier)]
      exact (calls submission earlier).mono fun closed =>
        closed.keep ⟨rfl, rfl, fun flag => flag⟩
    · rw [List.mem_singleton.mp now, Function.update_self]
      rfl

theorem submits (reconciled : Reconciled ledger host)
    (last : host.dispatch.queue.generation ≤ host.dispatch.queue.lastGeneration) {number : ℕ}
    {id : UInt64} {timeoutMs : UInt32} (at_ : host.calls number = .enqueueing id timeoutMs) :
    Reconciled
      (ledger.note (.enqueued number (host.dispatch.queue.submit id timeoutMs).1
        ⟨.submitSelectedAccount, id, timeoutMs⟩))
      ((host.withQueue (host.dispatch.queue.submit id timeoutMs).2).withCall number
        (if (host.dispatch.queue.submit id timeoutMs).1 = .accepted then .waking id
        else .returning false)) := by
  have enqueues := submit_enqueues host.dispatch.queue id timeoutMs
  have keeps := submit_keeps host.dispatch.queue id timeoutMs
  generalize (host.dispatch.queue.submit id timeoutMs).1 = answer at enqueues ⊢
  generalize (host.dispatch.queue.submit id timeoutMs).2 = queue at enqueues keeps ⊢
  have unissued (queue : RegistrationCommandQueue) (generation : UInt64) :
      ¬ IssuedAt queue generation (host.calls number) := by
    rw [at_]
    exact fun issued => issued
  cases enqueues with
  | refused => exact reconciled.called number fun _ _ issued => absurd issued (unissued _ _)
  | cancelled kind => cases kind
  | overflowed =>
      refine called (reconciled.cleared (by rfl) keeps (.closed rfl (.inl rfl)) (by rfl) (by rfl))
        number ?_
      exact fun _ _ issued => absurd issued (unissued _ _)
  | accepted kind opened nonzero same => exact reconciled.accepted at_ last opened nonzero same

theorem cancels (reconciled : Reconciled ledger host) {number : ℕ} {id : UInt64} {point : CallPoint}
    (at_ : host.calls number = .withdrawing id ∧ point = .returning false ∨
      host.calls number = .cancelling id) :
    Reconciled
      (ledger.note (.enqueued number (host.dispatch.queue.cancel id).1 ⟨.cancel, id, 0⟩))
      ((host.withQueue (host.dispatch.queue.cancel id).2).withCall number point) := by
  have enqueues := enqueue_enqueues host.dispatch.queue ⟨.cancel, id, 0⟩
  have keeps := host.dispatch.queue.enqueue_keeps ⟨.cancel, id, 0⟩
  have withdrawn : ∀ submission ∈ ledger.issued, ∀ before,
      IssuedAt before submission.command.generation (host.calls number) →
        IssuedAt (host.dispatch.queue.cancel id).2 submission.command.generation point := by
    intro submission member before issued
    obtain ⟨nonzero, begun⟩ := reconciled.begun submission member
    rcases at_ with ⟨withdrawing, rfl⟩ | cancelling
    · rw [withdrawing] at issued
      rw [← issued] at nonzero begun ⊢
      exact reconciled.waits.cancel_closed nonzero begun
    · rw [cancelling] at issued
      exact absurd issued fun none_ => none_
  rw [RegistrationCommandQueue.cancel] at withdrawn ⊢
  generalize (host.dispatch.queue.enqueue ⟨.cancel, id, 0⟩).1 = answer at enqueues ⊢
  generalize (host.dispatch.queue.enqueue ⟨.cancel, id, 0⟩).2 = queue at enqueues keeps withdrawn ⊢
  cases enqueues with
  | refused =>
      exact reconciled.called number fun submission member => withdrawn submission member _
  | cancelled kind =>
      refine called (reconciled.cleared (by rfl) keeps (.closed rfl (.inr ⟨_, kind, rfl⟩)) (by rfl)
        (by rfl))
        number ?_
      exact fun submission member => withdrawn submission member _
  | overflowed =>
      refine called (reconciled.cleared (by rfl) keeps (.closed rfl (.inl rfl)) (by rfl) (by rfl))
        number ?_
      exact fun submission member => withdrawn submission member _
  | accepted kind opened nonzero same => exact absurd rfl kind

/-- The dispatcher takes a step that keeps the generation. -/
theorem dispatched (reconciled : Reconciled ledger host) {observed : RegistrationObserved}
    (keeps : host.dispatch.queue.QueueKeeps after.dispatch.queue)
    (waits : Waits after.dispatch.queue (ledger.note (.dispatched observed)).waiting)
    (point : TracksPoint host.dispatch.queue.generation (ledger.note (.dispatched observed))
      after.dispatch.point)
    (starter : after.dispatch.gateway.owner ≠ 0 →
      StartedIn host.dispatch.queue.generation (ledger.note (.dispatched observed)))
    (calls : after.calls = host.calls) :
    Reconciled (ledger.note (.dispatched observed)) after := by
  obtain ⟨issued, pipeline⟩ := ledger.note_dispatched observed
  rw [← keeps.generation] at point starter
  exact reconciled.stepped issued pipeline waits point starter
    (UInt64.le_of_eq keeps.lastGeneration.symm) (fun _ closed => closed.keep keeps) calls

theorem step (reconciled : Reconciled ledger host) (coupled : ThreadsCoupled host)
    {observed : HostObserved} (stepped : HostStepped host observed after) :
    Reconciled (ledger.note observed) after := by
  cases stepped with
  | elsewhere unseen same calls minds =>
      rw [unseen.note ledger]
      obtain ⟨waits, point, starter, order, distinct, begun, issued⟩ := reconciled
      rw [← same.queue] at waits point starter begun issued
      rw [← same.point] at point
      rw [← same.owner] at starter
      rw [← calls] at issued
      exact ⟨waits, point, starter, order, distinct, begun, issued⟩
  | called number unseen live keeps =>
      rw [unseen.note ledger]
      exact reconciled.called number fun _ _ => keeps _ _
  | submits at_ => exact reconciled.submits coupled.last at_
  | cancels at_ => exact reconciled.cancels at_
  | invalidated dispatch calls unminded =>
      exact reconciled.cleared rfl (invalidate_keeps _) (.invalidate _) dispatch calls
  | began begun dispatch calls unminded =>
      obtain ⟨none_, waits⟩ := reconciled.waits.begin begun
      obtain ⟨generation, last, newer⟩ := RegistrationCommandQueue.beginGeneration_begun begun
      refine reconciled.stepped rfl (List.Sublist.refl _) ?_ ?_ ?_ ?_ ?_ calls
      · rw [dispatch]
        have unchanged : (ledger.note (.began host.dispatch.queue.beginGeneration.1)).waiting = [] :=
          none_
        rw [unchanged]
        exact waits
      · rw [dispatch]
        trivial
      · rw [dispatch]
        exact fun held => absurd rfl held
      · rw [dispatch]
        dsimp only
        rw [← last, UInt64.le_iff_toNat_le]
        rw [UInt64.lt_iff_toNat_lt] at newer
        rw [generation]
        exact Nat.le_of_lt newer
      · rw [dispatch]
        exact fun _ closed => closed.begin
  | drained idle owned dispatch calls loops lifecycle minds =>
      obtain ⟨waits, point⟩ := beginTick_tracks reconciled.waits _ _ _
      refine reconciled.dispatched ?_ ?_ ?_ ?_ calls
      · rw [dispatch]
        exact host.dispatch.queue.drain_keeps _
      · rw [dispatch]
        exact waits
      · rw [dispatch]
        exact point
      · rw [dispatch, StartedIn, RegistrationHost.beginTick, ledger.note_drained_starter]
        exact reconciled.starter
  | worked sdk dispatch calls minds =>
      obtain ⟨waits, starter⟩ :=
        ownerStep_accounts reconciled.waits reconciled.point reconciled.starter sdk
      have keeps := (dispatcher_stepped host.dispatch sdk).queue
      refine reconciled.dispatched ?_ ?_ ?_ ?_ calls
      · rw [dispatch]
        exact keeps
      · rw [dispatch]
        exact waits
      · rw [dispatch]
        exact ownerStep_tracks reconciled.point sdk
      · rw [dispatch]
        exact starter
  | turned dispatch calls unminded =>
      have queue : after.dispatch.queue = host.dispatch.queue := by
        rcases dispatch with same | same <;> rw [same]
      have gateway : after.dispatch.gateway = host.dispatch.gateway := by
        rcases dispatch with same | same <;> rw [same]
      have frameless : after.dispatch.point.frame? = none := by
        rcases dispatch with same | same <;> rw [same] <;> rfl
      refine reconciled.stepped rfl (List.Sublist.refl _) ?_ (.of_frameless frameless) ?_ ?_ ?_ calls
      · rw [queue]
        exact reconciled.waits
      · rw [queue, gateway]
        exact reconciled.starter
      · rw [queue]
        exact UInt64.le_refl _
      · rw [queue]
        exact fun _ closed => closed

end Reconciled

theorem host_reconciled (moves : List HostMove) :
    ThreadsCoupled (finalState hostStep {} moves) ∧
      Reconciled (hostLedger (stages hostStep {} moves)) (finalState hostStep {} moves) := by
  have preserved (history : List HostStage) (host : BaresipNativeRegistrationHost) (move : HostMove)
      (known : ThreadsCoupled host ∧ Reconciled (hostLedger history) host) :
      ThreadsCoupled (hostStep host move).2 ∧
        Reconciled (hostLedger (history ++ [stageOf hostStep host move])) (hostStep host move).2 := by
    obtain ⟨coupled, reconciled⟩ := known
    rw [hostLedger_concat]
    exact ⟨coupled.step move, reconciled.step coupled (hostStep_stepped coupled move)⟩
  have everywhere : ∀ stage ∈ stages hostStep {} moves, True := fun _ _ => trivial
  exact history_invariant (fun history host =>
    ThreadsCoupled host ∧ Reconciled (hostLedger history) host) (fun _ => True)
    (fun history host move known _ => preserved history host move known) []
    ⟨threadsCoupled_initial, reconciled_initial⟩ everywhere

end AxeVoice.Native
