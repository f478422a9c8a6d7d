import AxeVoice.Native.NativeHost
import AxeVoice.Native.RegistrationRaces

/-!
# The threads of the host

The accepting flag, the published generation and the queue's own generation are
kept apart, and are written by different threads.  Where the owner's thread
stands bounds what each of them can be.
-/

namespace AxeVoice.Native

open AxeVoice.Foundation

namespace HostThread

/-- `start` has not been told the outcome. -/
def starting : HostThread → Bool
  | initializing | creating | publishing | admitting | announcing _ => true
  | _ => false

/-- The accepting flag may be up. -/
def admits : HostThread → Bool
  | announcing true | looping | entering | ticking | leaving | refusing => true
  | _ => false

/-- A generation may be published. -/
def names : HostThread → Bool
  | admitting | announcing true | looping | entering | ticking | leaving | refusing
  | invalidating | releasing | stopping | clearing => true
  | _ => false

/-- The queue may be open. -/
def serves : HostThread → Bool
  | publishing | admitting | announcing true | looping | entering | ticking | leaving | refusing
  | invalidating => true
  | _ => false

/-- There may be an owner state. -/
def owns : HostThread → Bool
  | publishing | admitting | announcing true | looping | entering | ticking | leaving | refusing
  | invalidating | releasing | stopping => true
  | _ => false

/-- The gateway may have an account submitted. -/
def holds : HostThread → Bool
  | looping | entering | ticking | leaving | refusing | invalidating | releasing | stopping => true
  | _ => false

/-- Behind the second point there may be all that there may be behind the first. -/
structure Onward (before after : HostThread) : Prop where
  admits : before.admits = true → after.admits = true
  names : before.names = true → after.names = true
  serves : before.serves = true → after.serves = true
  owns : before.owns = true → after.owns = true
  holds : before.holds = true → after.holds = true

end HostThread

/-- Where the dispatcher stands while the owner's thread is at a point. -/
def DispatcherAt : HostThread → TickPoint → Prop
  | .ticking, point => point.ticking = true
  | .stopping, point => point = .stopping none ∨ point = .unregistering none
  | _, point => point = .idle

/-- What holds between the steps of all threads. -/
structure ThreadsCoupled (host : BaresipNativeRegistrationHost) : Prop where
  starting : host.owner.starting = true →
    host.lifecycle = .startWaiting ∧ host.reactor.ready = false
  accepting : host.accepting = true → host.owner.admits = true
  active : host.activeGeneration ≠ 0 →
    host.owner.names = true ∧ host.activeGeneration = host.dispatch.queue.generation
  opened : host.dispatch.queue.opened = true → host.owner.serves = true
  owned : host.ownerGeneration ≠ 0 →
    host.owner.owns = true ∧ host.ownerGeneration = host.dispatch.queue.generation
  held : host.dispatch.gateway.owner ≠ 0 → host.owner.holds = true ∧ host.ownerGeneration ≠ 0
  ticking : host.owner = .ticking → host.ownerGeneration ≠ 0
  point : DispatcherAt host.owner host.dispatch.point
  last : host.dispatch.queue.generation ≤ host.dispatch.queue.lastGeneration

theorem threadsCoupled_initial : ThreadsCoupled {} where
  starting starting := by cases starting
  accepting accepting := by cases accepting
  active active := absurd rfl active
  opened opened := by cases opened
  owned owned := absurd rfl owned
  held held := absurd rfl held
  ticking ticking := by cases ticking
  point := rfl
  last := UInt64.le_refl _

/-! ## The steps of the dispatcher -/

theorem queueKeeps_refl (queue : RegistrationCommandQueue) : queue.QueueKeeps queue :=
  ⟨rfl, rfl, id⟩

theorem invalidate_keeps (queue : RegistrationCommandQueue) : queue.QueueKeeps queue.invalidate :=
  ⟨rfl, rfl, nofun⟩

theorem submit_keeps (queue : RegistrationCommandQueue) (generation : UInt64)
    (timeoutMs : UInt32) : queue.QueueKeeps (queue.submit generation timeoutMs).2 := by
  rw [RegistrationCommandQueue.submit]
  split
  · exact queueKeeps_refl queue
  · exact queue.enqueue_keeps _

/-- What the next step of a tick, or of a stop, leaves of the dispatcher. -/
structure DispatcherStepped (before after : RegistrationHost) : Prop where
  queue : before.queue.QueueKeeps after.queue
  ticking : before.point.ticking = true → after.point = .idle ∨ after.point.ticking = true
  stopping : before.point = .stopping none ∨ before.point = .unregistering none →
    after.point = .unregistering none ∧ after.gateway.owner = before.gateway.owner ∨
      after.point = .idle ∧ after.gateway.owner = 0

theorem dispatcher_stepped (before : RegistrationHost) (sdk : SdkAnswers) :
    DispatcherStepped before (registrationStep before (.owner sdk)).2 := by
  have stepped := ownerStep_stepped before sdk
  rw [registrationStep]
  generalize (before.ownerStep sdk).1 = observed at stepped
  generalize (before.ownerStep sdk).2 = after at stepped
  have same := queueKeeps_refl before.queue
  have framed {frame : TickFrame} (known : before.point.frame? = some frame) :
      ¬ (before.point = .stopping none ∨ before.point = .unregistering none) := by
    rintro (at_ | at_)
    · rw [at_] at known
      cases known
    · rw [at_] at known
      cases known
  cases stepped with
  | waits idle =>
      refine ⟨same, fun ticking => ?_, ?_⟩
      · exact .inl idle
      · rintro (at_ | at_)
        · cases idle.symm.trans at_
        · cases idle.symm.trans at_
  | checked next submission known follows =>
      refine ⟨same, fun _ => .inr ?_, fun at_ => absurd at_ (framed known)⟩
      dsimp only
      split
      · exact follows.ticking
      · rfl
  | settled deadline next known follows =>
      exact ⟨same, fun _ => .inr follows.ticking, fun at_ => absurd at_ (framed known)⟩
  | executed at_ registers =>
      refine ⟨same, fun _ => .inr ?_, fun other => ?_⟩
      · rcases registers with ⟨rfl, -⟩ | ⟨submission, rfl⟩
        · rfl
        · rfl
      · rw [at_] at other
        rcases other with other | other <;> cases other
  | registered at_ owner =>
      refine ⟨same, fun _ => .inr rfl, fun other => ?_⟩
      rw [at_] at other
      rcases other with other | other <;> cases other
  | @unregisters next at_ calls =>
      refine ⟨same, fun ticking => .inr ?_, fun other => .inl ?_⟩
      · rw [at_] at ticking
        cases next with
        | none => cases ticking
        | some outcome => rfl
      · rw [at_] at other
        rcases other with other | other
        · cases other
          exact ⟨rfl, rfl⟩
        · cases other
  | @stopped next at_ silent =>
      refine ⟨same, fun ticking => .inr ?_, fun other => .inr ⟨?_, rfl⟩⟩
      · rw [at_] at ticking
        cases next with
        | none => cases ticking
        | some outcome => rfl
      · rw [at_] at other
        rcases other with other | other
        · cases other
          rfl
        · cases other
  | @unregistered next at_ =>
      refine ⟨same, fun ticking => .inr ?_, fun other => .inr ⟨?_, rfl⟩⟩
      · rw [at_] at ticking
        cases next with
        | none => cases ticking
        | some outcome => rfl
      · rw [at_] at other
        rcases other with other | other
        · cases other
        · cases other
          rfl
  | invalidated at_ =>
      refine ⟨invalidate_keeps _, fun _ => .inr rfl, fun other => ?_⟩
      rw [at_] at other
      rcases other with other | other <;> cases other
  | returned at_ =>
      refine ⟨same, fun _ => .inl rfl, fun other => ?_⟩
      rw [at_] at other
      rcases other with other | other <;> cases other

/-- Native events touch neither the queue nor the account nor the tick. -/
structure Undisturbed (before after : RegistrationHost) : Prop where
  queue : after.queue = before.queue
  owner : after.gateway.owner = before.gateway.owner
  point : after.point = before.point

/-! ## One step -/

namespace ThreadsCoupled

variable {host : BaresipNativeRegistrationHost}

/-- A step that nothing of the coupling notices but the queue. -/
theorem requeued (coupled : ThreadsCoupled host) {queue : RegistrationCommandQueue}
    (keeps : host.dispatch.queue.QueueKeeps queue) : ThreadsCoupled (host.withQueue queue) where
  starting := coupled.starting
  accepting := coupled.accepting
  active active := ⟨(coupled.active active).1,
    (coupled.active active).2.trans keeps.generation.symm⟩
  opened opened := coupled.opened (keeps.opened opened)
  owned owned := ⟨(coupled.owned owned).1, (coupled.owned owned).2.trans keeps.generation.symm⟩
  held := coupled.held
  ticking := coupled.ticking
  point := coupled.point
  last := by
    have last := coupled.last
    rw [← keeps.generation, ← keeps.lastGeneration] at last
    exact last

theorem called (coupled : ThreadsCoupled host) (number : ℕ) (point : CallPoint) :
    ThreadsCoupled (host.withCall number point) :=
  { coupled with }

theorem beginCall (coupled : ThreadsCoupled host) (number : ℕ) (request : HostRequest) :
    ThreadsCoupled (host.beginCall number request) := by
  rw [BaresipNativeRegistrationHost.beginCall.eq_def]
  split
  · exact coupled
  · exact coupled.called number _

theorem advanceCall (coupled : ThreadsCoupled host) (number : ℕ) (pushed : Bool) :
    ThreadsCoupled (host.advanceCall number pushed).2 := by
  rw [BaresipNativeRegistrationHost.advanceCall]
  cases host.calls number with
  | unmade => exact coupled
  | returned => exact coupled
  | enqueueing id timeoutMs => exact (coupled.requeued (submit_keeps _ _ _)).called _ _
  | withdrawing id =>
      exact (coupled.requeued (RegistrationCommandQueue.enqueue_keeps _ _)).called _ _
  | cancelling id =>
      exact (coupled.requeued (RegistrationCommandQueue.enqueue_keeps _ _)).called _ _
  | naming | admitting | comparing | waking | cancelNaming | cancelAdmitting | cancelWaking
  | returning => exact coupled.called _ _

/-- The coupling reads off the lifecycle only that a start is waited for. -/
theorem lifecycled (coupled : ThreadsCoupled host) {point : LifecyclePoint}
    (settled : host.lifecycle ≠ .startWaiting ∨ host.reactor.ready = true) :
    ThreadsCoupled { host with lifecycle := point } :=
  { coupled with
    starting := fun starting => by
      have waiting := coupled.starting starting
      rcases settled with other | ready
      · exact absurd waiting.1 other
      · cases waiting.2.symm.trans ready }

theorem refusing (coupled : ThreadsCoupled host) :
    ThreadsCoupled { host with accepting := false } :=
  { coupled with accepting := fun accepting => by cases accepting }

/-- Flags of the reactor that a start does not wait for. -/
theorem ending (coupled : ThreadsCoupled host) :
    ThreadsCoupled { host with reactor := { host.reactor with ending := true } } :=
  { coupled with }

/-- Where there is no thread all is down. -/
theorem quiet (coupled : ThreadsCoupled host)
    (quiet : host.owner = .absent ∨ host.owner = .finished) :
    host.accepting = false ∧ host.activeGeneration = 0 ∧ host.ownerGeneration = 0 ∧
      host.dispatch.queue.opened = false ∧ host.dispatch.gateway.owner = 0 ∧
      host.dispatch.point = .idle := by
  obtain ⟨-, accepting, active, opened, owned, held, -, point, -⟩ := coupled
  rcases quiet with at_ | at_
  all_goals
    rw [at_] at accepting active opened owned held point
    refine ⟨?_, ?_, ?_, ?_, ?_, point⟩
    · exact Bool.eq_false_iff.mpr fun flag => by cases accepting flag
    · by_contra flag
      cases (active flag).1
    · by_contra flag
      cases (owned flag).1
    · exact Bool.eq_false_iff.mpr fun flag => by cases opened flag
    · by_contra flag
      cases (held flag).1

/-- All is down, whatever point the thread comes to. -/
theorem of_quiet {owner : HostThread} {lifecycle : LifecyclePoint} {reactor : LibreReactor}
    (coupled : ThreadsCoupled host) (quiet : host.owner = .absent ∨ host.owner = .finished)
    (starting : owner.starting = true → lifecycle = .startWaiting ∧ reactor.ready = false)
    (elsewhere : owner ≠ .ticking)
    (point : DispatcherAt owner .idle) :
    ThreadsCoupled { host with owner := owner, lifecycle := lifecycle, reactor := reactor } := by
  obtain ⟨accepting, active, owned, opened, held, at_⟩ := coupled.quiet quiet
  constructor
  · exact starting
  · intro flag
    cases accepting.symm.trans flag
  · exact fun flag => absurd active flag
  · intro flag
    cases opened.symm.trans flag
  · exact fun flag => absurd owned flag
  · exact fun flag => absurd held flag
  · exact fun flag => absurd flag elsewhere
  · dsimp only
    rw [at_]
    exact point
  · exact coupled.last

theorem advanceLifecycle (coupled : ThreadsCoupled host) (created : Bool) :
    ThreadsCoupled (host.advanceLifecycle created).2 := by
  rw [BaresipNativeRegistrationHost.advanceLifecycle]
  have awaited (point : LifecyclePoint) (other : host.lifecycle ≠ .startWaiting) :
      ThreadsCoupled { host with lifecycle := point } := coupled.lifecycled (.inl other)
  cases at_ : host.lifecycle with
  | idle => exact coupled
  | startProbing =>
      dsimp only
      split
      · exact awaited .idle (by simp [at_])
      · exact awaited .startRefusing (by simp [at_])
  | startRefusing => exact (awaited .startLaunching (by simp [at_])).refusing
  | startLaunching =>
      dsimp only
      split
      · exact awaited .startEnding (by simp [at_])
      · next absent =>
          have absent := not_not.mp absent
          split
          · refine coupled.of_quiet (.inl absent) ?_ (by simp [absent]) ?_
            · intro starting
              rw [absent] at starting
              cases starting
            · rw [absent]
              rfl
          · exact coupled.of_quiet (.inl absent) (fun _ => ⟨rfl, rfl⟩) (by simp) rfl
  | startWaiting =>
      dsimp only
      split
      · exact coupled
      · next ready =>
          have ready : host.reactor.ready = true := by simpa using ready
          split
          · exact coupled.lifecycled (.inr ready)
          · exact coupled.lifecycled (.inr ready)
  | startEnding =>
      dsimp only
      split
      · exact awaited .idle (by simp [at_])
      · exact (awaited .startJoining (by simp [at_])).ending
  | startJoining =>
      dsimp only
      split
      · next finished =>
          exact coupled.of_quiet (.inr finished) (fun starting => by cases starting) (by simp) rfl
      · exact coupled
  | startReading => exact awaited .idle (by simp [at_])
  | stopRefusing => exact (awaited .stopInvalidating (by simp [at_])).refusing
  | stopInvalidating => exact (awaited .stopEnding (by simp [at_])).requeued (invalidate_keeps _)
  | stopEnding =>
      dsimp only
      split
      · exact awaited .stopClearing (by simp [at_])
      · exact (awaited .stopJoining (by simp [at_])).ending
  | stopJoining =>
      dsimp only
      split
      · next finished =>
          exact coupled.of_quiet (.inr finished) (fun starting => by cases starting) (by simp) rfl
      · exact coupled
  | stopClearing =>
      have cleared := awaited .idle (by simp [at_])
      exact { cleared with active := fun flag => absurd rfl flag }

/-- The thread goes on, and nothing else changes but the reactor. -/
theorem moved (coupled : ThreadsCoupled host) {owner : HostThread} {reactor : LibreReactor}
    (onward : host.owner.Onward owner) (ready : owner.starting = true →
      host.owner.starting = true ∧ reactor.ready = host.reactor.ready)
    (elsewhere : owner ≠ .ticking) (point : DispatcherAt owner host.dispatch.point) :
    ThreadsCoupled { host with owner := owner, reactor := reactor } where
  starting starting := by
    obtain ⟨before, same⟩ := ready starting
    obtain ⟨waiting, unready⟩ := coupled.starting before
    exact ⟨waiting, same.trans unready⟩
  accepting flag := onward.admits (coupled.accepting flag)
  active flag := ⟨onward.names (coupled.active flag).1, (coupled.active flag).2⟩
  opened flag := onward.serves (coupled.opened flag)
  owned flag := ⟨onward.owns (coupled.owned flag).1, (coupled.owned flag).2⟩
  held flag := ⟨onward.holds (coupled.held flag).1, (coupled.held flag).2⟩
  ticking flag := absurd flag elsewhere
  point := point
  last := coupled.last

/-- A point that is no part of a generation goes on to any point outside of ticks. -/
theorem of_outside (coupled : ThreadsCoupled host) {owner : HostThread} {reactor : LibreReactor}
    (accepting : host.accepting = false) (active : host.activeGeneration = 0)
    (owned : host.ownerGeneration = 0) (opened : host.dispatch.queue.opened = false)
    (ready : owner.starting = true →
      host.owner.starting = true ∧ reactor.ready = host.reactor.ready)
    (elsewhere : owner ≠ .ticking) (point : DispatcherAt owner host.dispatch.point) :
    ThreadsCoupled { host with owner := owner, reactor := reactor } where
  starting starting := by
    obtain ⟨before, same⟩ := ready starting
    obtain ⟨waiting, unready⟩ := coupled.starting before
    exact ⟨waiting, same.trans unready⟩
  accepting flag := by cases accepting.symm.trans flag
  active flag := absurd active flag
  opened flag := by cases opened.symm.trans flag
  owned flag := absurd owned flag
  held flag := absurd owned (coupled.held flag).2
  ticking flag := absurd flag elsewhere
  point := point
  last := coupled.last

/-- Before the generation begins all is down. -/
theorem unbegun (coupled : ThreadsCoupled host)
    (early : host.owner = .initializing ∨ host.owner = .creating ∨ host.owner = .announcing false) :
    host.accepting = false ∧ host.activeGeneration = 0 ∧ host.ownerGeneration = 0 ∧
      host.dispatch.queue.opened = false ∧ host.dispatch.gateway.owner = 0 ∧
      host.dispatch.point = .idle := by
  obtain ⟨-, accepting, active, opened, owned, held, -, point, -⟩ := coupled
  rcases early with at_ | at_ | at_
  all_goals
    rw [at_] at accepting active opened owned held point
    refine ⟨?_, ?_, ?_, ?_, ?_, point⟩
    · exact Bool.eq_false_iff.mpr fun flag => by cases accepting flag
    · by_contra flag
      cases (active flag).1
    · by_contra flag
      cases (owned flag).1
    · exact Bool.eq_false_iff.mpr fun flag => by cases opened flag
    · by_contra flag
      cases (held flag).1

theorem create (coupled : ThreadsCoupled host) (at_ : host.owner = .creating) :
    ThreadsCoupled host.create.2 := by
  obtain ⟨accepting, active, owned, opened, held, point⟩ := coupled.unbegun (.inr (.inl at_))
  have starting : host.owner.starting = true := by
    rw [at_]
    rfl
  rw [BaresipNativeRegistrationHost.create]
  dsimp only
  split
  · exact coupled.of_outside accepting active owned opened (fun _ => ⟨starting, rfl⟩) (by simp)
      point
  · next begun =>
      refine ⟨fun _ => coupled.starting starting, ?_, ?_, fun _ => rfl, fun _ => ⟨rfl, ?_⟩, ?_, ?_,
        rfl, ?_⟩
      · intro flag
        cases accepting.symm.trans flag
      · exact fun flag => absurd active flag
      · exact (RegistrationCommandQueue.beginGeneration_begun begun).1.symm
      · exact fun flag => absurd rfl flag
      · intro flag
        cases flag
      · exact UInt64.le_of_eq (RegistrationCommandQueue.beginGeneration_begun begun).2.1

/-- The dispatcher takes a step, and the thread with it. -/
theorem dispatched (coupled : ThreadsCoupled host) {dispatch : RegistrationHost}
    {owner : HostThread} (keeps : host.dispatch.queue.QueueKeeps dispatch.queue)
    (onward : host.owner.Onward owner) (running : owner.starting = false)
    (held : dispatch.gateway.owner ≠ 0 → owner.holds = true ∧ host.ownerGeneration ≠ 0)
    (ticking : owner = .ticking → host.ownerGeneration ≠ 0)
    (point : DispatcherAt owner dispatch.point) :
    ThreadsCoupled { host with dispatch := dispatch, owner := owner } where
  starting starting := by cases running.symm.trans starting
  accepting flag := onward.admits (coupled.accepting flag)
  active flag := ⟨onward.names (coupled.active flag).1,
    (coupled.active flag).2.trans keeps.generation.symm⟩
  opened flag := onward.serves (coupled.opened (keeps.opened flag))
  owned flag := ⟨onward.owns (coupled.owned flag).1,
    (coupled.owned flag).2.trans keeps.generation.symm⟩
  held := held
  ticking := ticking
  point := point
  last := by
    have last := coupled.last
    rw [← keeps.generation, ← keeps.lastGeneration] at last
    exact last

theorem tick (coupled : ThreadsCoupled host) (at_ : host.owner = .entering)
    (owned : host.ownerGeneration ≠ 0) (monotonicMs : UInt64) (selected : Address) :
    ThreadsCoupled { host with
      dispatch := (host.dispatch.beginTick host.ownerGeneration monotonicMs selected).2
      owner := .ticking } := by
  refine coupled.dispatched (host.dispatch.queue.drain_keeps host.ownerGeneration) ?_ rfl
    (fun _ => ⟨rfl, owned⟩) (fun _ => owned) ?_
  · rw [at_]
    exact ⟨fun _ => rfl, fun _ => rfl, fun _ => rfl, fun _ => rfl, fun _ => rfl⟩
  · rw [RegistrationHost.beginTick]
    dsimp only
    split
    · rfl
    · split <;> rfl

/-- The dispatcher takes a step inside a tick. -/
theorem ticked (coupled : ThreadsCoupled host) (at_ : host.owner = .ticking)
    {dispatch : RegistrationHost} (stepped : DispatcherStepped host.dispatch dispatch) :
    ThreadsCoupled { host with
      dispatch := dispatch, owner := if dispatch.point = .idle then .looping else .ticking } := by
  have owned := coupled.ticking at_
  have ticking := coupled.point
  rw [at_] at ticking
  split
  · next idle =>
      refine coupled.dispatched stepped.queue ?_ rfl (fun _ => ⟨rfl, owned⟩) (fun _ => owned) idle
      rw [at_]
      exact ⟨fun _ => rfl, fun _ => rfl, fun _ => rfl, fun _ => rfl, fun _ => rfl⟩
  · next busy =>
      refine coupled.dispatched stepped.queue ?_ rfl (fun _ => ⟨rfl, owned⟩) (fun _ => owned)
        ((stepped.ticking ticking).resolve_left busy)
      rw [at_]
      exact ⟨fun _ => rfl, fun _ => rfl, fun _ => rfl, fun _ => rfl, fun _ => rfl⟩

/-- A tick that throws leaves the event loop. -/
theorem abandon (coupled : ThreadsCoupled host)
    (at_ : host.owner = .entering ∨ host.owner = .ticking) : ThreadsCoupled host.abandon := by
  have onward : host.owner.Onward .leaving := by
    rcases at_ with at_ | at_
    all_goals
      rw [at_]
      exact ⟨fun _ => rfl, fun _ => rfl, fun _ => rfl, fun _ => rfl, fun _ => rfl⟩
  have left : ThreadsCoupled { host with
      dispatch := { host.dispatch with point := .idle }, owner := .leaving } :=
    coupled.dispatched (queueKeeps_refl _) onward rfl
      (fun flag => ⟨rfl, (coupled.held flag).2⟩) (fun flag => by cases flag) rfl
  exact left.ending

/-- The queue is invalidated in `on_stop`. -/
theorem closed (coupled : ThreadsCoupled host) (at_ : host.owner = .invalidating) :
    ThreadsCoupled { host.withQueue host.dispatch.queue.invalidate with owner := .releasing } := by
  obtain ⟨-, accepting, active, -, owned, held, -, point, last⟩ := coupled
  rw [at_] at accepting active owned held point
  constructor
  · intro starting
    cases starting
  · intro flag
    cases accepting flag
  · exact fun flag => ⟨rfl, (active flag).2⟩
  · intro flag
    cases flag
  · exact fun flag => ⟨rfl, (owned flag).2⟩
  · exact fun flag => ⟨rfl, (held flag).2⟩
  · intro flag
    cases flag
  · exact point
  · exact last

/-- In `on_stop`, once the queue is closed. -/
structure Ending (host : BaresipNativeRegistrationHost) : Prop where
  accepting : host.accepting = false
  opened : host.dispatch.queue.opened = false

theorem ended (coupled : ThreadsCoupled host)
    (at_ : host.owner = .releasing ∨ host.owner = .stopping ∨ host.owner = .clearing ∨
      host.owner = .detaching) : Ending host := by
  have accepting := coupled.accepting
  have opened := coupled.opened
  rcases at_ with at_ | at_ | at_ | at_
  all_goals
    rw [at_] at accepting opened
    constructor
    · exact Bool.eq_false_iff.mpr fun flag => by cases accepting flag
    · exact Bool.eq_false_iff.mpr fun flag => by cases opened flag

/-- The gateway of the owner state is being stopped. -/
theorem stopping (coupled : ThreadsCoupled host) (ending : Ending host)
    (active : host.activeGeneration ≠ 0 →
      host.activeGeneration = host.dispatch.queue.generation)
    (owned : host.ownerGeneration ≠ 0 →
      host.ownerGeneration = host.dispatch.queue.generation)
    {dispatch : RegistrationHost} (keeps : host.dispatch.queue.QueueKeeps dispatch.queue)
    (held : dispatch.gateway.owner ≠ 0 → host.ownerGeneration ≠ 0)
    (point : dispatch.point = .stopping none ∨ dispatch.point = .unregistering none) :
    ThreadsCoupled { host with dispatch := dispatch, owner := .stopping } := by
  constructor
  · intro starting
    cases starting
  · intro flag
    cases ending.accepting.symm.trans flag
  · exact fun flag => ⟨rfl, (active flag).trans keeps.generation.symm⟩
  · intro flag
    cases ending.opened.symm.trans (keeps.opened flag)
  · exact fun flag => ⟨rfl, (owned flag).trans keeps.generation.symm⟩
  · exact fun flag => ⟨rfl, held flag⟩
  · intro flag
    cases flag
  · exact point
  · have last := coupled.last
    rw [← keeps.generation, ← keeps.lastGeneration] at last
    exact last

/-- The owner state is gone. -/
theorem cleared (coupled : ThreadsCoupled host) (ending : Ending host)
    {active : UInt64} (known : active ≠ 0 → active = host.dispatch.queue.generation)
    {owner : HostThread} (names : active ≠ 0 → owner.names = true)
    (running : owner.starting = false) (elsewhere : owner ≠ .ticking)
    {dispatch : RegistrationHost} (keeps : host.dispatch.queue.QueueKeeps dispatch.queue)
    (free : dispatch.gateway.owner = 0) (point : DispatcherAt owner dispatch.point) :
    ThreadsCoupled { host with
      dispatch := dispatch, ownerGeneration := 0, activeGeneration := active, owner := owner } := by
  constructor
  · intro starting
    cases running.symm.trans starting
  · intro flag
    cases ending.accepting.symm.trans flag
  · exact fun flag => ⟨names flag, (known flag).trans keeps.generation.symm⟩
  · intro flag
    cases ending.opened.symm.trans (keeps.opened flag)
  · exact fun flag => absurd rfl flag
  · exact fun flag => absurd free flag
  · exact fun flag => absurd flag elsewhere
  · exact point
  · have last := coupled.last
    rw [← keeps.generation, ← keeps.lastGeneration] at last
    exact last

theorem released (coupled : ThreadsCoupled host) (at_ : host.owner = .releasing) :
    ThreadsCoupled (if host.ownerGeneration = 0 then { host with owner := .clearing }
      else { host with
        dispatch := (registrationStep host.dispatch .stop).2, owner := .stopping }) := by
  have ending := coupled.ended (.inl at_)
  have point : host.dispatch.point = .idle := by
    have point := coupled.point
    rw [at_] at point
    exact point
  split
  · next none_ =>
      have free : host.dispatch.gateway.owner = 0 := by
        by_contra held
        exact (coupled.held held).2 none_
      have cleared : ThreadsCoupled { host with ownerGeneration := 0, owner := .clearing } :=
        coupled.cleared ending (fun flag => (coupled.active flag).2) (fun _ => rfl) rfl (by simp)
          (queueKeeps_refl _) free point
      rw [← none_] at cleared
      exact cleared
  · next owned =>
      refine coupled.stopping ending (fun flag => (coupled.active flag).2)
        (fun flag => (coupled.owned flag).2) ?_ (fun _ => owned) ?_
      · rw [registrationStep]
        split
        · exact queueKeeps_refl _
        · exact queueKeeps_refl _
      · rw [registrationStep, if_neg (not_not_intro point)]
        exact .inl rfl

theorem stopped (coupled : ThreadsCoupled host) (at_ : host.owner = .stopping)
    {dispatch : RegistrationHost} (stepped : DispatcherStepped host.dispatch dispatch) :
    ThreadsCoupled (if dispatch.point = .idle then
        { host with dispatch := dispatch, ownerGeneration := 0, owner := .clearing }
      else { host with dispatch := dispatch }) := by
  have ending := coupled.ended (.inr (.inl at_))
  have point := coupled.point
  rw [at_] at point
  have behind := stepped.stopping point
  split
  · next idle =>
      have free : dispatch.gateway.owner = 0 := by
        rcases behind with ⟨at_, -⟩ | ⟨-, free⟩
        · cases idle.symm.trans at_
        · exact free
      exact coupled.cleared ending (fun flag => (coupled.active flag).2) (fun _ => rfl) rfl
        (by simp) stepped.queue free idle
  · next busy =>
      obtain ⟨unregistering, same⟩ := behind.resolve_right fun free => busy free.1
      have held (flag : dispatch.gateway.owner ≠ 0) : host.ownerGeneration ≠ 0 := by
        rw [same] at flag
        exact (coupled.held flag).2
      have stopping := coupled.stopping ending (fun flag => (coupled.active flag).2)
        (fun flag => (coupled.owned flag).2) stepped.queue held (.inr unregistering)
      rw [← at_] at stopping
      exact stopping

/-- The published generation is withdrawn, at the end of `on_stop`. -/
theorem withdrawn (coupled : ThreadsCoupled host) (at_ : host.owner = .clearing) :
    ThreadsCoupled { host with activeGeneration := 0, owner := .detaching } := by
  obtain ⟨-, accepting, -, opened, owned, held, -, point, last⟩ := coupled
  rw [at_] at accepting opened owned held point
  constructor
  · intro starting
    cases starting
  · intro flag
    cases accepting flag
  · exact fun flag => absurd rfl flag
  · intro flag
    cases opened flag
  · intro flag
    cases (owned flag).1
  · intro flag
    cases (held flag).1
  · intro flag
    cases flag
  · exact point
  · exact last

/-- Behind `on_stop` the reactor is down. -/
theorem detached (coupled : ThreadsCoupled host) {reactor : LibreReactor}
    (at_ : host.owner = .detaching) :
    ThreadsCoupled { host with reactor := reactor, owner := .finished } := by
  obtain ⟨-, accepting, active, opened, owned, held, -, point, last⟩ := coupled
  rw [at_] at accepting active opened owned held point
  constructor
  · intro starting
    cases starting
  · intro flag
    cases accepting flag
  · intro flag
    cases (active flag).1
  · intro flag
    cases opened flag
  · intro flag
    cases (owned flag).1
  · intro flag
    cases (held flag).1
  · intro flag
    cases flag
  · exact point
  · exact last

/-- `on_start` publishes the generation that it has begun. -/
theorem published (coupled : ThreadsCoupled host) (at_ : host.owner = .publishing) :
    ThreadsCoupled { host with
      activeGeneration := host.ownerGeneration, owner := .admitting } := by
  obtain ⟨starting, accepting, -, -, owned, held, -, point, last⟩ := coupled
  rw [at_] at starting accepting held point
  constructor
  · exact fun _ => starting rfl
  · intro flag
    cases accepting flag
  · exact fun flag => ⟨rfl, (owned flag).2⟩
  · exact fun _ => rfl
  · exact fun flag => ⟨rfl, (owned flag).2⟩
  · intro flag
    cases (held flag).1
  · intro flag
    cases flag
  · exact point
  · exact last

theorem admitted (coupled : ThreadsCoupled host) (at_ : host.owner = .admitting) :
    ThreadsCoupled { host with accepting := true, owner := .announcing true } := by
  obtain ⟨starting, -, active, -, owned, held, -, point, last⟩ := coupled
  rw [at_] at starting held point
  constructor
  · exact fun _ => starting rfl
  · exact fun _ => rfl
  · exact fun flag => ⟨rfl, (active flag).2⟩
  · exact fun _ => rfl
  · exact fun flag => ⟨rfl, (owned flag).2⟩
  · intro flag
    cases (held flag).1
  · intro flag
    cases flag
  · exact point
  · exact last

/-- The start hook's outcome is published: the event loop follows, or nothing has begun. -/
theorem announced (coupled : ThreadsCoupled host) {began : Bool} {reactor : LibreReactor}
    (at_ : host.owner = .announcing began) :
    ThreadsCoupled { host with
      reactor := reactor, owner := if began then .looping else .leaving } := by
  have point := coupled.point
  rw [at_] at point
  cases began with
  | true =>
      refine coupled.moved ?_ (fun flag => by cases flag) (by simp) point
      rw [at_]
      exact ⟨fun _ => rfl, fun _ => rfl, fun _ => rfl, fun _ => rfl, fun _ => rfl⟩
  | false =>
      obtain ⟨accepting, active, owned, opened, -, idle⟩ := coupled.unbegun (.inr (.inr at_))
      exact coupled.of_outside accepting active owned opened (fun flag => by cases flag) (by simp)
        idle

/-- `on_stop` refuses further calls. -/
theorem shut (coupled : ThreadsCoupled host) (at_ : host.owner = .refusing) :
    ThreadsCoupled { host with accepting := false, owner := .invalidating } := by
  obtain ⟨-, -, active, -, owned, held, -, point, last⟩ := coupled
  rw [at_] at held point
  constructor
  · intro starting
    cases starting
  · intro flag
    cases flag
  · exact fun flag => ⟨rfl, (active flag).2⟩
  · exact fun _ => rfl
  · exact fun flag => ⟨rfl, (owned flag).2⟩
  · exact fun flag => ⟨rfl, (held flag).2⟩
  · intro flag
    cases flag
  · exact point
  · exact last

theorem advanceOwner (coupled : ThreadsCoupled host) (answers : OwnerAnswers) :
    ThreadsCoupled (host.advanceOwner answers).2 := by
  have point := coupled.point
  rw [BaresipNativeRegistrationHost.advanceOwner.eq_def]
  cases at_ : host.owner with
  | absent | looping | finished => exact coupled
  | initializing =>
      obtain ⟨accepting, active, owned, opened, -, idle⟩ := coupled.unbegun (.inl at_)
      dsimp only
      split
      · exact coupled.of_outside accepting active owned opened
          (fun _ => ⟨by rw [at_]; rfl, rfl⟩) (by simp) idle
      · exact coupled.of_outside accepting active owned opened (fun flag => by cases flag) (by simp)
          idle
  | creating => exact coupled.create at_
  | publishing => exact coupled.published at_
  | admitting => exact coupled.admitted at_
  | announcing began => exact coupled.announced at_
  | entering =>
      dsimp only
      split
      · exact coupled.abandon (.inl at_)
      · next owned => exact coupled.tick at_ owned answers.monotonicMs answers.selected
  | ticking => exact coupled.ticked at_ (dispatcher_stepped host.dispatch answers.sdk)
  | leaving =>
      rw [at_] at point
      refine coupled.moved ?_ (fun flag => by cases flag) (by simp) point
      rw [at_]
      exact ⟨fun _ => rfl, fun _ => rfl, fun _ => rfl, fun _ => rfl, fun _ => rfl⟩
  | refusing => exact coupled.shut at_
  | invalidating => exact coupled.closed at_
  | releasing =>
      have released := coupled.released at_
      dsimp only
      split
      · next none_ =>
          rw [if_pos none_] at released
          exact released
      · next owned =>
          rw [if_neg owned] at released
          exact released
  | stopping =>
      have stopped := coupled.stopped at_ (dispatcher_stepped host.dispatch answers.sdk)
      dsimp only
      split
      · next idle =>
          rw [if_pos idle] at stopped
          exact stopped
      · next busy =>
          rw [if_neg busy, at_] at stopped
          exact stopped
  | clearing => exact coupled.withdrawn at_
  | detaching => exact coupled.detached at_

/-- A handler of the event loop leaves it, or begins a tick. -/
theorem fire (coupled : ThreadsCoupled host) : ThreadsCoupled host.fire.2 := by
  rw [BaresipNativeRegistrationHost.fire]
  split
  · exact coupled
  · next looping =>
      have looping := not_not.mp looping
      have point := coupled.point
      rw [looping] at point
      split
      · refine coupled.moved ?_ (fun flag => by cases flag) (by simp) point
        rw [looping]
        exact ⟨fun _ => rfl, fun _ => rfl, fun _ => rfl, fun _ => rfl, fun _ => rfl⟩
      · refine coupled.moved ?_ (fun flag => by cases flag) (by simp) point
        rw [looping]
        exact ⟨fun _ => rfl, fun _ => rfl, fun _ => rfl, fun _ => rfl, fun _ => rfl⟩

/-- Native events touch neither the queue nor the account nor the tick. -/
theorem disturbed (coupled : ThreadsCoupled host) {dispatch : RegistrationHost}
    (undisturbed : Undisturbed host.dispatch dispatch) :
    ThreadsCoupled { host with dispatch := dispatch } := by
  obtain ⟨starting, accepting, active, opened, owned, held, ticking, point, last⟩ := coupled
  rw [← undisturbed.queue] at active opened owned last
  rw [← undisturbed.owner] at held
  rw [← undisturbed.point] at point
  exact ⟨starting, accepting, active, opened, owned, held, ticking, point, last⟩

end ThreadsCoupled

/-- What reaches the adapter of the owner state by itself. -/
def RegistrationMove.FromNative : RegistrationMove → Prop
  | .deliver _ _ | .otherAdapterClaims | .otherAdapterReleases => True
  | _ => False

theorem native_undisturbed (host : RegistrationHost) {move : RegistrationMove}
    (native : move.FromNative) : Undisturbed host (registrationStep host move).2 := by
  have same : Undisturbed host host := ⟨rfl, rfl, rfl⟩
  cases move with
  | deliver delivery context =>
      rw [registrationStep]
      split
      · exact ⟨rfl, rfl, rfl⟩
      · exact same
  | otherAdapterClaims | otherAdapterReleases =>
      rw [registrationStep]
      split
      · exact ⟨rfl, rfl, rfl⟩
      · exact same
  | submit | cancel | invalidate | begin | tick | strayTick | stop | owner | drainMailbox =>
      exact absurd native id

/-- Native events leave the host as it is but for the dispatcher, and that undisturbed. -/
theorem native_cases (host : BaresipNativeRegistrationHost) {move : RegistrationMove}
    (native : move.FromNative) :
    ∃ dispatch, host.native move = { host with dispatch := dispatch } ∧
      Undisturbed host.dispatch dispatch := by
  rw [BaresipNativeRegistrationHost.native]
  split
  · exact ⟨_, rfl, native_undisturbed host.dispatch native⟩
  · exact ⟨_, rfl, native_undisturbed host.dispatch native⟩
  · exact ⟨_, rfl, native_undisturbed host.dispatch native⟩
  · exact ⟨host.dispatch, rfl, rfl, rfl, rfl⟩

theorem ThreadsCoupled.step {host : BaresipNativeRegistrationHost} (coupled : ThreadsCoupled host)
    (move : HostMove) : ThreadsCoupled (hostStep host move).2 := by
  have delivered {move : RegistrationMove} (native : move.FromNative) :
      ThreadsCoupled (host.native move) := by
    obtain ⟨dispatch, same, undisturbed⟩ := native_cases host native
    rw [same]
    exact coupled.disturbed undisturbed
  cases move with
  | call number request => exact coupled.beginCall number request
  | advance number pushed => exact coupled.advanceCall number pushed
  | start | stop =>
      rw [hostStep]
      split
      · next idle => exact coupled.lifecycled (.inl (by simp [idle]))
      · exact coupled
  | lifecycle created => exact coupled.advanceLifecycle created
  | owner answers => exact coupled.advanceOwner answers
  | fires => exact coupled.fire
  | loopEnds =>
      rw [hostStep]
      split
      · next looping =>
          have point := coupled.point
          rw [looping] at point
          refine coupled.moved ?_ (fun flag => by cases flag) (by simp) point
          rw [looping]
          exact ⟨fun _ => rfl, fun _ => rfl, fun _ => rfl, fun _ => rfl, fun _ => rfl⟩
      · exact coupled
  | throws =>
      rw [hostStep]
      split
      · next ticking => exact coupled.abandon ticking
      · exact coupled
  | deliver delivery context => exact delivered trivial
  | otherAdapterClaims => exact delivered trivial
  | otherAdapterReleases => exact delivered trivial

theorem threads_coupled (moves : List HostMove) : ThreadsCoupled (finalState hostStep {} moves) := by
  have preserved (host : BaresipNativeRegistrationHost) (move : HostMove)
      (coupled : ThreadsCoupled host) : ThreadsCoupled (hostStep host move).2 := coupled.step move
  exact finalState_invariant preserved threadsCoupled_initial moves

end AxeVoice.Native
