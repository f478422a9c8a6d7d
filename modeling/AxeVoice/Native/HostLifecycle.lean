import AxeVoice.Native.HostThreads

/-!
# Start and stop of the host

Between a `stop` and the next `start` there is no owner's thread, and nothing that
another thread asks for is let through.  A `start` succeeds only where the owner's
thread has begun a generation of its own.
-/

namespace AxeVoice.Native

open AxeVoice.Foundation

/-- A `start` is under way. -/
def LifecyclePoint.starts : LifecyclePoint → Bool
  | startProbing | startRefusing | startLaunching | startWaiting | startEnding | startJoining
  | startReading => true
  | _ => false

/-- What another thread, or a native event, leaves as it is. -/
structure ControlKept (before after : BaresipNativeRegistrationHost) : Prop where
  owner : after.owner = before.owner
  lifecycle : after.lifecycle = before.lifecycle
  accepting : after.accepting = before.accepting
  active : after.activeGeneration = before.activeGeneration
  owned : after.ownerGeneration = before.ownerGeneration
  generation : after.dispatch.queue.generation = before.dispatch.queue.generation

/-- A step, by the thread that takes it. -/
inductive ControlStepped (host : BaresipNativeRegistrationHost) :
    HostMove → HostObserved → BaresipNativeRegistrationHost → Prop
  | elsewhere {move : HostMove} {observed : HostObserved} {after : BaresipNativeRegistrationHost}
      (unbegun : ∀ generation, observed ≠ .began generation)
      (unstarted : ∀ answer, observed ≠ .startReturned answer) (kept : ControlKept host after) :
      ControlStepped host move observed after
  | started (idle : host.lifecycle = .idle) :
      ControlStepped host .start .nothing { host with lifecycle := .startProbing }
  | stops (idle : host.lifecycle = .idle) :
      ControlStepped host .stop .nothing { host with lifecycle := .stopRefusing }
  | lifecycle (created : Bool) :
      ControlStepped host (.lifecycle created) (host.advanceLifecycle created).1
        (host.advanceLifecycle created).2
  | owner (answers : OwnerAnswers) :
      ControlStepped host (.owner answers) (host.advanceOwner answers).1
        (host.advanceOwner answers).2
  /-- A handler begins a tick, or leaves the event loop, or throws. -/
  | handled {move : HostMove} {observed : HostObserved} {after : BaresipNativeRegistrationHost}
      (observed_ : observed = .nothing ∨ observed = .tickBegins)
      (here : host.owner = .looping ∨ host.owner = .entering ∨ host.owner = .ticking)
      (there : after.owner = .entering ∨ after.owner = .leaving)
      (lifecycle : after.lifecycle = host.lifecycle) (accepting : after.accepting = host.accepting)
      (active : after.activeGeneration = host.activeGeneration)
      (generation : after.dispatch.queue.generation = host.dispatch.queue.generation) :
      ControlStepped host move observed after

theorem controlKept_refl (host : BaresipNativeRegistrationHost) : ControlKept host host :=
  ⟨rfl, rfl, rfl, rfl, rfl, rfl⟩

theorem advanceCall_kept (host : BaresipNativeRegistrationHost) (number : ℕ) (pushed : Bool) :
    (∀ generation, (host.advanceCall number pushed).1 ≠ .began generation) ∧
      (∀ answer, (host.advanceCall number pushed).1 ≠ .startReturned answer) ∧
      ControlKept host (host.advanceCall number pushed).2 := by
  have cancelled (id : UInt64) :
      (host.dispatch.queue.cancel id).2.generation = host.dispatch.queue.generation :=
    (RegistrationCommandQueue.enqueue_keeps _ _).generation
  rw [BaresipNativeRegistrationHost.advanceCall]
  cases host.calls number with
  | unmade | returned => exact ⟨by simp, by simp, controlKept_refl host⟩
  | enqueueing id timeoutMs =>
      exact ⟨by simp, by simp, rfl, rfl, rfl, rfl, rfl, (submit_keeps _ _ _).generation⟩
  | withdrawing id => exact ⟨by simp, by simp, rfl, rfl, rfl, rfl, rfl, cancelled id⟩
  | cancelling id => exact ⟨by simp, by simp, rfl, rfl, rfl, rfl, rfl, cancelled id⟩
  | naming | admitting | comparing | waking | cancelNaming | cancelAdmitting | cancelWaking
  | returning => exact ⟨by simp, by simp, rfl, rfl, rfl, rfl, rfl, rfl⟩

theorem native_kept (host : BaresipNativeRegistrationHost) {move : RegistrationMove}
    (native : move.FromNative) (input : HostMove) :
    ControlStepped host input .nothing (host.native move) := by
  obtain ⟨dispatch, same, undisturbed⟩ := native_cases host native
  rw [same]
  refine .elsewhere (by simp) (by simp) ⟨rfl, rfl, rfl, rfl, rfl, ?_⟩
  dsimp only
  rw [undisturbed.queue]

theorem hostStep_control (host : BaresipNativeRegistrationHost) (move : HostMove) :
    ControlStepped host move (hostStep host move).1 (hostStep host move).2 := by
  have same : ControlStepped host move .nothing host :=
    .elsewhere (by simp) (by simp) (controlKept_refl host)
  cases move with
  | call number request =>
      rw [hostStep, BaresipNativeRegistrationHost.beginCall.eq_def]
      split
      · exact same
      · exact .elsewhere (by simp) (by simp) ⟨rfl, rfl, rfl, rfl, rfl, rfl⟩
  | advance number pushed =>
      obtain ⟨unbegun, unstarted, kept⟩ := advanceCall_kept host number pushed
      exact .elsewhere unbegun unstarted kept
  | start =>
      rw [hostStep]
      split
      · next idle => exact .started idle
      · exact same
  | stop =>
      rw [hostStep]
      split
      · next idle => exact .stops idle
      · exact same
  | lifecycle created => exact .lifecycle created
  | owner answers => exact .owner answers
  | fires =>
      rw [hostStep, BaresipNativeRegistrationHost.fire]
      split
      · exact same
      · next looping =>
          have looping := not_not.mp looping
          split
          · exact .handled (.inl rfl) (.inl looping) (.inr rfl) rfl rfl rfl rfl
          · exact .handled (.inr rfl) (.inl looping) (.inl rfl) rfl rfl rfl rfl
  | loopEnds =>
      rw [hostStep]
      split
      · next looping => exact .handled (.inl rfl) (.inl looping) (.inr rfl) rfl rfl rfl rfl
      · exact same
  | throws =>
      rw [hostStep]
      split
      · next busy => exact .handled (.inl rfl) (.inr busy) (.inr rfl) rfl rfl rfl rfl
      · exact same
  | deliver delivery context => exact native_kept host (by exact trivial) _
  | otherAdapterClaims => exact native_kept host (by exact trivial) _
  | otherAdapterReleases => exact native_kept host (by exact trivial) _

/-- Neither the end of a call nor a boundary of a run of the host. -/
def HostObserved.Plain : HostObserved → Prop
  | .returned _ _ | .began _ | .stopped | .startReturned true | .stopReturned true => False
  | _ => True

/-- What is observed of a step, by where the threads stood. -/
inductive HostAnswered (host : BaresipNativeRegistrationHost) :
    HostObserved → BaresipNativeRegistrationHost → Prop
  | other {observed : HostObserved} {after : BaresipNativeRegistrationHost}
      (plain : observed.Plain) : HostAnswered host observed after
  | returned {number : ℕ} {answer : Bool} (at_ : host.calls number = .returning answer) :
      HostAnswered host (.returned number answer) (host.withCall number .returned)
  | began {after : BaresipNativeRegistrationHost} (at_ : host.owner = .creating)
      (begun : host.dispatch.queue.beginGeneration.1 ≠ 0)
      (queue : after.dispatch.queue = host.dispatch.queue.beginGeneration.2) :
      HostAnswered host (.began host.dispatch.queue.beginGeneration.1) after
  | stopped {after : BaresipNativeRegistrationHost} (at_ : host.owner = .clearing)
      (dispatch : after.dispatch = host.dispatch) : HostAnswered host .stopped after
  | startReturned {after : BaresipNativeRegistrationHost} (at_ : host.lifecycle = .startReading)
      (accepting : host.accepting = true) : HostAnswered host (.startReturned true) after
  | stopReturned (at_ : host.lifecycle = .stopClearing) :
      HostAnswered host (.stopReturned true)
        { host with activeGeneration := 0, lifecycle := .idle }

theorem hostStep_answered (host : BaresipNativeRegistrationHost) (move : HostMove) :
    HostAnswered host (hostStep host move).1 (hostStep host move).2 := by
  cases move with
  | call | start | stop | loopEnds | throws | deliver | otherAdapterClaims | otherAdapterReleases =>
      exact .other trivial
  | advance number pushed =>
      rw [hostStep, BaresipNativeRegistrationHost.advanceCall]
      cases at_ : host.calls number with
      | returning answer => exact .returned at_
      | enqueueing | withdrawing | cancelling =>
          exact .other trivial
      | unmade | naming | admitting | comparing | waking | cancelNaming | cancelAdmitting
      | cancelWaking | returned => exact .other trivial
  | lifecycle created =>
      rw [hostStep, BaresipNativeRegistrationHost.advanceLifecycle]
      cases at_ : host.lifecycle with
      | idle | startRefusing | startWaiting | stopRefusing | stopEnding | stopJoining =>
          exact .other trivial
      | startProbing | startEnding | startJoining =>
          dsimp only
          split
          · exact .other trivial
          · exact .other trivial
      | startLaunching =>
          dsimp only
          split
          · exact .other trivial
          · split
            · exact .other trivial
            · exact .other trivial
      | startReading =>
          dsimp only
          cases accepting : host.accepting with
          | true => exact .startReturned at_ accepting
          | false => exact .other trivial
      | stopInvalidating => exact .other trivial
      | stopClearing => exact .stopReturned at_
  | owner answers =>
      rw [hostStep, BaresipNativeRegistrationHost.advanceOwner.eq_def]
      cases at_ : host.owner with
      | absent | looping | finished | initializing | publishing | admitting | announcing | leaving
      | refusing | detaching => exact .other trivial
      | creating =>
          rw [BaresipNativeRegistrationHost.create]
          dsimp only
          split
          · exact .other trivial
          · next begun => exact .began at_ begun rfl
      | entering =>
          dsimp only
          split
          · exact .other trivial
          · exact .other trivial
      | releasing =>
          dsimp only
          split
          · exact .other trivial
          · exact .other trivial
      | clearing => exact .stopped at_ rfl
      | ticking | invalidating | stopping =>
          exact .other trivial
  | fires =>
      rw [hostStep, BaresipNativeRegistrationHost.fire]
      split
      · exact .other trivial
      · split
        · exact .other trivial
        · exact .other trivial

/-! ## Behind a stop -/

/-- A `stop` clears the generation once there is no thread. -/
def Joined (host : BaresipNativeRegistrationHost) : Prop :=
  host.lifecycle = .stopClearing → host.owner = .absent

theorem advanceOwner_absent {host : BaresipNativeRegistrationHost} (absent : host.owner = .absent)
    (answers : OwnerAnswers) : host.advanceOwner answers = (.nothing, host) := by
  rw [BaresipNativeRegistrationHost.advanceOwner.eq_def, absent]

theorem advanceOwner_lifecycle (host : BaresipNativeRegistrationHost) (answers : OwnerAnswers) :
    (host.advanceOwner answers).2.lifecycle = host.lifecycle := by
  rw [BaresipNativeRegistrationHost.advanceOwner.eq_def]
  cases host.owner with
  | initializing =>
      dsimp only
      split <;> rfl
  | creating =>
      rw [BaresipNativeRegistrationHost.create]
      dsimp only
      split <;> rfl
  | entering | releasing =>
      dsimp only
      split <;> rfl
  | stopping =>
      dsimp only
      split <;> rfl
  | absent | looping | finished | publishing | admitting | announcing | ticking | leaving | refusing
  | invalidating | clearing | detaching => rfl

theorem advanceLifecycle_joined {host : BaresipNativeRegistrationHost} (created : Bool) :
    Joined (host.advanceLifecycle created).2 ∨ host.lifecycle = .stopClearing := by
  have elsewhere {after : BaresipNativeRegistrationHost} (other : after.lifecycle ≠ .stopClearing) :
      Joined after := fun clearing => absurd clearing other
  rw [BaresipNativeRegistrationHost.advanceLifecycle]
  cases at_ : host.lifecycle with
  | idle => exact .inl (elsewhere (by simp [at_]))
  | startRefusing | startReading | stopRefusing | stopInvalidating => exact .inl (elsewhere (by simp))
  | stopClearing => exact .inr rfl
  | startProbing | startEnding =>
      dsimp only
      split
      · exact .inl (elsewhere (by simp))
      · exact .inl (elsewhere (by simp))
  | startLaunching =>
      dsimp only
      split
      · exact .inl (elsewhere (by simp))
      · split
        · exact .inl (elsewhere (by simp))
        · exact .inl (elsewhere (by simp))
  | startWaiting =>
      dsimp only
      split
      · exact .inl (elsewhere (by simp [at_]))
      · split
        · exact .inl (elsewhere (by simp))
        · exact .inl (elsewhere (by simp))
  | startJoining =>
      dsimp only
      split
      · exact .inl (elsewhere (by simp))
      · exact .inl (elsewhere (by simp [at_]))
  | stopEnding =>
      dsimp only
      split
      · next absent => exact .inl fun _ => absent
      · exact .inl (elsewhere (by simp))
  | stopJoining =>
      dsimp only
      split
      · exact .inl fun _ => rfl
      · exact .inl (elsewhere (by simp [at_]))

theorem Joined.step {host after : BaresipNativeRegistrationHost} {move : HostMove}
    {observed : HostObserved} (joined : Joined host)
    (stepped : ControlStepped host move observed after) : Joined after := by
  cases stepped with
  | elsewhere unbegun unstarted kept =>
      intro clearing
      rw [kept.owner]
      exact joined (kept.lifecycle.symm.trans clearing)
  | started idle => exact fun clearing => by cases clearing
  | stops idle => exact fun clearing => by cases clearing
  | lifecycle created =>
      rcases advanceLifecycle_joined created with after | clearing
      · exact after
      · intro _
        rw [BaresipNativeRegistrationHost.advanceLifecycle, clearing]
        exact joined clearing
  | owner answers =>
      intro clearing
      rw [advanceOwner_lifecycle] at clearing
      have absent := joined clearing
      rw [advanceOwner_absent absent]
      exact absent
  | handled observed_ here there lifecycle =>
      intro clearing
      have absent := joined (lifecycle.symm.trans clearing)
      rw [absent] at here
      rcases here with here | here | here <;> cases here

theorem host_joined (moves : List HostMove) : Joined (finalState hostStep {} moves) := by
  have preserved (host : BaresipNativeRegistrationHost) (move : HostMove) (joined : Joined host) :
      Joined (hostStep host move).2 := joined.step (hostStep_control host move)
  have initial : Joined {} := fun clearing => by cases clearing
  exact finalState_invariant preserved initial moves

/-- There is no owner's thread, and no `start` is under way. -/
structure Down (host : BaresipNativeRegistrationHost) : Prop where
  absent : host.owner = .absent
  settled : host.lifecycle.starts = false

theorem Down.step {host : BaresipNativeRegistrationHost} (down : Down host) {move : HostMove}
    (other : move ≠ .start) : Down (hostStep host move).2 := by
  obtain ⟨absent, settled⟩ := down
  cases move with
  | start => exact absurd rfl other
  | call number request =>
      rw [hostStep, BaresipNativeRegistrationHost.beginCall.eq_def]
      split
      · exact ⟨absent, settled⟩
      · exact ⟨absent, settled⟩
  | advance number pushed =>
      obtain ⟨-, -, kept⟩ := advanceCall_kept host number pushed
      refine ⟨kept.owner.trans absent, ?_⟩
      rw [hostStep, kept.lifecycle]
      exact settled
  | stop =>
      rw [hostStep]
      split
      · exact ⟨absent, rfl⟩
      · exact ⟨absent, settled⟩
  | lifecycle created =>
      rw [hostStep, BaresipNativeRegistrationHost.advanceLifecycle]
      cases at_ : host.lifecycle with
      | idle => exact ⟨absent, settled⟩
      | startProbing | startRefusing | startLaunching | startWaiting | startEnding | startJoining
      | startReading =>
          rw [at_] at settled
          cases settled
      | stopRefusing | stopInvalidating | stopClearing => exact ⟨absent, rfl⟩
      | stopEnding =>
          dsimp only
          rw [if_pos absent]
          exact ⟨absent, rfl⟩
      | stopJoining =>
          dsimp only
          rw [if_neg (by simp [absent])]
          exact ⟨absent, settled⟩
  | owner answers =>
      rw [hostStep, advanceOwner_absent absent]
      exact ⟨absent, settled⟩
  | fires =>
      rw [hostStep, BaresipNativeRegistrationHost.fire, if_pos (by simp [absent])]
      exact ⟨absent, settled⟩
  | loopEnds =>
      rw [hostStep, if_neg (by simp [absent])]
      exact ⟨absent, settled⟩
  | throws =>
      rw [hostStep, if_neg (by simp [absent])]
      exact ⟨absent, settled⟩
  | deliver | otherAdapterClaims | otherAdapterReleases =>
      rw [hostStep, BaresipNativeRegistrationHost.native, absent]
      exact ⟨absent, settled⟩

/-- Where a call may stand that has begun behind a `stop`. -/
def CallPoint.Denied : CallPoint → Prop
  | .unmade | .naming _ | .admitting _ _ | .cancelNaming | .cancelAdmitting _ | .returning false
  | .returned => True
  | _ => False

theorem advanceLifecycle_calls (host : BaresipNativeRegistrationHost) (created : Bool) :
    (host.advanceLifecycle created).2.calls = host.calls := by
  rw [BaresipNativeRegistrationHost.advanceLifecycle]
  cases host.lifecycle with
  | idle | startRefusing | startReading | stopRefusing | stopInvalidating | stopClearing => rfl
  | startProbing | startEnding | startJoining | stopEnding | stopJoining =>
      dsimp only
      split <;> rfl
  | startLaunching | startWaiting =>
      dsimp only
      split
      · rfl
      · split <;> rfl

theorem advanceOwner_calls (host : BaresipNativeRegistrationHost) (answers : OwnerAnswers) :
    (host.advanceOwner answers).2.calls = host.calls := by
  rw [BaresipNativeRegistrationHost.advanceOwner.eq_def]
  cases host.owner with
  | initializing | entering | releasing | stopping =>
      dsimp only
      split <;> rfl
  | creating =>
      rw [BaresipNativeRegistrationHost.create]
      dsimp only
      split <;> rfl
  | absent | looping | finished | publishing | admitting | announcing | ticking | leaving | refusing
  | invalidating | clearing | detaching => rfl

/-- A call that another thread makes leaves this one where it is. -/
theorem withCall_other (host : BaresipNativeRegistrationHost) {number other : ℕ}
    (different : number ≠ other) (point : CallPoint) :
    (host.withCall other point).calls number = host.calls number := by
  rw [BaresipNativeRegistrationHost.withCall]
  exact Function.update_of_ne different _ _

theorem withCall_same (host : BaresipNativeRegistrationHost) (number : ℕ) (point : CallPoint) :
    (host.withCall number point).calls number = point := by
  rw [BaresipNativeRegistrationHost.withCall]
  exact Function.update_self _ _ _

theorem advanceCall_other (host : BaresipNativeRegistrationHost) {number other : ℕ}
    (different : number ≠ other) (pushed : Bool) :
    (host.advanceCall other pushed).2.calls number = host.calls number := by
  rw [BaresipNativeRegistrationHost.advanceCall]
  cases host.calls other with
  | unmade | returned => rfl
  | enqueueing | withdrawing | cancelling => exact withCall_other (host.withQueue _) different _
  | naming | admitting | comparing | waking | cancelNaming | cancelAdmitting | cancelWaking
  | returning => exact withCall_other host different _

/-- Only its own steps move a call. -/
theorem hostStep_calls (host : BaresipNativeRegistrationHost) (move : HostMove) (number : ℕ) :
    (hostStep host move).2.calls number = host.calls number ∨
      (∃ pushed, move = .advance number pushed) ∨
      ∃ request, move = .call number request ∧ host.calls number = .unmade := by
  cases move with
  | call other request =>
      rw [hostStep, BaresipNativeRegistrationHost.beginCall.eq_def]
      split
      · exact .inl rfl
      · next unmade =>
          by_cases same : number = other
          · rw [← same] at unmade ⊢
            exact .inr (.inr ⟨request, rfl, not_not.mp unmade⟩)
          · exact .inl (withCall_other host same _)
  | advance other pushed =>
      by_cases same : number = other
      · exact .inr (.inl ⟨pushed, by rw [same]⟩)
      · exact .inl (advanceCall_other host same pushed)
  | lifecycle created => exact .inl (by rw [hostStep, advanceLifecycle_calls])
  | owner answers => exact .inl (by rw [hostStep, advanceOwner_calls])
  | start | stop | loopEnds | throws =>
      rw [hostStep]
      split <;> exact .inl rfl
  | fires =>
      rw [hostStep, BaresipNativeRegistrationHost.fire]
      split
      · exact .inl rfl
      · split <;> exact .inl rfl
  | deliver | otherAdapterClaims | otherAdapterReleases =>
      rw [hostStep, BaresipNativeRegistrationHost.native]
      split <;> exact .inl rfl

/-- Where a call begins. -/
def HostRequest.beginning : HostRequest → CallPoint
  | .submit timeoutMs => .naming timeoutMs
  | .submitForGeneration id timeoutMs => .admitting id timeoutMs
  | .cancel => .cancelNaming

theorem beginCall_calls {host : BaresipNativeRegistrationHost} {number : ℕ}
    (unmade : host.calls number = .unmade) (request : HostRequest) :
    (host.beginCall number request).calls number = request.beginning := by
  rw [BaresipNativeRegistrationHost.beginCall.eq_def, if_neg (not_not_intro unmade), withCall_same]
  cases request <;> rfl

/-- While no call is accepted, one that has not been let through is denied. -/
theorem denied_step {host : BaresipNativeRegistrationHost} (refuses : host.accepting = false)
    {number : ℕ} (denied : (host.calls number).Denied) (move : HostMove) :
    ((hostStep host move).2.calls number).Denied := by
  rcases hostStep_calls host move number with same | ⟨pushed, rfl⟩ | ⟨request, rfl, unmade⟩
  · rw [same]
    exact denied
  · rw [hostStep, BaresipNativeRegistrationHost.advanceCall]
    cases at_ : host.calls number with
    | unmade | returned =>
        rw [at_] at denied
        dsimp only
        rw [at_]
        exact denied
    | naming timeoutMs =>
        rw [withCall_same]
        trivial
    | cancelNaming =>
        rw [withCall_same]
        trivial
    | admitting id timeoutMs =>
        rw [withCall_same, refuses]
        trivial
    | cancelAdmitting id =>
        rw [withCall_same, refuses]
        trivial
    | returning answer =>
        rw [withCall_same]
        trivial
    | comparing | enqueueing | waking | withdrawing | cancelling | cancelWaking =>
        rw [at_] at denied
        exact absurd denied id
  · rw [hostStep, beginCall_calls unmade]
    cases request <;> trivial

theorem behind_stop {moves : List HostMove} {before behind : List HostStage} {stop : HostStage}
    (run : stages hostStep {} moves = before ++ stop :: behind)
    (stopped : stop.output = .stopReturned true) :
    ∃ rest, behind = stages hostStep stop.after rest ∧
      finalState hostStep {} moves = finalState hostStep stop.after rest ∧
      ThreadsCoupled stop.after ∧ Down stop.after ∧ stop.after.calls = stop.before.calls := by
  obtain ⟨first, move, rest, -, rfl, later, final⟩ := stages_split_final run
  have coupled := threads_coupled first
  have joined := host_joined first
  refine ⟨rest, later, final, coupled.step move, ?_⟩
  have answered := hostStep_answered (finalState hostStep {} first) move
  have observed : (hostStep (finalState hostStep {} first) move).1 = .stopReturned true := stopped
  dsimp only [stageOf]
  rw [observed] at answered
  generalize (hostStep (finalState hostStep {} first) move).2 = after at answered ⊢
  cases answered with
  | other plain => exact absurd plain id
  | stopReturned at_ => exact ⟨⟨joined at_, rfl⟩, rfl⟩

/-- Nothing is published, submitted or accepted. -/
structure AllDown (host : BaresipNativeRegistrationHost) : Prop where
  generation : host.activeGeneration = 0
  unowned : host.ownerGeneration = 0
  refuses : host.accepting = false
  free : host.dispatch.gateway.owner = 0
  unsubmitted : host.dispatch.gateway.submitted = false

theorem Down.allDown {host : BaresipNativeRegistrationHost} (down : Down host)
    (coupled : ThreadsCoupled host) : AllDown host := by
  obtain ⟨refuses, active, owned, -, free, -⟩ := coupled.quiet (.inl down.absent)
  refine ⟨active, owned, refuses, free, ?_⟩
  rw [BaresipSdkRegistrationGateway.submitted, free]
  rfl

/-- Behind a `stop`, up to the next `start`, nothing is submitted and every new call is refused. -/
theorem stopped_refuses {moves : List HostMove} {before behind : List HostStage} {stop : HostStage}
    (run : stages hostStep {} moves = before ++ stop :: behind)
    (stopped : stop.output = .stopReturned true)
    (unstarted : ∀ stage ∈ behind, stage.input ≠ .start) :
    AllDown (finalState hostStep {} moves) ∧
      ∀ number, stop.before.calls number = .unmade →
        ∀ stage ∈ behind, ∀ answer, stage.output = .returned number answer → answer = false := by
  obtain ⟨rest, rfl, final, coupled, down, calls⟩ := behind_stop run stopped
  have kept (host : BaresipNativeRegistrationHost) (move : HostMove)
      (known : ThreadsCoupled host ∧ Down host) (other : move ≠ .start) :
      ThreadsCoupled (hostStep host move).2 ∧ Down (hostStep host move).2 :=
    ⟨known.1.step move, known.2.step other⟩
  constructor
  · rw [final]
    obtain ⟨coupled, down⟩ := finalState_invariant_of_admitted
      (fun host => ThreadsCoupled host ∧ Down host) (fun stage : HostStage => stage.input ≠ .start)
      (fun host move known other => kept host move known other) ⟨coupled, down⟩ unstarted
    exact down.allDown coupled
  · intro number unmade
    have denied : (stop.after.calls number).Denied := by
      rw [calls, unmade]
      trivial
    refine stages_forall_of_admitted
      (fun host => (ThreadsCoupled host ∧ Down host) ∧ (host.calls number).Denied)
      (fun stage : HostStage => stage.input ≠ .start)
      (fun stage : HostStage => ∀ answer, stage.output = .returned number answer → answer = false)
      (fun host move known other => ⟨kept host move known.1 other,
        denied_step (known.1.2.allDown known.1.1).refuses known.2 move⟩) ?_ ⟨⟨coupled, down⟩, denied⟩
      unstarted
    rintro host move ⟨-, denied⟩ - answer returned
    have answered := hostStep_answered host move
    have output : (hostStep host move).1 = .returned number answer := returned
    rw [output] at answered
    generalize (hostStep host move).2 = after at answered
    cases answered with
    | other plain => exact absurd plain id
    | returned at_ =>
        rw [at_] at denied
        cases answer with
        | true => exact absurd denied id
        | false => rfl

/-! ## A start that succeeds -/

/-- The part of a run from the last `start` on. -/
structure SinceStart (history since : List HostStage) : Prop where
  split : ∃ earlier start, history = earlier ++ start :: since ∧ start.input = .start ∧
    start.before.lifecycle = .idle
  unanswered : ∀ stage ∈ since, ∀ answer, stage.output ≠ .startReturned answer

theorem SinceStart.concat {history since : List HostStage} (known : SinceStart history since)
    {stage : HostStage} (unanswered : ∀ answer, stage.output ≠ .startReturned answer) :
    SinceStart (history ++ [stage]) (since ++ [stage]) := by
  obtain ⟨⟨earlier, start, rfl, input, idle⟩, before⟩ := known
  refine ⟨⟨earlier, start, by simp, input, idle⟩, ?_⟩
  exact forall_mem_concat before unanswered

/-- A `start` waits for a thread that has begun a generation, and has not been told. -/
def BaresipNativeRegistrationHost.Awaits (host : BaresipNativeRegistrationHost) : Prop :=
  (host.lifecycle = .startWaiting ∨ host.lifecycle = .startReading) ∧
    (host.accepting = true ∨ host.owner = .publishing ∨ host.owner = .admitting)

/-- What is known of the `start` that is under way. -/
structure StartKnown (history : List HostStage) (host : BaresipNativeRegistrationHost) : Prop where
  started : host.lifecycle.starts = true → ∃ since, SinceStart history since ∧
    (host.Awaits → ∃ stage ∈ since, stage.output = .began host.dispatch.queue.generation)
  publishing : host.owner = .publishing → host.ownerGeneration ≠ 0
  published : host.owner = .admitting ∨ host.accepting = true → host.activeGeneration ≠ 0

namespace StartKnown

variable {history : List HostStage} {host after : BaresipNativeRegistrationHost}

theorem extend (known : StartKnown history host) {stage : HostStage}
    (starts : after.lifecycle.starts = true →
      host.lifecycle.starts = true ∧ ∀ answer, stage.output ≠ .startReturned answer)
    (awaits : after.Awaits →
      host.Awaits ∧ after.dispatch.queue.generation = host.dispatch.queue.generation ∨
        stage.output = .began after.dispatch.queue.generation)
    (publishing : after.owner = .publishing → after.ownerGeneration ≠ 0)
    (published : after.owner = .admitting ∨ after.accepting = true → after.activeGeneration ≠ 0) :
    StartKnown (history ++ [stage]) after := by
  refine ⟨fun starting => ?_, publishing, published⟩
  obtain ⟨before, unanswered⟩ := starts starting
  obtain ⟨since, parted, begun⟩ := known.started before
  refine ⟨since ++ [stage], parted.concat unanswered, fun awaiting => ?_⟩
  rcases awaits awaiting with ⟨awaited, same⟩ | began
  · obtain ⟨earlier, member, output⟩ := begun awaited
    rw [same]
    exact ⟨earlier, List.mem_append_left _ member, output⟩
  · exact ⟨stage, List.mem_append_right _ (List.mem_singleton_self _), began⟩

/-- A step of the owner's thread that neither begins nor publishes nor lets through. -/
theorem kept (known : StartKnown history host) {stage : HostStage}
    (unanswered : ∀ answer, stage.output ≠ .startReturned answer)
    (lifecycle : after.lifecycle = host.lifecycle)
    (accepting : after.accepting = true → host.accepting = true)
    (owner : after.owner ≠ .publishing ∧ after.owner ≠ .admitting)
    (active : after.accepting = true → after.activeGeneration = host.activeGeneration)
    (generation : after.dispatch.queue.generation = host.dispatch.queue.generation) :
    StartKnown (history ++ [stage]) after := by
  refine known.extend ?_ ?_ (fun at_ => absurd at_ owner.1) ?_
  · rw [lifecycle]
    exact fun starting => ⟨starting, unanswered⟩
  · rintro ⟨waiting, let_ | publishing | admitting⟩
    · rw [lifecycle] at waiting
      exact .inl ⟨⟨waiting, .inl (accepting let_)⟩, generation⟩
    · exact absurd publishing owner.1
    · exact absurd admitting owner.2
  · rintro (admitting | let_)
    · exact absurd admitting owner.2
    · rw [active let_]
      exact known.published (.inr (accepting let_))

/-- The owner begins a generation, or none is left. -/
theorem created (known : StartKnown history host) (coupled : ThreadsCoupled host)
    (at_ : host.owner = .creating) {stage : HostStage} (output : stage.output = host.create.1) :
    StartKnown (history ++ [stage]) host.create.2 := by
  have accepting := coupled.accepting
  rw [at_] at accepting
  rw [BaresipNativeRegistrationHost.create] at output ⊢
  dsimp only at output ⊢
  by_cases none_ : host.dispatch.queue.beginGeneration.1 = 0
  · rw [if_pos none_] at output ⊢
    exact known.kept (by simp [output]) rfl id (by simp) (fun _ => rfl) rfl
  · rw [if_neg none_] at output ⊢
    refine known.extend (fun starting => ⟨starting, by simp [output]⟩) (fun _ => .inr ?_)
      (fun _ => none_) ?_
    · rw [output]
      exact congrArg _ (RegistrationCommandQueue.beginGeneration_begun none_).1.symm
    · rintro (admitting | flag)
      · cases admitting
      · cases accepting flag

/-- The owner publishes its generation, and then admits calls for it. -/
theorem published_step (known : StartKnown history host) {stage : HostStage}
    {answers : OwnerAnswers} (at_ : host.owner = .publishing ∨ host.owner = .admitting)
    (output : stage.output = (host.advanceOwner answers).1) :
    StartKnown (history ++ [stage]) (host.advanceOwner answers).2 := by
  rw [BaresipNativeRegistrationHost.advanceOwner.eq_def] at output ⊢
  rcases at_ with at_ | at_
  · rw [at_] at output ⊢
    refine known.extend (fun starting => ⟨starting, by simp [output]⟩) ?_ (by simp)
      fun _ => known.publishing at_
    exact fun awaiting => .inl ⟨⟨awaiting.1, .inr (.inl at_)⟩, rfl⟩
  · rw [at_] at output ⊢
    refine known.extend (fun starting => ⟨starting, by simp [output]⟩) ?_ (by simp)
      fun _ => known.published (.inl at_)
    exact fun awaiting => .inl ⟨⟨awaiting.1, .inr (.inr at_)⟩, rfl⟩

/-- The owner enters its loop, and does the work of a tick in it. -/
theorem looped (known : StartKnown history host) {stage : HostStage} {answers : OwnerAnswers}
    (at_ : host.owner = .entering ∨ host.owner = .ticking)
    (output : stage.output = (host.advanceOwner answers).1) :
    StartKnown (history ++ [stage]) (host.advanceOwner answers).2 := by
  rw [BaresipNativeRegistrationHost.advanceOwner.eq_def] at output ⊢
  rcases at_ with at_ | at_
  · rw [at_] at output ⊢
    dsimp only at output ⊢
    by_cases none_ : host.ownerGeneration = 0
    · rw [if_pos none_] at output ⊢
      refine known.kept (by simp [output]) rfl id ?_ (fun _ => rfl) rfl
      rw [BaresipNativeRegistrationHost.abandon]
      simp
    · rw [if_neg none_] at output ⊢
      exact known.kept (by simp [output]) rfl id (by simp) (fun _ => rfl)
        (host.dispatch.queue.drain_keeps _).generation
  · rw [at_] at output ⊢
    refine known.kept (by simp [output]) rfl id ?_ (fun _ => rfl)
      (dispatcher_stepped host.dispatch answers.sdk).queue.generation
    dsimp only
    split <;> simp

/-- The owner releases the adapter, and stops the SDK. -/
theorem released (known : StartKnown history host) {stage : HostStage} {answers : OwnerAnswers}
    (at_ : host.owner = .releasing ∨ host.owner = .stopping)
    (output : stage.output = (host.advanceOwner answers).1) :
    StartKnown (history ++ [stage]) (host.advanceOwner answers).2 := by
  rw [BaresipNativeRegistrationHost.advanceOwner.eq_def] at output ⊢
  rcases at_ with at_ | at_
  · rw [at_] at output ⊢
    dsimp only at output ⊢
    split
    · next none_ =>
        rw [if_pos none_] at output
        exact known.kept (by simp [output]) rfl id (by simp) (fun _ => rfl) rfl
    · next owned =>
        rw [if_neg owned] at output
        refine known.kept (by simp [output]) rfl id (by simp) (fun _ => rfl) ?_
        rw [registrationStep]
        split <;> rfl
  · have keeps := (dispatcher_stepped host.dispatch answers.sdk).queue.generation
    rw [at_] at output ⊢
    dsimp only at output ⊢
    split
    · exact known.kept (by simp [output]) rfl id (by simp) (fun _ => rfl) keeps
    · exact known.kept (by simp [output]) rfl id (by simp) (fun _ => rfl) keeps

theorem advanceOwner (known : StartKnown history host) (coupled : ThreadsCoupled host)
    {answers : OwnerAnswers} {stage : HostStage}
    (output : stage.output = (host.advanceOwner answers).1) :
    StartKnown (history ++ [stage]) (host.advanceOwner answers).2 := by
  have accepting := coupled.accepting
  cases at_ : host.owner with
  | publishing => exact known.published_step (.inl at_) output
  | admitting => exact known.published_step (.inr at_) output
  | entering => exact known.looped (.inl at_) output
  | ticking => exact known.looped (.inr at_) output
  | releasing => exact known.released (.inl at_) output
  | stopping => exact known.released (.inr at_) output
  | creating =>
      rw [BaresipNativeRegistrationHost.advanceOwner.eq_def, at_] at output ⊢
      exact known.created coupled at_ output
  | absent | looping | finished =>
      rw [BaresipNativeRegistrationHost.advanceOwner.eq_def, at_] at output ⊢
      exact known.kept (by simp [output]) rfl id (by simp [at_]) (fun _ => rfl) rfl
  | initializing =>
      rw [BaresipNativeRegistrationHost.advanceOwner.eq_def, at_] at output ⊢
      dsimp only
      split
      · exact known.kept (by simp [output]) rfl id (by simp) (fun _ => rfl) rfl
      · exact known.kept (by simp [output]) rfl id (by simp) (fun _ => rfl) rfl
  | announcing began =>
      rw [BaresipNativeRegistrationHost.advanceOwner.eq_def, at_] at output ⊢
      refine known.kept (by simp [output]) rfl id ?_ (fun _ => rfl) rfl
      dsimp only
      cases began <;> simp
  | leaving | invalidating | detaching =>
      rw [BaresipNativeRegistrationHost.advanceOwner.eq_def, at_] at output ⊢
      exact known.kept (by simp [output]) rfl id (by simp) (fun _ => rfl) rfl
  | refusing =>
      rw [BaresipNativeRegistrationHost.advanceOwner.eq_def, at_] at output ⊢
      exact known.kept (by simp [output]) rfl (by simp) (by simp) (fun _ => rfl) rfl
  | clearing =>
      rw [BaresipNativeRegistrationHost.advanceOwner.eq_def, at_] at output ⊢
      rw [at_] at accepting
      refine known.kept (by simp [output]) rfl id (by simp) (fun flag => ?_) rfl
      cases accepting flag

/-- A step of `start` or `stop` that does not come to wait for the owner's thread. -/
theorem rested (known : StartKnown history host) {stage : HostStage}
    (starts : after.lifecycle.starts = true →
      host.lifecycle.starts = true ∧ ∀ answer, stage.output ≠ .startReturned answer)
    (elsewhere : after.lifecycle ≠ .startWaiting ∧ after.lifecycle ≠ .startReading)
    (owner : after.owner = host.owner ∨ after.owner = .absent)
    (owned : after.ownerGeneration = host.ownerGeneration)
    (accepting : after.accepting = true → host.accepting = true)
    (active : after.activeGeneration = host.activeGeneration) :
    StartKnown (history ++ [stage]) after := by
  refine known.extend starts ?_ ?_ ?_
  · rintro ⟨waiting | reading, -⟩
    · exact absurd waiting elsewhere.1
    · exact absurd reading elsewhere.2
  · rw [owned]
    intro publishing
    rcases owner with same | absent
    · exact known.publishing (same.symm.trans publishing)
    · cases absent.symm.trans publishing
  · rw [active]
    rintro (admitting | flag)
    · rcases owner with same | absent
      · exact known.published (.inl (same.symm.trans admitting))
      · cases absent.symm.trans admitting
    · exact known.published (.inr (accepting flag))

/-- `start` makes the thread of the owner, or the system refuses it. -/
theorem launches (known : StartKnown history host) (coupled : ThreadsCoupled host)
    (at_ : host.lifecycle = .startLaunching) {created : Bool} {stage : HostStage}
    (output : stage.output = (host.advanceLifecycle created).1) :
    StartKnown (history ++ [stage]) (host.advanceLifecycle created).2 := by
  rw [BaresipNativeRegistrationHost.advanceLifecycle, at_] at output ⊢
  dsimp only at output ⊢
  by_cases absent : host.owner = .absent
  · have refuses := (coupled.quiet (.inl absent)).1
    rw [if_neg (not_not_intro absent)] at output ⊢
    split
    · exact known.rested (fun starting => by cases starting) (by simp) (.inl rfl) rfl id rfl
    · next launched =>
        rw [if_neg launched] at output
        refine known.extend (fun _ => ⟨by rw [at_]; rfl, by simp [output]⟩) ?_ (by simp) ?_
        · rintro ⟨-, flag | publishing | admitting⟩
          · cases refuses.symm.trans flag
          · cases publishing
          · cases admitting
        · rintro (admitting | flag)
          · cases admitting
          · cases refuses.symm.trans flag
  · rw [if_pos absent] at output ⊢
    exact known.rested (fun _ => ⟨by rw [at_]; rfl, by simp [output]⟩) (by simp) (.inl rfl) rfl
      id rfl

/-- `start` waits until the owner is ready. -/
theorem waits (known : StartKnown history host) (at_ : host.lifecycle = .startWaiting)
    {created : Bool} {stage : HostStage}
    (output : stage.output = (host.advanceLifecycle created).1) :
    StartKnown (history ++ [stage]) (host.advanceLifecycle created).2 := by
  rw [BaresipNativeRegistrationHost.advanceLifecycle, at_] at output ⊢
  dsimp only at output ⊢
  split
  · exact known.extend (fun starting => ⟨starting, by simp [output]⟩)
      (fun awaiting => .inl ⟨awaiting, rfl⟩) known.publishing known.published
  · split
    · exact known.extend (fun _ => ⟨by rw [at_]; rfl, by simp [output]⟩)
        (fun awaiting => .inl ⟨⟨.inl at_, awaiting.2⟩, rfl⟩) known.publishing known.published
    · exact known.rested (fun _ => ⟨by rw [at_]; rfl, by simp [output]⟩) (by simp) (.inl rfl)
        rfl id rfl

theorem advanceLifecycle (known : StartKnown history host) (coupled : ThreadsCoupled host)
    (joined : Joined host) {created : Bool} {stage : HostStage}
    (output : stage.output = (host.advanceLifecycle created).1) :
    StartKnown (history ++ [stage]) (host.advanceLifecycle created).2 := by
  cases at_ : host.lifecycle with
  | idle =>
      rw [BaresipNativeRegistrationHost.advanceLifecycle, at_] at output ⊢
      exact known.rested (fun starting => ⟨starting, by simp [output]⟩) (by simp [at_]) (.inl rfl)
        rfl id rfl
  | startProbing | startEnding | startJoining =>
      rw [BaresipNativeRegistrationHost.advanceLifecycle, at_] at output ⊢
      dsimp only at output ⊢
      split
      · exact known.rested (fun starting => by cases starting) (by simp) (by simp) rfl id rfl
      · next other =>
          rw [if_neg other] at output
          exact known.rested (fun _ => ⟨by rw [at_]; rfl, by simp [output]⟩) (by simp [at_])
            (.inl rfl) rfl id rfl
  | startRefusing =>
      rw [BaresipNativeRegistrationHost.advanceLifecycle, at_] at output ⊢
      exact known.rested (fun _ => ⟨by rw [at_]; rfl, by simp [output]⟩) (by simp) (.inl rfl) rfl
        (by simp) rfl
  | startLaunching => exact known.launches coupled at_ output
  | startWaiting => exact known.waits at_ output
  | startReading =>
      rw [BaresipNativeRegistrationHost.advanceLifecycle, at_]
      exact known.rested (fun starting => by cases starting) (by simp) (.inl rfl) rfl id rfl
  | stopRefusing =>
      rw [BaresipNativeRegistrationHost.advanceLifecycle, at_]
      exact known.rested (fun starting => by cases starting) (by simp) (.inl rfl) rfl (by simp) rfl
  | stopInvalidating =>
      rw [BaresipNativeRegistrationHost.advanceLifecycle, at_]
      exact known.rested (fun starting => by cases starting) (by simp) (.inl rfl) rfl id rfl
  | stopEnding =>
      rw [BaresipNativeRegistrationHost.advanceLifecycle, at_]
      dsimp only
      split
      · exact known.rested (fun starting => by cases starting) (by simp) (.inl rfl) rfl id rfl
      · exact known.rested (fun starting => by cases starting) (by simp) (.inl rfl) rfl id rfl
  | stopJoining =>
      rw [BaresipNativeRegistrationHost.advanceLifecycle, at_]
      dsimp only
      split
      · exact known.rested (fun starting => by cases starting) (by simp) (.inr rfl) rfl id rfl
      · refine known.rested (fun starting => ?_) (by simp [at_]) (.inl rfl) rfl id rfl
        rw [at_] at starting
        cases starting
  | stopClearing =>
      rw [BaresipNativeRegistrationHost.advanceLifecycle, at_]
      have absent := joined at_
      have refuses := (coupled.quiet (.inl absent)).1
      refine known.extend (fun starting => by cases starting) ?_ ?_ ?_
      · rintro ⟨waiting | reading, -⟩
        · cases waiting
        · cases reading
      · exact fun publishing => by cases absent.symm.trans publishing
      · rintro (admitting | flag)
        · cases absent.symm.trans admitting
        · cases refuses.symm.trans flag

theorem step (known : StartKnown history host) (coupled : ThreadsCoupled host)
    (joined : Joined host) (move : HostMove) :
    StartKnown (history ++ [stageOf hostStep host move]) (hostStep host move).2 := by
  have stepped := hostStep_control host move
  have input : (stageOf hostStep host move).input = move := rfl
  have before : (stageOf hostStep host move).before = host := rfl
  have output : (stageOf hostStep host move).output = (hostStep host move).1 := rfl
  generalize stageOf hostStep host move = stage at input before output ⊢
  generalize (hostStep host move).1 = observed at stepped output
  generalize (hostStep host move).2 = after at stepped ⊢
  cases stepped with
  | elsewhere unbegun unstarted kept =>
      refine known.extend ?_ ?_ ?_ ?_
      · rw [kept.lifecycle, output]
        exact fun starting => ⟨starting, unstarted⟩
      · rw [BaresipNativeRegistrationHost.Awaits, kept.lifecycle, kept.accepting, kept.owner]
        exact fun awaiting => .inl ⟨awaiting, kept.generation⟩
      · rw [kept.owner, kept.owned]
        exact known.publishing
      · rw [kept.owner, kept.accepting, kept.active]
        exact known.published
  | started idle =>
      refine ⟨fun _ => ⟨[], ⟨⟨history, stage, rfl, input, ?_⟩, ?_⟩, ?_⟩, known.publishing,
        known.published⟩
      · rw [before]
        exact idle
      · exact fun other member => absurd member List.not_mem_nil
      · rintro ⟨waiting | reading, -⟩
        · cases waiting
        · cases reading
  | stops idle =>
      exact known.rested (fun starting => by cases starting) (by simp) (.inl rfl) rfl id rfl
  | lifecycle created => exact known.advanceLifecycle coupled joined output
  | owner answers => exact known.advanceOwner coupled output
  | handled observed_ here there lifecycle accepting active generation =>
      refine known.kept ?_ lifecycle ?_ ?_ (fun _ => active) generation
      · rw [output]
        rcases observed_ with rfl | rfl <;> simp
      · rw [accepting]
        exact id
      · rcases there with at_ | at_ <;> simp [at_]

end StartKnown

theorem start_known (moves : List HostMove) :
    StartKnown (stages hostStep {} moves) (finalState hostStep {} moves) := by
  have kept (history : List HostStage) (host : BaresipNativeRegistrationHost) (move : HostMove)
      (before : ThreadsCoupled host ∧ Joined host ∧ StartKnown history host) :
      ThreadsCoupled (hostStep host move).2 ∧ Joined (hostStep host move).2 ∧
        StartKnown (history ++ [stageOf hostStep host move]) (hostStep host move).2 :=
    ⟨before.1.step move, before.2.1.step (hostStep_control host move),
      before.2.2.step before.1 before.2.1 move⟩
  have initial : ThreadsCoupled {} ∧ Joined {} ∧ StartKnown [] {} := by
    refine ⟨threadsCoupled_initial, ?_, ?_, ?_, ?_⟩
    · exact fun clearing => by cases clearing
    · exact fun starting => by cases starting
    · exact fun publishing => by cases publishing
    · rintro (admitting | flag)
      · cases admitting
      · cases flag
  have everywhere : ∀ stage ∈ stages hostStep {} moves, True := fun _ _ => trivial
  have carried := history_invariant (fun history host =>
    ThreadsCoupled host ∧ Joined host ∧ StartKnown history host) (fun _ => True)
    (fun history host move before _ => kept history host move before) [] initial everywhere
  exact carried.2.2

end AxeVoice.Native
