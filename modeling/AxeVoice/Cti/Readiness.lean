import AxeVoice.Cti.Server

/-!
# Readiness loss

A request is safe from a loss of readiness once the interface will reject it
before it takes anything, or can no longer hand it out.  That is so after every
loss that follows the submission; a loss between the worker's reading of the
flag and its submission rejects the slot too early, unless the interface is at a
rejection at the moment of the submission.
-/

namespace AxeVoice.Cti

open Foundation CtiRequestQueue LocalCtiServer

variable {width : WCharWidth}

abbrev ServerStage (width : WCharWidth) :=
  Stage (LocalCtiServer width) (Move width) (Observed width)

/-- The interface rejects the pending request before it does anything else. -/
def GuiPoint.Rejecting : GuiPoint width → Prop
  | .readinessStored | .takeRefused => True
  | _ => False

/-- The interface holds the request in a call that has taken it out of the queue. -/
def GuiPoint.Holds (id : UInt64) : GuiPoint width → Prop
  | .takeHolding request | .takeLost request => request.id = id
  | _ => False

/-- Only the interface writes the flag and takes, so what it has seen and taken still stands. -/
structure ServerSound (server : LocalCtiServer width) : Prop where
  requests : Sound server.requests
  admitted : server.gui = .takeAdmitted → server.ready = true
  holding : ∀ request, server.gui = .takeHolding request →
    server.ready = true ∧ server.requests.active = some request
  lost : ∀ request, server.gui ≠ .takeLost request

theorem serverSound_initial : ServerSound ({} : LocalCtiServer width) :=
  ⟨sound_initial, nofun, nofun, nofun⟩

/-- An operation of the queue that only the worker performs keeps the active request. -/
theorem active_of_workerOperated {queue after : CtiRequestQueue width}
    {operation : CtiOperation width} {answer : CtiAnswer width}
    (operated : Operated queue operation answer after)
    (worker : (∃ destination key ready, operation = .submitIdempotent destination key ready) ∨
      ∃ id, operation = .cancel id) {request : CtiPendingRequest width}
    (active : queue.active = some request) : after.active = some request := by
  cases operated with
  | refused operation answer failed => exact active
  | submitted | taken | completed | rejected | cleared =>
      rcases worker with ⟨_, _, _, other⟩ | ⟨_, other⟩ <;> cases other
  | created destination key free unknown =>
      have none_ := (occupied_eq_false free).2.1
      cases none_.symm.trans active
  | cancelled pending none_ records same state => cases none_.symm.trans active

/-- What an operation of the queue does for the server's invariants. -/
structure Advanced (queue after : CtiRequestQueue width) : Prop where
  sound : Sound after
  issued : queue.lastIssued ≤ after.lastIssued
  passed : queue.lastPassed ≤ after.lastPassed

theorem advanced_refl {queue : CtiRequestQueue width} (sound : Sound queue) :
    Advanced queue queue :=
  ⟨sound, Nat.le_refl _, Nat.le_refl _⟩

theorem advanced_operated {queue after : CtiRequestQueue width} {operation : CtiOperation width}
    {answer : CtiAnswer width} (sound : Sound queue)
    (operated : Operated queue operation answer after) : Advanced queue after :=
  ⟨sound_operated sound operated, lastIssued_le (operated_recorded sound operated),
    lastPassed_le sound operated⟩

/-- A worker step operates on the queue and leaves the flag, the interface and the active slot. -/
structure WorkerStepped (server after : LocalCtiServer width) : Prop where
  advanced : Advanced server.requests after.requests
  ready : after.ready = server.ready
  gui : after.gui = server.gui
  active : ∀ request, server.requests.active = some request → after.requests.active = some request

theorem workerStep_stepped {server : LocalCtiServer width} (sound : Sound server.requests)
    (request : WorkerRequest width) : WorkerStepped server (server.workerStep request).2 := by
  unfold workerStep
  cases server.worker with
  | idle =>
      cases request with
      | post destination key => exact ⟨advanced_refl sound, rfl, rfl, fun _ => id⟩
      | cancel id =>
          have operated := cancel_operated sound id
          exact ⟨advanced_operated sound operated, rfl, rfl, fun _ =>
            active_of_workerOperated operated (.inr ⟨id, rfl⟩)⟩
  | sampled ready destination key =>
      have operated := submitIdempotent_operated server.requests destination key ready
      exact ⟨advanced_operated sound operated, rfl, rfl, fun _ =>
        active_of_workerOperated operated (.inl ⟨destination, key, ready, rfl⟩)⟩

theorem workerStep_untaken (server : LocalCtiServer width) (request : WorkerRequest width)
    (taken : Option (CtiPendingRequest width)) : (server.workerStep request).1 ≠ .taken taken := by
  unfold workerStep
  cases server.worker with
  | idle => cases request <;> exact nofun
  | sampled ready destination key => exact nofun

/-- A step of the interface, by where it stands. -/
inductive GuiStepped (server : LocalCtiServer width) :
    Observed width → LocalCtiServer width → Prop
  | stored (idle : server.gui = .idle) (ready : Bool) :
      GuiStepped server (.stored ready)
        { server with ready := ready, gui := if ready then .idle else .readinessStored }
  | looked (idle : server.gui = .idle) :
      GuiStepped server .taking
        { server with gui := if server.ready then .takeAdmitted else .takeRefused }
  | completed (idle : server.gui = .idle) {requests : CtiRequestQueue width}
      (advanced : Advanced server.requests requests) (done : Bool) :
      GuiStepped server (.completed done) { server with requests := requests }
  | rejected (rejecting : server.gui.Rejecting) {requests : CtiRequestQueue width}
      (advanced : Advanced server.requests requests) (emptied : requests.pending = none)
      (observed : Observed width)
      (kind : observed = .readinessSet ∨ observed = .taken none) :
      GuiStepped server observed { server with requests := requests, gui := .idle }
  | nothing (admitted : server.gui = .takeAdmitted) :
      GuiStepped server (.taken none) { server with gui := .idle }
  | took (admitted : server.gui = .takeAdmitted) {requests : CtiRequestQueue width}
      (advanced : Advanced server.requests requests) {request : CtiPendingRequest width}
      (pending : server.requests.pending = some request)
      (active : requests.active = some request) :
      GuiStepped server .taking
        { server with requests := requests, gui := .takeHolding request }
  | returned {request : CtiPendingRequest width} (holding : server.gui = .takeHolding request) :
      GuiStepped server (.taken (some request)) { server with gui := .idle }

theorem rejectPending_pending (queue : CtiRequestQueue width) :
    queue.rejectPending.2.pending = none := by
  unfold rejectPending
  cases pending : queue.pending with
  | none => exact pending
  | some request =>
      dsimp only
      split
      · rw [appendEvent_pending]
      · rfl

/-- A request taken out of the queue was pending and is active. -/
theorem take_slots {queue : CtiRequestQueue width} (sound : Sound queue)
    {request : CtiPendingRequest width} (taken : queue.take.1 = some request) :
    queue.pending = some request ∧ queue.take.2.active = some request := by
  have operated := take_operated sound
  generalize queue.take.2 = after at operated ⊢
  rw [taken] at operated
  cases operated with
  | refused operation answer failed => cases failed
  | taken pending active records same state => exact ⟨pending, by simp [move]⟩

/-- A request not taken leaves the queue as it is. -/
theorem take_none {queue : CtiRequestQueue width} (sound : Sound queue)
    (nothing : queue.take.1 = none) : queue.take.2 = queue := by
  have operated := take_operated sound
  generalize queue.take.2 = after at operated ⊢
  rw [nothing] at operated
  cases operated with
  | refused operation answer failed => rfl

theorem guiStep_stepped {server : LocalCtiServer width} (sound : ServerSound server)
    (call : GuiCall) : GuiStepped server (server.guiStep call).1 (server.guiStep call).2 := by
  have rejected := advanced_operated sound.requests (rejectPending_operated sound.requests)
  unfold guiStep
  cases gui : server.gui with
  | idle =>
      cases call with
      | setReady ready => exact .stored gui ready
      | take => exact .looked gui
      | complete id submitted =>
          have operated := complete_operated sound.requests id submitted
          exact .completed gui (advanced_operated sound.requests operated)
            (server.requests.complete id submitted).1
  | readinessStored =>
      exact .rejected (by rw [gui]; trivial) rejected (rejectPending_pending _) _ (.inl rfl)
  | takeRefused =>
      exact .rejected (by rw [gui]; trivial) rejected (rejectPending_pending _) _ (.inr rfl)
  | takeAdmitted =>
      have operated := advanced_operated sound.requests (take_operated sound.requests)
      cases taken : server.requests.take with
      | mk request requests =>
          rw [taken] at operated
          cases request with
          | none =>
              have same : server.requests.take.1 = none := by rw [taken]
              have kept := take_none sound.requests same
              rw [taken] at kept
              dsimp only at kept ⊢
              rw [kept]
              exact .nothing gui
          | some request =>
              have same : server.requests.take.1 = some request := by rw [taken]
              obtain ⟨pending, active⟩ := take_slots sound.requests same
              rw [taken] at active
              exact .took gui operated pending active
  | takeHolding request =>
      dsimp only
      rw [if_pos (sound.holding request gui).1]
      exact .returned gui
  | takeLost request => exact absurd gui (sound.lost request)

theorem serverStep_sound (server : LocalCtiServer width) (turn : Move width)
    (sound : ServerSound server) : ServerSound (serverStep server turn).2 := by
  cases turn with
  | worker request =>
      have stepped := workerStep_stepped sound.requests request
      refine ⟨stepped.advanced.sound, fun admitted => ?_, fun held holding => ?_, fun held => ?_⟩
      · exact stepped.ready.trans (sound.admitted (stepped.gui.symm.trans admitted))
      · obtain ⟨ready, active⟩ := sound.holding held (stepped.gui.symm.trans holding)
        exact ⟨stepped.ready.trans ready, stepped.active held active⟩
      · exact fun lost => sound.lost held (stepped.gui.symm.trans lost)
  | gui call =>
      have stepped := guiStep_stepped sound call
      change ServerSound (server.guiStep call).2
      generalize (server.guiStep call).2 = after at stepped
      generalize (server.guiStep call).1 = observed at stepped
      cases stepped with
      | stored idle ready =>
          cases ready <;> exact ⟨sound.requests, nofun, nofun, nofun⟩
      | looked idle =>
          cases ready : server.ready with
          | false => exact ⟨sound.requests, nofun, nofun, nofun⟩
          | true => exact ⟨sound.requests, fun _ => rfl, nofun, nofun⟩
      | completed idle advanced done =>
          refine ⟨advanced.sound, fun admitted => ?_, fun held holding => ?_, fun held lost => ?_⟩
          · cases idle.symm.trans admitted
          · cases idle.symm.trans holding
          · cases idle.symm.trans lost
      | rejected rejecting advanced emptied observed kind =>
          exact ⟨advanced.sound, nofun, nofun, nofun⟩
      | nothing admitted => exact ⟨sound.requests, nofun, nofun, nofun⟩
      | took admitted advanced pending active =>
          refine ⟨advanced.sound, nofun, fun held holding => ?_, nofun⟩
          cases holding
          exact ⟨sound.admitted admitted, active⟩
      | returned holding => exact ⟨sound.requests, nofun, nofun, nofun⟩

/-- The request can no longer be handed out. -/
def Spent (id : UInt64) (server : LocalCtiServer width) : Prop :=
  id.toNat ≤ server.requests.lastPassed ∧ ¬ server.gui.Holds id

/-- The request was issued, and will be rejected before the interface takes anything. -/
def Doomed (id : UInt64) (server : LocalCtiServer width) : Prop :=
  Spent id server ∨ (id.toNat ≤ server.requests.lastIssued ∧ server.gui.Rejecting)

/-- The stage hands this request to the caller of `take()`. -/
def Returns (id : UInt64) (stage : ServerStage width) : Prop :=
  ∃ request, stage.output = .taken (some request) ∧ request.id = id

theorem not_holds_of_rejecting {id : UInt64} {point : GuiPoint width}
    (rejecting : point.Rejecting) : ¬ point.Holds id := by
  cases point with
  | readinessStored | takeRefused => exact False.elim
  | idle | takeAdmitted | takeHolding | takeLost => exact rejecting.elim

theorem not_holds_of_doomed {id : UInt64} {server : LocalCtiServer width}
    (doomed : Doomed id server) : ¬ server.gui.Holds id := by
  rcases doomed with spent | ⟨-, rejecting⟩
  · exact spent.2
  · exact not_holds_of_rejecting rejecting

theorem issued_of_doomed {id : UInt64} {server : LocalCtiServer width}
    (doomed : Doomed id server) : id.toNat ≤ server.requests.lastIssued := by
  rcases doomed with spent | ⟨issued, -⟩
  · refine Nat.le_trans spent.1 ?_
    unfold lastPassed
    split <;> omega
  · exact issued

/-- A doomed request stays doomed, and is not handed out. -/
theorem doomed_step {id : UInt64} {server : LocalCtiServer width} (sound : ServerSound server)
    (doomed : Doomed id server) (turn : Move width) :
    Doomed id (serverStep server turn).2 ∧
      ∀ request, (serverStep server turn).1 = .taken (some request) → request.id ≠ id := by
  cases turn with
  | worker request =>
      have stepped := workerStep_stepped sound.requests request
      refine ⟨?_, fun taken returned => absurd returned (workerStep_untaken server request _)⟩
      · change Doomed id (server.workerStep request).2
        unfold Doomed Spent
        rw [stepped.gui]
        rcases doomed with ⟨passed, free⟩ | ⟨issued, rejecting⟩
        · exact .inl ⟨Nat.le_trans passed stepped.advanced.passed, free⟩
        · exact .inr ⟨Nat.le_trans issued stepped.advanced.issued, rejecting⟩
  | gui call =>
      have stepped := guiStep_stepped sound call
      have issued := issued_of_doomed doomed
      have free := not_holds_of_doomed doomed
      change Doomed id (server.guiStep call).2 ∧
        ∀ request, (server.guiStep call).1 = .taken (some request) → request.id ≠ id
      generalize (server.guiStep call).2 = after at stepped ⊢
      generalize (server.guiStep call).1 = observed at stepped ⊢
      -- between calls and once a request is admitted, only a spent request is doomed
      have spent (calm : ¬ server.gui.Rejecting) : id.toNat ≤ server.requests.lastPassed := by
        rcases doomed with spent | ⟨-, rejecting⟩
        · exact spent.1
        · exact absurd rejecting calm
      cases stepped with
      | stored idle ready =>
          refine ⟨?_, fun _ taken => by cases taken⟩
          have passed := spent (by rw [idle]; exact False.elim)
          cases ready with
          | true => exact .inl ⟨passed, False.elim⟩
          | false => exact .inr ⟨issued, trivial⟩
      | looked idle =>
          refine ⟨?_, fun _ taken => by cases taken⟩
          have passed := spent (by rw [idle]; exact False.elim)
          cases ready : server.ready with
          | true => exact .inl ⟨passed, False.elim⟩
          | false => exact .inr ⟨issued, trivial⟩
      | completed idle advanced done =>
          refine ⟨.inl ⟨?_, free⟩, fun _ taken => by cases taken⟩
          exact Nat.le_trans (spent (by rw [idle]; exact False.elim)) advanced.passed
      | rejected rejecting advanced emptied observed kind =>
          refine ⟨.inl ⟨?_, False.elim⟩, fun request returned => ?_⟩
          · rename_i requests
            have all : requests.lastPassed = requests.lastIssued := by simp [lastPassed, emptied]
            change id.toNat ≤ requests.lastPassed
            rw [all]
            exact Nat.le_trans issued advanced.issued
          · rcases kind with kind | kind <;> cases kind.symm.trans returned
      | nothing admitted =>
          refine ⟨.inl ⟨?_, False.elim⟩, fun _ taken => by cases taken⟩
          exact spent (by rw [admitted]; exact False.elim)
      | took admitted advanced pending active =>
          have passed := spent (by rw [admitted]; exact False.elim)
          refine ⟨.inl ⟨Nat.le_trans passed advanced.passed, fun same => ?_⟩, fun _ taken => by
            cases taken⟩
          obtain ⟨-, last, positive, -⟩ := sound.requests.of_pending pending
          rw [← same] at passed
          simp only [lastPassed, pending, Option.isSome_some, if_true] at passed
          omega
      | returned holding =>
          refine ⟨.inl ⟨spent (by rw [holding]; exact False.elim), False.elim⟩, ?_⟩
          rintro request returned same
          cases returned
          rw [holding] at free
          exact free same

/-! ## A submission and what follows -/

/-- The flag was set to false during these stages. -/
def Lost (run : List (ServerStage width)) : Prop := ∃ stage ∈ run, stage.output = .stored false

/--
A run that ends by creating a request: the worker read the flag in the stage
`read`, and submitted in the stage `submit`, its next step.
-/
structure Submission (moves : List (Move width)) (before : List (ServerStage width))
    (read : ServerStage width) (between : List (ServerStage width)) (submit : ServerStage width)
    (id : UInt64) : Prop where
  split : stages serverStep {} moves = before ++ read :: (between ++ [submit])
  sampled : ∃ ready, read.output = .sampled ready
  interface : ∀ stage ∈ between, ∃ call, stage.input = .gui call
  created : submit.output = .submitted ⟨.created, id, .queued⟩

/-- A loss of readiness since the flag was read keeps the request from being handed out later. -/
structure SafeAfterLoss (between : List (ServerStage width)) (id : UInt64)
    (later : List (ServerStage width)) : Prop where
  lostBefore : Lost between → ∀ stage ∈ later, ¬ Returns id stage
  lostLater : ∀ before loss after, later = before ++ loss :: after →
    loss.output = .stored false → ∀ stage ∈ after, ¬ Returns id stage

theorem doomed_forall {id : UInt64} {server : LocalCtiServer width} (sound : ServerSound server)
    (doomed : Doomed id server) (moves : List (Move width)) :
    ∀ stage ∈ stages serverStep server moves, ¬ Returns id stage := by
  have preserved (current : LocalCtiServer width) (turn : Move width)
      (known : ServerSound current ∧ Doomed id current) :
      ServerSound (serverStep current turn).2 ∧ Doomed id (serverStep current turn).2 :=
    ⟨serverStep_sound current turn known.1, (doomed_step known.1 known.2 turn).1⟩
  refine stages_forall preserved ?_ ⟨sound, doomed⟩ moves
  rintro current turn known ⟨request, returned, same⟩
  exact (doomed_step known.1 known.2 turn).2 request returned same

theorem serverStep_lastIssued {server : LocalCtiServer width} (sound : ServerSound server)
    (turn : Move width) :
    server.requests.lastIssued ≤ (serverStep server turn).2.requests.lastIssued := by
  cases turn with
  | worker request => exact (workerStep_stepped sound.requests request).advanced.issued
  | gui call =>
      have stepped := guiStep_stepped sound call
      change server.requests.lastIssued ≤ (server.guiStep call).2.requests.lastIssued
      generalize (server.guiStep call).2 = after at stepped
      generalize (server.guiStep call).1 = observed at stepped
      cases stepped with
      | stored idle ready => exact Nat.le_refl _
      | looked idle => exact Nat.le_refl _
      | completed idle advanced done => exact advanced.issued
      | rejected rejecting advanced emptied observed kind => exact advanced.issued
      | nothing admitted => exact Nat.le_refl _
      | took admitted advanced pending active => exact advanced.issued
      | returned holding => exact Nat.le_refl _

/-- Setting the flag to false leaves the interface at a rejection. -/
theorem rejecting_of_stored {server : LocalCtiServer width} (sound : ServerSound server)
    {turn : Move width} (stored : (serverStep server turn).1 = .stored false) :
    (serverStep server turn).2.gui.Rejecting := by
  cases turn with
  | worker request =>
      change (server.workerStep request).1 = .stored false at stored
      unfold workerStep at stored
      cases point : server.worker <;> rw [point] at stored
      · cases request <;> cases stored
      · cases stored
  | gui call =>
      have stepped := guiStep_stepped sound call
      change (server.guiStep call).1 = .stored false at stored
      change (server.guiStep call).2.gui.Rejecting
      rw [stored] at stepped
      generalize (server.guiStep call).2 = after at stepped ⊢
      cases stepped with
      | stored idle => trivial
      | rejected rejecting advanced emptied observed kind =>
          rcases kind with kind | kind <;> cases kind

/-- A step that creates a request: it is pending, alone, and the interface has not moved. -/
theorem created_step {server : LocalCtiServer width} {turn : Move width} {id : UInt64}
    (sound : ServerSound server)
    (created : (serverStep server turn).1 = .submitted ⟨.created, id, .queued⟩) :
    (serverStep server turn).2.gui = server.gui ∧
      (∃ request, (serverStep server turn).2.requests.pending = some request ∧ request.id = id) ∧
      (serverStep server turn).2.requests.active = none := by
  cases turn with
  | gui call =>
      have stepped := guiStep_stepped sound call
      change (server.guiStep call).1 = _ at created
      rw [created] at stepped
      generalize (server.guiStep call).2 = after at stepped
      cases stepped with
      | rejected rejecting advanced emptied observed kind =>
          rcases kind with kind | kind <;> cases kind
  | worker request =>
      change (server.workerStep request).1 = _ at created
      refine ⟨(workerStep_stepped sound.requests request).gui, ?_⟩
      change (∃ request', (server.workerStep request).2.requests.pending = some request' ∧
        request'.id = id) ∧ (server.workerStep request).2.requests.active = none
      unfold workerStep at created ⊢
      cases point : server.worker with
      | idle =>
          rw [point] at created
          cases request <;> cases created
      | sampled ready destination key =>
          rw [point] at created
          have operated := submitIdempotent_operated server.requests destination key ready
          have result : (server.requests.submitIdempotent destination key ready).1 =
              ⟨.created, id, .queued⟩ := Observed.submitted.inj created
          dsimp only
          generalize (server.requests.submitIdempotent destination key ready).2 = after at operated ⊢
          rw [result] at operated
          cases operated with
          | refused operation answer failed => exact absurd rfl failed
          | created destination key free unknown =>
              refine ⟨⟨⟨server.requests.next, destination⟩, by simp [create], rfl⟩, ?_⟩
              simpa [create] using (occupied_eq_false free).2.1

/-- The rest of a call of `take()` that has read the flag as true, with a request in the slot. -/
theorem admitted_returns {server : LocalCtiServer width} (ready : server.ready = true)
    (admitted : server.gui = .takeAdmitted) {request : CtiPendingRequest width}
    (pending : server.requests.pending = some request) (active : server.requests.active = none) :
    ∃ stage ∈ stages serverStep server [.gui .take, .gui .take], Returns request.id stage := by
  have taken : server.requests.take.1 = some request := by
    unfold CtiRequestQueue.take
    rw [pending, active]
    dsimp only
    split <;> rfl
  have holding : (serverStep server (.gui .take)).2 =
      { server with requests := server.requests.take.2, gui := .takeHolding request } := by
    change (server.guiStep .take).2 = _
    unfold guiStep
    rw [admitted]
    dsimp only
    rw [show server.requests.take = (some request, server.requests.take.2) from
      Prod.ext taken rfl]
  refine ⟨_, List.mem_cons_of_mem _ List.mem_cons_self, request, ?_, rfl⟩
  rw [holding]
  simp [stageOf, serverStep, guiStep, ready]

/-- An idle interface that has recovered readiness takes the request in the slot. -/
theorem idle_returns {server : LocalCtiServer width} (idle : server.gui = .idle)
    {request : CtiPendingRequest width} (pending : server.requests.pending = some request)
    (active : server.requests.active = none) :
    ∃ stage ∈ stages serverStep server
      [.gui (.setReady true), .gui .take, .gui .take, .gui .take], Returns request.id stage := by
  have recovered : (serverStep server (.gui (.setReady true))).2 =
      { server with ready := true, gui := .idle } := by
    change (server.guiStep (.setReady true)).2 = _
    unfold guiStep
    rw [idle]
    rfl
  have looked : (serverStep { server with ready := true, gui := .idle } (.gui .take)).2 =
      { server with ready := true, gui := .takeAdmitted } := rfl
  rw [stages_cons, stages_cons, recovered, looked]
  have ready : ({ server with ready := true, gui := .takeAdmitted } : LocalCtiServer width).ready =
      true := rfl
  obtain ⟨stage, member, returned⟩ := admitted_returns ready rfl pending active
  exact ⟨stage, List.mem_cons_of_mem _ (List.mem_cons_of_mem _ member), returned⟩

/-- A request that was created and can be doomed only by the interface's position. -/
theorem safeAfterLoss_of_rejecting {server : LocalCtiServer width} (sound : ServerSound server)
    {between : List (ServerStage width)} {id : UInt64}
    (issued : id.toNat ≤ server.requests.lastIssued)
    (rejecting : Lost between → server.gui.Rejecting) (moves : List (Move width)) :
    SafeAfterLoss between id (stages serverStep server moves) := by
  refine ⟨fun lost => ?_, fun before loss after split stored => ?_⟩
  · exact doomed_forall sound (.inr ⟨issued, rejecting lost⟩) moves
  · obtain ⟨first, turn, rest, rfl, rfl, rfl, rfl⟩ := stages_split split
    have preserved (current : LocalCtiServer width) (turn : Move width)
        (known : ServerSound current ∧ id.toNat ≤ current.requests.lastIssued) :
        ServerSound (serverStep current turn).2 ∧
          id.toNat ≤ (serverStep current turn).2.requests.lastIssued :=
      ⟨serverStep_sound current turn known.1,
        Nat.le_trans known.2 (serverStep_lastIssued known.1 turn)⟩
    have reached := finalState_invariant preserved ⟨sound, issued⟩ first
    have doomed : Doomed id (serverStep (finalState serverStep server first) turn).2 :=
      .inr ⟨Nat.le_trans reached.2 (serverStep_lastIssued reached.1 turn),
        rejecting_of_stored reached.1 stored⟩
    exact doomed_forall (serverStep_sound _ turn reached.1) doomed rest

/--
Readiness loss and queued requests: a request is kept from being handed out
after every loss of readiness since the worker read the flag, whatever follows
its creation, exactly when a loss before the creation finds the interface at a
rejection.
-/
theorem readiness_loss_fences_iff {moves : List (Move width)}
    {before between : List (ServerStage width)} {read submit : ServerStage width} {id : UInt64}
    (submission : Submission moves before read between submit id) :
    (∀ continuation, SafeAfterLoss between id
        (stages serverStep submit.after continuation)) ↔
      (Lost between → submit.before.gui.Rejecting) := by
  obtain ⟨first, turn, rest, -, -, rfl, -⟩ := stages_split
    (submission.split.trans (List.append_assoc before (read :: between) [submit]).symm)
  have sound : ServerSound (finalState serverStep ({} : LocalCtiServer width) first) :=
    finalState_invariant serverStep_sound serverSound_initial first
  have sound' := serverStep_sound _ turn sound
  obtain ⟨same, ⟨request, pending, rfl⟩, active⟩ := created_step sound submission.created
  have last := (sound'.requests.of_pending pending).2.1
  constructor
  · intro safe lost
    by_contra calm
    change ¬ (finalState serverStep {} first).gui.Rejecting at calm
    rw [← same] at calm
    have exposed (moves' : List (Move width)) (returned : ∃ stage ∈ stages serverStep
        (serverStep (finalState serverStep {} first) turn).2 moves', Returns request.id stage) :
        False := by
      obtain ⟨stage, member, handed⟩ := returned
      exact (safe moves').lostBefore lost stage member handed
    cases gui : (serverStep (finalState serverStep {} first) turn).2.gui with
    | idle => exact exposed _ (idle_returns gui pending active)
    | takeAdmitted => exact exposed _ (admitted_returns (sound'.admitted gui) gui pending active)
    | readinessStored | takeRefused => exact calm (by rw [gui]; trivial)
    | takeHolding held => cases active.symm.trans (sound'.holding held gui).2
    | takeLost held => exact sound'.lost held gui
  · intro rejecting continuation
    refine safeAfterLoss_of_rejecting sound' (Nat.le_of_eq last) (fun lost => ?_) continuation
    rw [same]
    exact rejecting lost

/-- The stage of a run at a position. -/
def stageAt (moves : List (Move .utf16)) (position : Fin (stages serverStep {} moves).length) :
    ServerStage .utf16 :=
  (stages serverStep {} moves).get position

/-- Readiness is lost after the flag was read; the slot is rejected after the submission. -/
def lostAroundSubmission : List (Move .utf16) :=
  [.gui (.setReady true), .worker (.post (wideText .utf16 "1001") []), .gui (.setReady false),
    .worker (.cancel 0)]

theorem lostAroundSubmission_submission :
    Submission lostAroundSubmission [stageAt lostAroundSubmission ⟨0, by decide⟩]
      (stageAt lostAroundSubmission ⟨1, by decide⟩) [stageAt lostAroundSubmission ⟨2, by decide⟩]
      (stageAt lostAroundSubmission ⟨3, by decide⟩) 1 := by
  refine ⟨rfl, ⟨true, rfl⟩, fun stage member => ?_, rfl⟩
  rw [List.mem_singleton.mp member]
  exact ⟨.setReady false, rfl⟩

theorem readiness_loss_fences_iff_lostAroundSubmission :
    (∀ continuation, SafeAfterLoss [stageAt lostAroundSubmission ⟨2, by decide⟩] 1
        (stages serverStep (stageAt lostAroundSubmission ⟨3, by decide⟩).after continuation)) ↔
      (Lost [stageAt lostAroundSubmission ⟨2, by decide⟩] →
        (stageAt lostAroundSubmission ⟨3, by decide⟩).before.gui.Rejecting) :=
  readiness_loss_fences_iff lostAroundSubmission_submission

/-- Readiness is lost and the slot rejected after the flag was read, before the submission. -/
def lostBeforeSubmission : List (Move .utf16) :=
  [.gui (.setReady true), .worker (.post (wideText .utf16 "1001") []), .gui (.setReady false),
    .gui .take, .worker (.cancel 0)]

theorem lostBeforeSubmission_submission :
    Submission lostBeforeSubmission [stageAt lostBeforeSubmission ⟨0, by decide⟩]
      (stageAt lostBeforeSubmission ⟨1, by decide⟩)
      [stageAt lostBeforeSubmission ⟨2, by decide⟩, stageAt lostBeforeSubmission ⟨3, by decide⟩]
      (stageAt lostBeforeSubmission ⟨4, by decide⟩) 1 := by
  refine ⟨rfl, ⟨true, rfl⟩, fun stage member => ?_, rfl⟩
  rcases List.mem_pair.mp member with first | second
  · rw [first]
    exact ⟨.setReady false, rfl⟩
  · rw [second]
    exact ⟨.take, rfl⟩

/-- The request is queued on the readiness of before the loss, and handed out after recovery. -/
theorem lostBeforeSubmission_returned :
    ¬ ∀ (moves : List (Move .utf16)) (before : List (ServerStage .utf16))
      (read : ServerStage .utf16) (between : List (ServerStage .utf16))
      (submit : ServerStage .utf16) (id : UInt64),
      Submission moves before read between submit id →
      ∀ continuation, SafeAfterLoss between id (stages serverStep submit.after continuation) := by
  intro law
  have safe := law _ _ _ _ _ _ lostBeforeSubmission_submission
    [.gui (.setReady true), .gui .take, .gui .take, .gui .take]
  refine safe.lostBefore ⟨stageAt lostBeforeSubmission ⟨2, by decide⟩, List.mem_cons_self, rfl⟩ _
    (List.mem_cons_of_mem _ (List.mem_cons_of_mem _ (List.mem_cons_of_mem _ List.mem_cons_self))) ?_
  exact ⟨⟨1, wideText .utf16 "1001"⟩, rfl, rfl⟩

end AxeVoice.Cti
