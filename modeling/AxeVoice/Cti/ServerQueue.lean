import AxeVoice.Cti.Readiness
import AxeVoice.Foundation.Component

/-!
# The queue within the server

Every step of the server is one operation of its queue, or none.  So what holds of
every run of the queue holds of the queue in every run of the server.
-/

namespace AxeVoice.Cti

open Foundation CtiRequestQueue LocalCtiServer

variable {width : WCharWidth}

namespace LocalCtiServer

/-- The operation of the worker's next step. -/
def workerOperation (server : LocalCtiServer width) (request : WorkerRequest width) :
    Option (CtiOperation width) :=
  match server.worker, request with
  | .sampled ready destination key, _ => some (.submitIdempotent destination key ready)
  | .idle, .cancel id => some (.cancel id)
  | .idle, .post .. => none

/-- The operation of the interface's next step. -/
def guiOperation (server : LocalCtiServer width) (call : GuiCall) :
    Option (CtiOperation width) :=
  match server.gui, call with
  | .idle, .complete id submitted => some (.complete id submitted)
  | .idle, _ => none
  | .readinessStored, _ | .takeRefused, _ => some .rejectPending
  | .takeAdmitted, _ => some .take
  | .takeHolding _, _ => none
  | .takeLost request, _ => some (.complete request.id false)

/-- The operation of the queue that the next step is. -/
def operation (server : LocalCtiServer width) : Move width → Option (CtiOperation width)
  | .worker request => server.workerOperation request
  | .gui call => server.guiOperation call

theorem workerStep_requests (server : LocalCtiServer width) (request : WorkerRequest width) :
    (server.workerStep request).2.requests = match server.workerOperation request with
      | some operation => (queueStep server.requests operation).2
      | none => server.requests := by
  unfold workerStep workerOperation
  cases server.worker with
  | sampled => rfl
  | idle => cases request <;> rfl

theorem guiStep_requests (server : LocalCtiServer width) (call : GuiCall) :
    (server.guiStep call).2.requests = match server.guiOperation call with
      | some operation => (queueStep server.requests operation).2
      | none => server.requests := by
  unfold guiStep guiOperation
  cases gui : server.gui with
  | idle => cases call <;> rfl
  | readinessStored | takeRefused | takeLost => rfl
  | takeAdmitted =>
      simp only [queueStep]
      split
      · next taken =>
          rw [taken]
          rfl
      · next taken =>
          rw [taken]
          rfl
  | takeHolding request =>
      dsimp only
      split <;> rfl

end LocalCtiServer

/-- The queue, whose operations are the steps of the server. -/
def queuePart : Component (@serverStep width) (@queueStep width) where
  part := LocalCtiServer.requests
  asked := LocalCtiServer.operation
  moves {server turn operation} asked := by
    cases turn with
    | worker request =>
        have known : server.workerOperation request = some operation := asked
        exact (server.workerStep_requests request).trans (by rw [known])
    | gui call =>
        have known : server.guiOperation call = some operation := asked
        exact (server.guiStep_requests call).trans (by rw [known])
  rests {server turn} asked := by
    cases turn with
    | worker request =>
        have known : server.workerOperation request = none := asked
        exact (server.workerStep_requests request).trans (by rw [known])
    | gui call =>
        have known : server.guiOperation call = none := asked
        exact (server.guiStep_requests call).trans (by rw [known])

/-- The queue of a server stays, or operates. -/
theorem serverStep_operated (server : LocalCtiServer width) (sound : ServerSound server)
    (turn : Move width) :
    (server.operation turn = none ∧ (serverStep server turn).2.requests = server.requests) ∨
      ∃ operation, server.operation turn = some operation ∧
        Operated server.requests operation (queueStep server.requests operation).1
          (serverStep server turn).2.requests := by
  cases asked : server.operation turn with
  | none => exact .inl ⟨rfl, queuePart.rests asked⟩
  | some operation =>
      refine .inr ⟨operation, rfl, ?_⟩
      have moved : (serverStep server turn).2.requests =
          (queueStep server.requests operation).2 := queuePart.moves asked
      rw [moved]
      exact queueStep_operated sound.requests operation

/-- The request can no longer be handed out, and is not being served. -/
structure Over (id : UInt64) (queue : CtiRequestQueue width) : Prop where
  passed : id.toNat ≤ queue.lastPassed
  idle : ∀ request, queue.active = some request → request.id ≠ id

theorem lastPassed_lt_of_pending {queue : CtiRequestQueue width} (sound : Sound queue)
    {request : CtiPendingRequest width} (pending : queue.pending = some request) :
    queue.lastPassed < request.id.toNat := by
  obtain ⟨-, last, positive, -⟩ := sound.of_pending pending
  simp only [lastPassed, pending, Option.isSome_some, if_true]
  omega

theorem lastPassed_of_active {queue : CtiRequestQueue width} (sound : Sound queue)
    {request : CtiPendingRequest width} (active : queue.active = some request) :
    request.id.toNat = queue.lastPassed := by
  obtain ⟨pending, last, -⟩ := sound.of_active active
  simp [lastPassed, pending, last]

/-- The request that is served was so before, or was waiting. -/
theorem active_of_operated {queue after : CtiRequestQueue width}
    {operation : CtiOperation width} {answer : CtiAnswer width}
    (operated : Operated queue operation answer after) {request : CtiPendingRequest width}
    (active : after.active = some request) :
    queue.active = some request ∨ queue.pending = some request := by
  cases operated with
  | refused operation answer failed => exact .inl active
  | submitted destination free | created destination key free unknown =>
      have none_ : queue.active = none := (occupied_eq_false free).2.1
      simp only [create, appendEvent_active] at active
      cases none_.symm.trans active
  | taken pending none_ records same state =>
      simp only [move, appendEvent_active] at active
      cases active
      exact .inr pending
  | completed accepted active' pending records same state =>
      simp only [move, appendEvent_active] at active
      cases active
  | cancelled pending none_ records same state =>
      simp only [move, appendEvent_active] at active
      cases active
  | rejected pending none_ records same state =>
      simp only [move, appendEvent_active] at active
      cases active
  | cleared => cases active

/-- The request that waits has waited before, or was issued. -/
theorem pending_of_operated {queue after : CtiRequestQueue width} {operation : CtiOperation width}
    {answer : CtiAnswer width} (operated : Operated queue operation answer after)
    (unissued : answer.issued = none) {request : CtiPendingRequest width}
    (pending : after.pending = some request) : queue.pending = some request := by
  cases operated with
  | refused => exact pending
  | submitted | created => cases unissued
  | taken | completed | cancelled | rejected =>
      simp only [move, appendEvent_pending] at pending
      cases pending
  | cleared => cases pending

/-- What is over stays over. -/
theorem Over.operated {id : UInt64} {queue after : CtiRequestQueue width} (sound : Sound queue)
    (gone : Over id queue) {operation : CtiOperation width} {answer : CtiAnswer width}
    (operated : Operated queue operation answer after) : Over id after := by
  refine ⟨Nat.le_trans gone.passed (lastPassed_le sound operated), ?_⟩
  intro request active
  rcases active_of_operated operated active with served | pending
  · exact gone.idle request served
  · rintro rfl
    exact absurd gone.passed (Nat.not_le.mpr (lastPassed_lt_of_pending sound pending))

/-- A record in a final state is that of a request that is over. -/
theorem over_of_terminal {queue : CtiRequestQueue width} (sound : Sound queue) {id : UInt64}
    {state : CtiRequestState} (known : queue.stateOf id = some state)
    (final : state.terminal = true) : Over id queue := by
  have issued := le_lastIssued_of_stateOf sound (by rw [known]; rfl)
  have shown {newest : CtiRequestResult width} {older : List (CtiRequestResult width)}
      (records : queue.records = older ++ [newest]) : queue.stateOf newest.id = some newest.state := by
    simp only [stateOf, CtiRequestQueue.get, records]
    rw [find_concat_self (older_ne_newest sound records) rfl]
    rfl
  constructor
  · unfold lastPassed
    split
    · next waiting =>
        obtain ⟨request, pending⟩ := Option.isSome_iff_exists.mp waiting
        obtain ⟨-, last, -, older, newest, records, same, queued, -⟩ := sound.of_pending pending
        have other : id ≠ request.id := by
          rintro rfl
          have here := shown records
          rw [same, known, queued] at here
          cases here
          cases final
        have distinct : id.toNat ≠ request.id.toNat := fun eq => other (UInt64.toNat_inj.mp eq)
        omega
    · exact issued
  · rintro request active rfl
    obtain ⟨-, -, older, newest, records, same, dispatching, -⟩ := sound.of_active active
    have here := shown records
    rw [same, known, dispatching] at here
    cases here
    cases final

/-- The request that is served is recorded so. -/
theorem stateOf_active {queue : CtiRequestQueue width} (sound : Sound queue)
    {request : CtiPendingRequest width} (active : queue.active = some request) :
    queue.stateOf request.id = some .dispatching := by
  obtain ⟨-, -, older, newest, records, same, dispatching, -⟩ := sound.of_active active
  simp only [stateOf, CtiRequestQueue.get, records]
  rw [← same, find_concat_self (older_ne_newest sound records) rfl, ← dispatching]
  rfl

theorem stateOf_move {queue : CtiRequestQueue width} (sound : Sound queue)
    {older : List (CtiRequestResult width)} {newest : CtiRequestResult width}
    (records : queue.records = older ++ [newest])
    (pending active : Option (CtiPendingRequest width)) (state : CtiRequestState) (id : UInt64) :
    (queue.move pending active older newest state).stateOf id =
      if newest.id = id then some state else queue.stateOf id := by
  simp only [stateOf, CtiRequestQueue.get, move, appendEvent_records, records]
  split
  · next same =>
      subst same
      rw [find_concat_self (older_ne_newest sound records)]
      · rfl
      · rfl
  · next other =>
      rw [find_concat_other other, find_concat_other]
      exact other

/-- Whatever final state a request is found in after an operation, it had it before, or the
operation ended the request that was served, or the one that was waiting. -/
inductive Concludes (queue : CtiRequestQueue width) (operation : CtiOperation width)
    (id : UInt64) (state : CtiRequestState) : Prop
  | before (known : queue.stateOf id = some state)
  | completed {request : CtiPendingRequest width} (accepted : Bool)
      (active : queue.active = some request) (same : request.id = id)
      (asked : operation = .complete id accepted)
      (ended : state = if accepted then .submitted else .rejected)
  | withdrawn {request : CtiPendingRequest width} (pending : queue.pending = some request)
      (same : request.id = id) (unsubmitted : state ≠ .submitted)

theorem create_concludes {queue : CtiRequestQueue width} (sound : Sound queue)
    (free : queue.occupied = false) {destination : WString width} {key : IdempotencyKey}
    {recorded : WString width} {operation : CtiOperation width} {id : UInt64}
    {state : CtiRequestState}
    (known : (queue.create destination key recorded).stateOf id = some state)
    (final : state.terminal = true) : Concludes queue operation id state := by
  have issues : (CtiAnswer.submit (some queue.next) : CtiAnswer width).issued = some queue.next := rfl
  have made := recorded_create sound free destination key recorded (.submit destination) issues
  have available := (occupied_eq_false free).2.2
  have issued := (create_lastIssued available destination key recorded).trans
    (next_toNat available).symm
  have counts := next_toNat available
  cases made with
  | issued fresh issue counted last queued others event =>
      by_cases same : id = fresh
      · subst same
        cases known.symm.trans queued
        cases final
      · rcases others id same with kept | none_
        · exact .before (kept ▸ known)
        · cases known.symm.trans none_
  | nothing unchanged =>
      rw [unchanged] at issued
      omega
  | forgotten clear => cases clear
  | moved moved old new moves counted => omega

theorem operated_concludes {queue after : CtiRequestQueue width} {operation : CtiOperation width}
    {answer : CtiAnswer width} (sound : Sound queue)
    (operated : Operated queue operation answer after) {id : UInt64} {state : CtiRequestState}
    (known : after.stateOf id = some state) (final : state.terminal = true) :
    Concludes queue operation id state := by
  cases operated with
  | refused => exact .before known
  | submitted destination free => exact create_concludes sound free known final
  | created destination key free unknown => exact create_concludes sound free known final
  | taken pending active records same =>
      rw [stateOf_move sound records] at known
      split at known
      · cases known
        cases final
      · exact .before known
  | completed accepted active pending records same =>
      rw [stateOf_move sound records] at known
      split at known
      · next here =>
          cases known
          cases here
          exact .completed accepted active same.symm (same ▸ rfl) rfl
      · exact .before known
  | cancelled pending active records same =>
      rw [stateOf_move sound records] at known
      split at known
      · next here =>
          cases known
          exact .withdrawn pending (same.symm.trans here) (by decide)
      · exact .before known
  | rejected pending active records same =>
      rw [stateOf_move sound records] at known
      split at known
      · next here =>
          cases known
          exact .withdrawn pending (same.symm.trans here) (by decide)
      · exact .before known
  | cleared =>
      rw [stateOf_clear] at known
      cases known

/-- The request that is served can be completed, and is recorded as it was. -/
theorem complete_of_active {queue : CtiRequestQueue width} (sound : Sound queue)
    {request : CtiPendingRequest width} (active : queue.active = some request)
    (accepted : Bool) :
    (queue.complete request.id accepted).1 = true ∧
      (queue.complete request.id accepted).2.active = none ∧
        (queue.complete request.id accepted).2.stateOf request.id =
          some (if accepted then .submitted else .rejected) := by
  obtain ⟨pending, -, older, newest, records, same, -⟩ := sound.of_active active
  have found := changeFirst_newest sound records (fun record => record.id = request.id)
    (fun record matched => (of_decide_eq_true matched).trans same.symm) (decide_eq_true same)
    (if accepted then .submitted else .rejected)
  have shown : queue.complete request.id accepted =
      (true, queue.move none none older newest (if accepted then .submitted else .rejected)) := by
    unfold complete move
    simp only [active, found, pending, same]
    exact if_neg (not_not.mpr rfl)
  rw [shown]
  refine ⟨rfl, ?_, ?_⟩
  · simp only [move, appendEvent_active]
  · rw [stateOf_move sound records, if_pos same]

end AxeVoice.Cti
