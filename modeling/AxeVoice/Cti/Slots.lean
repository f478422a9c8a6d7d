import AxeVoice.Cti.Requests

/-!
# The slots and the records

At most one request is in flight, and its record is the newest one: it was the
last to be issued, and no further one is issued before it is over.  So the loops
over the records find it, and an operation is either refused, or issues a
request, or moves the newest record along its life cycle, or clears the queue.
-/

namespace AxeVoice.Cti

open Foundation CtiRequestQueue

variable {width : WCharWidth}

/-- The states a request does not leave. -/
def CtiRequestState.terminal : CtiRequestState → Bool
  | .submitted | .rejected | .cancelled => true
  | .queued | .dispatching => false

/-- The moves of a recorded request. -/
inductive Moves : CtiRequestState → CtiRequestState → Prop
  | dispatched : Moves .queued .dispatching
  | cancelled : Moves .queued .cancelled
  | withdrawn : Moves .queued .rejected
  | submitted : Moves .dispatching .submitted
  | rejected : Moves .dispatching .rejected

/-- The last identifier issued; none yet counts as zero. -/
def CtiRequestQueue.lastIssued (queue : CtiRequestQueue width) : ℕ := (queue.next - 1).toNat

/-- The slots against the records, `issued` being the last identifier issued. -/
inductive Slots (issued : ℕ) :
    Option (CtiPendingRequest width) → Option (CtiPendingRequest width) →
      List (CtiRequestResult width) → Prop
  | idle {records : List (CtiRequestResult width)}
      (closed : ∀ record ∈ records, record.state.terminal) : Slots issued none none records
  | waiting {request : CtiPendingRequest width} {older : List (CtiRequestResult width)}
      {newest : CtiRequestResult width} (closed : ∀ record ∈ older, record.state.terminal)
      (same : newest.id = request.id) (state : newest.state = .queued)
      (last : request.id.toNat = issued) (positive : 0 < issued) :
      Slots issued (some request) none (older ++ [newest])
  | dispatching {request : CtiPendingRequest width} {older : List (CtiRequestResult width)}
      {newest : CtiRequestResult width} (closed : ∀ record ∈ older, record.state.terminal)
      (same : newest.id = request.id) (state : newest.state = .dispatching)
      (last : request.id.toNat = issued) :
      Slots issued none (some request) (older ++ [newest])

/-- The joint invariant of the slots, the records and the identifiers. -/
structure Sound (queue : CtiRequestQueue width) : Prop where
  slots : Slots queue.lastIssued queue.pending queue.active queue.records
  ascending : queue.records.Pairwise fun first second => first.id < second.id
  issued : ∀ record ∈ queue.records, record.id.toNat ≤ queue.lastIssued

theorem sound_initial : Sound ({} : CtiRequestQueue width) :=
  ⟨.idle nofun, List.Pairwise.nil, nofun⟩

section AppendEvent

variable (queue : CtiRequestQueue width) (id : UInt64) (state : CtiRequestState)

@[simp] theorem appendEvent_next : (queue.appendEvent id state).next = queue.next := by
  unfold appendEvent
  split <;> rfl

@[simp] theorem appendEvent_pending : (queue.appendEvent id state).pending = queue.pending := by
  unfold appendEvent
  split <;> rfl

@[simp] theorem appendEvent_active : (queue.appendEvent id state).active = queue.active := by
  unfold appendEvent
  split <;> rfl

@[simp] theorem appendEvent_records : (queue.appendEvent id state).records = queue.records := by
  unfold appendEvent
  split <;> rfl

theorem appendEvent_lastIssued : (queue.appendEvent id state).lastIssued = queue.lastIssued := by
  simp [lastIssued]

end AppendEvent

/-- The answer reports that nothing was done. -/
def CtiAnswer.Failed : CtiAnswer width → Prop
  | .submit id => id = none
  | .submitIdempotent result => result.outcome ≠ .created
  | .take request => request = none
  | .complete done => done = false
  | .cancel outcome => outcome ≠ .cancelled
  | .rejectPending done => done = false
  | .clear => False

/-- The newest record moves to `state`, and the slots become `pending` and `active`. -/
def CtiRequestQueue.move (queue : CtiRequestQueue width)
    (pending active : Option (CtiPendingRequest width)) (older : List (CtiRequestResult width))
    (newest : CtiRequestResult width) (state : CtiRequestState) : CtiRequestQueue width :=
  { queue with
    pending := pending
    active := active
    records := older ++ [withState state newest] }.appendEvent newest.id state

/-- What an operation can do to a sound queue. -/
inductive Operated (queue : CtiRequestQueue width) :
    CtiOperation width → CtiAnswer width → CtiRequestQueue width → Prop
  | refused (operation : CtiOperation width) (answer : CtiAnswer width) (failed : answer.Failed) :
      Operated queue operation answer queue
  | submitted (destination : WString width) (free : queue.occupied = false) :
      Operated queue (.submit destination) (.submit (some queue.next))
        (queue.create destination [] [])
  | created (destination : WString width) (key : IdempotencyKey) (free : queue.occupied = false)
      (unknown : queue.keyed key = none) :
      Operated queue (.submitIdempotent destination key true)
        (.submitIdempotent ⟨.created, queue.next, .queued⟩)
        (queue.create destination key (if key.isEmpty then [] else destination))
  | taken {request : CtiPendingRequest width} {older : List (CtiRequestResult width)}
      {newest : CtiRequestResult width} (pending : queue.pending = some request)
      (active : queue.active = none) (records : queue.records = older ++ [newest])
      (same : newest.id = request.id) (state : newest.state = .queued) :
      Operated queue .take (.take (some request))
        (queue.move none (some request) older newest .dispatching)
  | completed {request : CtiPendingRequest width} {older : List (CtiRequestResult width)}
      {newest : CtiRequestResult width} (accepted : Bool) (active : queue.active = some request)
      (pending : queue.pending = none) (records : queue.records = older ++ [newest])
      (same : newest.id = request.id) (state : newest.state = .dispatching) :
      Operated queue (.complete request.id accepted) (.complete true)
        (queue.move none none older newest (if accepted then .submitted else .rejected))
  | cancelled {request : CtiPendingRequest width} {older : List (CtiRequestResult width)}
      {newest : CtiRequestResult width} (pending : queue.pending = some request)
      (active : queue.active = none) (records : queue.records = older ++ [newest])
      (same : newest.id = request.id) (state : newest.state = .queued) :
      Operated queue (.cancel request.id) (.cancel .cancelled)
        (queue.move none none older newest .cancelled)
  | rejected {request : CtiPendingRequest width} {older : List (CtiRequestResult width)}
      {newest : CtiRequestResult width} (pending : queue.pending = some request)
      (active : queue.active = none) (records : queue.records = older ++ [newest])
      (same : newest.id = request.id) (state : newest.state = .queued) :
      Operated queue .rejectPending (.rejectPending true)
        (queue.move none none older newest .rejected)
  | cleared : Operated queue .clear .clear queue.clear

/-- The record of the request in flight is the only one under its identifier. -/
theorem older_ne_newest {queue : CtiRequestQueue width} (sound : Sound queue)
    {older : List (CtiRequestResult width)} {newest : CtiRequestResult width}
    (records : queue.records = older ++ [newest]) :
    ∀ record ∈ older, record.id ≠ newest.id := by
  intro record member same
  have ascending := sound.ascending
  rw [records, List.pairwise_append] at ascending
  have below := ascending.2.2 record member newest List.mem_cons_self
  rw [same] at below
  exact UInt64.lt_irrefl _ below

theorem submit_operated (queue : CtiRequestQueue width) (destination : WString width) :
    Operated queue (.submit destination) (.submit (queue.submit destination).1)
      (queue.submit destination).2 := by
  unfold submit
  split
  · exact .refused _ _ rfl
  · split
    · exact .refused _ _ rfl
    · rename_i free
      exact .submitted destination (Bool.eq_false_iff.mpr free)

theorem submitIdempotent_operated (queue : CtiRequestQueue width) (destination : WString width)
    (key : IdempotencyKey) (ready : Bool) :
    Operated queue (.submitIdempotent destination key ready)
      (.submitIdempotent (queue.submitIdempotent destination key ready).1)
      (queue.submitIdempotent destination key ready).2 := by
  unfold submitIdempotent
  split
  · exact .refused _ _ nofun
  · split
    · split
      · exact .refused _ _ nofun
      · exact .refused _ _ nofun
    · rename_i unknown
      cases ready with
      | false => exact .refused _ _ nofun
      | true =>
          rw [if_neg (by decide)]
          split
          · exact .refused _ _ nofun
          · rename_i free
            exact .created destination key (Bool.eq_false_iff.mpr free) unknown

/-- A pending request: its record is the newest, queued, and nothing is active. -/
theorem Sound.of_pending {queue : CtiRequestQueue width} (sound : Sound queue)
    {request : CtiPendingRequest width} (pending : queue.pending = some request) :
    queue.active = none ∧ request.id.toNat = queue.lastIssued ∧ 0 < queue.lastIssued ∧
      ∃ older newest, queue.records = older ++ [newest] ∧ newest.id = request.id ∧
        newest.state = .queued ∧ ∀ record ∈ older, record.state.terminal := by
  have slots := sound.slots
  rw [pending] at slots
  generalize active : queue.active = slot, records : queue.records = all at slots
  cases slots with
  | waiting closed same state last positive =>
      exact ⟨rfl, last, positive, _, _, rfl, same, state, closed⟩

/-- An active request: its record is the newest, dispatching, and nothing is pending. -/
theorem Sound.of_active {queue : CtiRequestQueue width} (sound : Sound queue)
    {request : CtiPendingRequest width} (active : queue.active = some request) :
    queue.pending = none ∧ request.id.toNat = queue.lastIssued ∧
      ∃ older newest, queue.records = older ++ [newest] ∧ newest.id = request.id ∧
        newest.state = .dispatching ∧ ∀ record ∈ older, record.state.terminal := by
  have slots := sound.slots
  rw [active] at slots
  generalize pending : queue.pending = slot, records : queue.records = all at slots
  cases slots with
  | dispatching closed same state last =>
      exact ⟨rfl, last, _, _, rfl, same, state, closed⟩

/-- The loops over the records find the newest record, and change it alone. -/
theorem changeFirst_newest {queue : CtiRequestQueue width} (sound : Sound queue)
    {older : List (CtiRequestResult width)} {newest : CtiRequestResult width}
    (records : queue.records = older ++ [newest]) (found : CtiRequestResult width → Bool)
    (only : ∀ record, found record → record.id = newest.id) (last : found newest)
    (state : CtiRequestState) :
    changeFirst found (withState state) queue.records =
      some (older ++ [withState state newest]) := by
  rw [records]
  refine changeFirst_concat (fun record member => ?_) last
  exact Bool.eq_false_iff.mpr fun matched =>
    older_ne_newest sound records record member (only record matched)

theorem take_operated {queue : CtiRequestQueue width} (sound : Sound queue) :
    Operated queue .take (.take queue.take.1) queue.take.2 := by
  unfold take
  cases pending : queue.pending with
  | none => exact .refused _ _ rfl
  | some request =>
      obtain ⟨active, -, -, older, newest, records, same, state, -⟩ := sound.of_pending pending
      have found := changeFirst_newest sound records
        (fun record => record.id = request.id)
        (fun record matched => (of_decide_eq_true matched).trans same.symm)
        (decide_eq_true same) .dispatching
      simp only [active, found]
      have done := Operated.taken pending active records same state
      unfold move at done
      rw [same] at done
      exact done

theorem complete_operated {queue : CtiRequestQueue width} (sound : Sound queue) (id : UInt64)
    (accepted : Bool) :
    Operated queue (.complete id accepted) (.complete (queue.complete id accepted).1)
      (queue.complete id accepted).2 := by
  unfold complete
  cases active : queue.active with
  | none => exact .refused _ _ rfl
  | some request =>
      by_cases other : request.id ≠ id
      · simp only [if_pos other]
        exact .refused _ _ rfl
      · have current : request.id = id := not_not.mp other
        subst current
        obtain ⟨pending, -, older, newest, records, same, state, -⟩ := sound.of_active active
        have found := changeFirst_newest sound records
          (fun record => record.id = request.id)
          (fun record matched => (of_decide_eq_true matched).trans same.symm)
          (decide_eq_true same) (if accepted then .submitted else .rejected)
        simp only [if_neg other, found]
        have done := Operated.completed accepted active pending records same state
        unfold move at done
        rw [same] at done
        simpa only [pending] using done

theorem cancel_operated {queue : CtiRequestQueue width} (sound : Sound queue) (id : UInt64) :
    Operated queue (.cancel id) (.cancel (queue.cancel id).1) (queue.cancel id).2 := by
  unfold cancel
  cases known : queue.records.find? fun record => record.id = id with
  | none => exact .refused _ _ nofun
  | some record =>
      by_cases late : queue.pending.map CtiPendingRequest.id ≠ some id || record.state ≠ .queued
      · simp only [if_pos late]
        exact .refused _ _ nofun
      · simp only [if_neg late]
        simp only [Bool.or_eq_true, decide_eq_true_eq, not_or, not_not] at late
        obtain ⟨request, pending, current⟩ := Option.map_eq_some_iff.mp late.1
        subst current
        obtain ⟨active, -, -, older, newest, records, same, state, -⟩ := sound.of_pending pending
        have found := changeFirst_newest sound records
          (fun record => record.id = request.id)
          (fun record matched => (of_decide_eq_true matched).trans same.symm)
          (decide_eq_true same) .cancelled
        simp only [found]
        have done := Operated.cancelled pending active records same state
        unfold move at done
        rw [same] at done
        simpa only [active] using done

theorem rejectPending_operated {queue : CtiRequestQueue width} (sound : Sound queue) :
    Operated queue .rejectPending (.rejectPending queue.rejectPending.1)
      queue.rejectPending.2 := by
  unfold rejectPending
  cases pending : queue.pending with
  | none => exact .refused _ _ rfl
  | some request =>
      obtain ⟨active, -, -, older, newest, records, same, state, -⟩ := sound.of_pending pending
      have found := changeFirst_newest sound records
        (fun record => record.id = request.id && record.state = .queued)
        (fun record matched => (of_decide_eq_true (Bool.and_eq_true_iff.mp matched).1).trans
          same.symm)
        (Bool.and_eq_true_iff.mpr ⟨decide_eq_true same, decide_eq_true state⟩) .rejected
      simp only [found]
      have done := Operated.rejected pending active records same state
      unfold move at done
      rw [same] at done
      simpa only [active] using done

theorem queueStep_operated {queue : CtiRequestQueue width} (sound : Sound queue)
    (operation : CtiOperation width) :
    Operated queue operation (queueStep queue operation).1 (queueStep queue operation).2 := by
  cases operation with
  | submit destination => exact submit_operated queue destination
  | submitIdempotent destination key ready =>
      exact submitIdempotent_operated queue destination key ready
  | take => exact take_operated sound
  | complete id submitted => exact complete_operated sound id submitted
  | cancel id => exact cancel_operated sound id
  | rejectPending => exact rejectPending_operated sound
  | clear => exact .cleared

theorem occupied_eq_false {queue : CtiRequestQueue width} (free : queue.occupied = false) :
    queue.pending = none ∧ queue.active = none ∧ queue.next ≠ 0 := by
  simp only [occupied, Bool.or_eq_false_iff, Option.isSome_eq_false_iff, Option.isNone_iff_eq_none,
    decide_eq_false_iff_not] at free
  exact ⟨free.1.1, free.1.2, free.2⟩

/-- The identifier about to be issued is one above the last. -/
theorem next_toNat {queue : CtiRequestQueue width} (available : queue.next ≠ 0) :
    queue.next.toNat = queue.lastIssued + 1 := by
  unfold lastIssued
  have positive : queue.next.toNat ≠ 0 := fun zero => available (UInt64.toNat_inj.mp zero)
  have one : (1 : UInt64) ≤ queue.next :=
    UInt64.le_iff_toNat_le.mpr (Nat.one_le_iff_ne_zero.mpr positive)
  rw [UInt64.toNat_sub_of_le _ _ one]
  have unit : (1 : UInt64).toNat = 1 := rfl
  omega

theorem create_lastIssued {queue : CtiRequestQueue width} (available : queue.next ≠ 0)
    (destination : WString width) (key : IdempotencyKey) (recorded : WString width) :
    (queue.create destination key recorded).lastIssued = queue.lastIssued + 1 := by
  unfold create
  rw [appendEvent_lastIssued, ← next_toNat available]
  change (queue.next + 1 - 1).toNat = queue.next.toNat
  congr 1
  grind

theorem create_records (queue : CtiRequestQueue width) (destination : WString width)
    (key : IdempotencyKey) (recorded : WString width) :
    (queue.create destination key recorded).records =
      pushBounded capacity queue.records ⟨queue.next, .queued, key, recorded⟩ := by
  simp [create]

theorem Sound.idle {queue : CtiRequestQueue width} (sound : Sound queue)
    (pending : queue.pending = none) (active : queue.active = none) :
    ∀ record ∈ queue.records, record.state.terminal := by
  have slots := sound.slots
  rw [pending, active] at slots
  cases slots with
  | idle closed => exact closed

theorem sound_create {queue : CtiRequestQueue width} (sound : Sound queue)
    (free : queue.occupied = false) (destination : WString width) (key : IdempotencyKey)
    (recorded : WString width) : Sound (queue.create destination key recorded) := by
  obtain ⟨pending, active, available⟩ := occupied_eq_false free
  obtain ⟨kept, suffix, pushed⟩ := pushBounded_eq_append (by decide : 0 < capacity) queue.records
    ⟨queue.next, .queued, key, recorded⟩
  have next := next_toNat available
  have records := (create_records queue destination key recorded).trans pushed
  refine ⟨?_, ?_, ?_⟩
  · rw [create_lastIssued available, records]
    simp only [create, appendEvent_pending, appendEvent_active, active]
    exact .waiting (fun record member => sound.idle pending active record (suffix.subset member))
      rfl rfl next (Nat.succ_pos _)
  · rw [records, List.pairwise_append]
    refine ⟨sound.ascending.sublist suffix.sublist, List.pairwise_singleton _ _, ?_⟩
    intro record member newest last
    rw [List.mem_singleton.mp last]
    have below := sound.issued record (suffix.subset member)
    have above : record.id.toNat < queue.next.toNat := by omega
    exact UInt64.lt_iff_toNat_lt.mpr above
  · rw [records, create_lastIssued available]
    intro record member
    rcases List.mem_append.mp member with earlier | last
    · exact Nat.le_succ_of_le (sound.issued record (suffix.subset earlier))
    · rw [List.mem_singleton.mp last]
      exact Nat.le_of_eq next

theorem sound_move {queue : CtiRequestQueue width} (sound : Sound queue)
    {older : List (CtiRequestResult width)} {newest : CtiRequestResult width}
    (records : queue.records = older ++ [newest]) {state : CtiRequestState}
    {pending active : Option (CtiPendingRequest width)}
    (slots : Slots queue.lastIssued pending active (older ++ [withState state newest])) :
    Sound (queue.move pending active older newest state) := by
  have identifiers : (older ++ [withState state newest]).map CtiRequestResult.id =
      queue.records.map CtiRequestResult.id := by
    rw [records]
    simp [withState]
  refine ⟨?_, ?_, ?_⟩
  · simpa [move, lastIssued] using slots
  · have ascending := sound.ascending
    rw [← List.pairwise_map (f := CtiRequestResult.id) (R := (· < ·)), ← identifiers,
      List.pairwise_map] at ascending
    simpa [move] using ascending
  · intro record member
    have named : record.id ∈ queue.records.map CtiRequestResult.id := by
      rw [← identifiers]
      exact List.mem_map_of_mem (by simpa [move] using member)
    obtain ⟨original, there, same⟩ := List.mem_map.mp named
    have bound := sound.issued original there
    simpa [move, lastIssued, same] using bound

theorem closed_move {older : List (CtiRequestResult width)} {newest : CtiRequestResult width}
    {state : CtiRequestState} (closed : ∀ record ∈ older, record.state.terminal)
    (terminal : state.terminal) :
    ∀ record ∈ older ++ [withState state newest], record.state.terminal := by
  intro record member
  rcases List.mem_append.mp member with earlier | last
  · exact closed record earlier
  · rw [List.mem_singleton.mp last]
    exact terminal

/-- Every operation keeps the queue sound. -/
theorem sound_operated {queue after : CtiRequestQueue width} {operation : CtiOperation width}
    {answer : CtiAnswer width} (sound : Sound queue)
    (operated : Operated queue operation answer after) : Sound after := by
  cases operated with
  | refused operation answer failed => exact sound
  | submitted destination free => exact sound_create sound free destination [] []
  | created destination key free unknown => exact sound_create sound free destination key _
  | taken pending active records same state =>
      obtain ⟨-, last, -, older, newest, records', -, -, closed⟩ := sound.of_pending pending
      obtain ⟨rfl, -⟩ := List.append_inj' (records.symm.trans records') rfl
      exact sound_move sound records (.dispatching closed same rfl last)
  | completed accepted active pending records same state =>
      obtain ⟨-, -, older, newest, records', -, -, closed⟩ := sound.of_active active
      obtain ⟨rfl, -⟩ := List.append_inj' (records.symm.trans records') rfl
      exact sound_move sound records (.idle (closed_move closed (by cases accepted <;> rfl)))
  | cancelled pending active records same state =>
      obtain ⟨-, -, -, older, newest, records', -, -, closed⟩ := sound.of_pending pending
      obtain ⟨rfl, -⟩ := List.append_inj' (records.symm.trans records') rfl
      exact sound_move sound records (.idle (closed_move closed rfl))
  | rejected pending active records same state =>
      obtain ⟨-, -, -, older, newest, records', -, -, closed⟩ := sound.of_pending pending
      obtain ⟨rfl, -⟩ := List.append_inj' (records.symm.trans records') rfl
      exact sound_move sound records (.idle (closed_move closed rfl))
  | cleared => exact ⟨.idle nofun, List.Pairwise.nil, nofun⟩

theorem queueStep_sound (queue : CtiRequestQueue width) (operation : CtiOperation width)
    (sound : Sound queue) : Sound (queueStep queue operation).2 :=
  sound_operated sound (queueStep_operated sound operation)

end AxeVoice.Cti
