import AxeVoice.Cti.Slots
import AxeVoice.Foundation.HighWater

/-!
# The life cycle of a request

Over a run of the queue's operations: identifiers are issued and handed out in
increasing order, a recorded state changes along the life cycle only, every
change appends one event, and an operation that reports failure changes nothing.
-/

namespace AxeVoice.Cti

open Foundation CtiRequestQueue

variable {width : WCharWidth}

abbrev QueueStage (width : WCharWidth) :=
  Stage (CtiRequestQueue width) (CtiOperation width) (CtiAnswer width)

/-- The state under which the queue would report the request. -/
def CtiRequestQueue.stateOf (queue : CtiRequestQueue width) (id : UInt64) :
    Option CtiRequestState :=
  (queue.get id).map CtiRequestResult.state

section Lookup

variable {older records kept : List (CtiRequestResult width)} {newest : CtiRequestResult width}

theorem find_concat_self {id : UInt64} (others : ∀ record ∈ older, record.id ≠ id)
    (same : newest.id = id) :
    (older ++ [newest]).find? (fun record => record.id = id) = some newest := by
  rw [List.find?_append, List.find?_eq_none.mpr]
  · simp [same]
  · intro record member
    simpa using others record member

theorem find_concat_other {id : UInt64} (other : newest.id ≠ id) :
    (older ++ [newest]).find? (fun record => record.id = id) =
      older.find? fun record => record.id = id := by
  rw [List.find?_append]
  simp [other]

/-- A suffix of records with distinct identifiers forgets a record, or finds the same. -/
theorem find_suffix (ascending : records.Pairwise fun first second => first.id < second.id)
    (suffix : kept <:+ records) (id : UInt64) :
    kept.find? (fun record => record.id = id) = records.find? (fun record => record.id = id) ∨
      kept.find? (fun record => record.id = id) = none := by
  obtain ⟨dropped, rfl⟩ := suffix
  cases found : kept.find? fun record => record.id = id with
  | none => exact .inr rfl
  | some record =>
      left
      have member := List.mem_of_find?_eq_some found
      have same : record.id = id := by simpa using List.find?_some found
      rw [List.find?_append, List.find?_eq_none.mpr, Option.none_or, found]
      intro older earlier
      have below := (List.pairwise_append.mp ascending).2.2 older earlier record member
      rw [same] at below
      simpa using UInt64.ne_of_lt below

end Lookup

theorem stateOf_eq_none {queue : CtiRequestQueue width} (sound : Sound queue) {id : UInt64}
    (above : queue.lastIssued < id.toNat) : queue.stateOf id = none := by
  simp only [stateOf, CtiRequestQueue.get, Option.map_eq_none_iff, List.find?_eq_none, decide_eq_true_eq]
  intro record member same
  have bound := sound.issued record member
  rw [same] at bound
  omega

theorem le_lastIssued_of_stateOf {queue : CtiRequestQueue width} (sound : Sound queue)
    {id : UInt64} (known : (queue.stateOf id).isSome) : id.toNat ≤ queue.lastIssued := by
  by_contra above
  rw [stateOf_eq_none sound (Nat.lt_of_not_le above)] at known
  cases known

/-- The event ring and its counter after an event for `id` and `state`. -/
structure Appended (queue after : CtiRequestQueue width) (id : UInt64)
    (state : CtiRequestState) : Prop where
  exhausted : queue.eventSequence = maxSequence →
    after.eventSequence = queue.eventSequence ∧ after.events = queue.events
  numbered : queue.eventSequence ≠ maxSequence →
    after.eventSequence = queue.eventSequence + 1 ∧
      after.events = pushBounded eventCapacity queue.events ⟨queue.eventSequence + 1, id, state⟩

theorem appended_appendEvent {queue changed : CtiRequestQueue width}
    (events : changed.events = queue.events)
    (sequence : changed.eventSequence = queue.eventSequence) (id : UInt64)
    (state : CtiRequestState) : Appended queue (changed.appendEvent id state) id state := by
  unfold appendEvent
  rw [sequence]
  constructor
  · intro full
    rw [if_pos full]
    exact ⟨sequence, events⟩
  · intro available
    rw [if_neg available]
    exact ⟨rfl, by rw [events]⟩

theorem create_appended (queue : CtiRequestQueue width) (destination : WString width)
    (key : IdempotencyKey) (recorded : WString width) :
    Appended queue (queue.create destination key recorded) queue.next .queued := by
  unfold create
  apply appended_appendEvent <;> rfl

theorem move_appended (queue : CtiRequestQueue width)
    (pending active : Option (CtiPendingRequest width)) (older : List (CtiRequestResult width))
    (newest : CtiRequestResult width) (state : CtiRequestState) :
    Appended queue (queue.move pending active older newest state) newest.id state := by
  unfold move
  apply appended_appendEvent <;> rfl

/-- The identifier an answer issues. -/
def CtiAnswer.issued : CtiAnswer width → Option UInt64
  | .submit id => id
  | .submitIdempotent result => if result.outcome = .created then some result.id else none
  | _ => none

/-- The request an answer hands out. -/
def CtiAnswer.handedOut : CtiAnswer width → Option (CtiPendingRequest width)
  | .take request => request
  | _ => none

/-- The records and events of a queue before and after an operation. -/
inductive Recorded (queue : CtiRequestQueue width) (operation : CtiOperation width)
    (answer : CtiAnswer width) (after : CtiRequestQueue width) : Prop
  | nothing (unchanged : after = queue)
  | forgotten (clear : operation = .clear) (cleared : after = queue.clear)
  | issued (id : UInt64) (issue : answer.issued = some id) (fresh : id.toNat = queue.lastIssued + 1)
      (counted : after.lastIssued = id.toNat) (recorded : after.stateOf id = some .queued)
      (others : ∀ other, other ≠ id →
        after.stateOf other = queue.stateOf other ∨ after.stateOf other = none)
      (event : Appended queue after id .queued)
  | moved (id : UInt64) (old new : CtiRequestState) (moves : Moves old new)
      (counted : after.lastIssued = queue.lastIssued) (known : queue.stateOf id = some old)
      (recorded : after.stateOf id = some new)
      (others : ∀ other, other ≠ id → after.stateOf other = queue.stateOf other)
      (event : Appended queue after id new)

theorem recorded_create {queue : CtiRequestQueue width} (sound : Sound queue)
    (free : queue.occupied = false) (destination : WString width) (key : IdempotencyKey)
    (recorded : WString width) (operation : CtiOperation width) {answer : CtiAnswer width}
    (issue : answer.issued = some queue.next) :
    Recorded queue operation answer (queue.create destination key recorded) := by
  obtain ⟨pending, active, available⟩ := occupied_eq_false free
  obtain ⟨kept, suffix, pushed⟩ := pushBounded_eq_append (by decide : 0 < capacity) queue.records
    ⟨queue.next, .queued, key, recorded⟩
  have records := (create_records queue destination key recorded).trans pushed
  have next := next_toNat available
  refine .issued queue.next issue next ((create_lastIssued available _ _ _).trans next.symm) ?_ ?_
    (create_appended queue destination key recorded)
  · have others : ∀ record ∈ kept, record.id ≠ queue.next := by
      intro record member same
      have bound := sound.issued record (suffix.subset member)
      rw [same] at bound
      omega
    simp only [stateOf, CtiRequestQueue.get, records]
    rw [find_concat_self others]
    · rfl
    · rfl
  · intro other different
    simp only [stateOf, CtiRequestQueue.get, records]
    rw [find_concat_other different.symm]
    rcases find_suffix sound.ascending suffix other with same | none_
    · exact .inl (congrArg _ same)
    · exact .inr (by rw [none_]; rfl)

theorem recorded_move {queue : CtiRequestQueue width} (sound : Sound queue)
    {older : List (CtiRequestResult width)} {newest : CtiRequestResult width}
    (records : queue.records = older ++ [newest]) {state : CtiRequestState}
    (moves : Moves newest.state state) (pending active : Option (CtiPendingRequest width))
    (operation : CtiOperation width) (answer : CtiAnswer width) :
    Recorded queue operation answer (queue.move pending active older newest state) := by
  have others := older_ne_newest sound records
  refine .moved newest.id newest.state state moves (by simp [move, lastIssued]) ?_ ?_ ?_
    (move_appended queue pending active older newest state)
  · simp only [stateOf, CtiRequestQueue.get, records]
    rw [find_concat_self others]
    · rfl
    · rfl
  · simp only [stateOf, CtiRequestQueue.get, move, appendEvent_records]
    rw [find_concat_self others]
    · rfl
    · rfl
  · intro other different
    simp only [stateOf, CtiRequestQueue.get, move, appendEvent_records, records]
    rw [find_concat_other different.symm, find_concat_other]
    exact different.symm

theorem operated_recorded {queue after : CtiRequestQueue width} {operation : CtiOperation width}
    {answer : CtiAnswer width} (sound : Sound queue)
    (operated : Operated queue operation answer after) :
    Recorded queue operation answer after := by
  cases operated with
  | refused operation answer failed => exact .nothing rfl
  | submitted destination free => exact recorded_create sound free destination [] [] _ rfl
  | created destination key free unknown => exact recorded_create sound free destination key _ _ rfl
  | taken pending active records same state =>
      exact recorded_move sound records (state ▸ .dispatched) _ _ _ _
  | completed accepted active pending records same state =>
      refine recorded_move sound records ?_ _ _ _ _
      rw [state]
      cases accepted with
      | true => exact .submitted
      | false => exact .rejected
  | cancelled pending active records same state =>
      exact recorded_move sound records (state ▸ .cancelled) _ _ _ _
  | rejected pending active records same state =>
      exact recorded_move sound records (state ▸ .withdrawn) _ _ _ _
  | cleared => exact .forgotten rfl rfl

theorem issued_of_failed {answer : CtiAnswer width} (failed : answer.Failed) :
    answer.issued = none := by
  cases answer with
  | submit id => exact failed
  | submitIdempotent result => exact if_neg failed
  | take | complete | cancel | rejectPending => rfl
  | clear => exact failed.elim

theorem handedOut_of_failed {answer : CtiAnswer width} (failed : answer.Failed) :
    answer.handedOut = none := by
  cases answer with
  | take request => exact failed
  | submit | submitIdempotent | complete | cancel | rejectPending => rfl
  | clear => exact failed.elim

theorem lastIssued_le {queue after : CtiRequestQueue width} {operation : CtiOperation width}
    {answer : CtiAnswer width} (recorded : Recorded queue operation answer after) :
    queue.lastIssued ≤ after.lastIssued := by
  cases recorded with
  | nothing unchanged => rw [unchanged]
  | forgotten clear cleared => rw [cleared]; exact Nat.le_refl _
  | issued id issue fresh counted recorded others event => omega
  | moved id old new moves counted known recorded others event => omega

theorem operated_issued {queue after : CtiRequestQueue width} {operation : CtiOperation width}
    {answer : CtiAnswer width} (operated : Operated queue operation answer after) {id : UInt64}
    (issued : answer.issued = some id) :
    id.toNat = queue.lastIssued + 1 ∧ after.lastIssued = id.toNat := by
  cases operated with
  | refused operation answer failed =>
      rw [issued_of_failed failed] at issued
      cases issued
  | submitted destination free =>
      cases issued
      have available := (occupied_eq_false free).2.2
      exact ⟨next_toNat available, (create_lastIssued available _ _ _).trans
        (next_toNat available).symm⟩
  | created destination key free unknown =>
      cases issued
      have available := (occupied_eq_false free).2.2
      exact ⟨next_toNat available, (create_lastIssued available _ _ _).trans
        (next_toNat available).symm⟩
  | taken | completed | cancelled | rejected | cleared => cases issued

def issuedId (stage : QueueStage width) : Option UInt64 := stage.output.issued

def handedOut (stage : QueueStage width) : Option (CtiPendingRequest width) :=
  stage.output.handedOut

/-- The last identifier issued is a high-water mark of the identifiers issued. -/
theorem issued_highWater :
    HighWater (@queueStep width) Sound lastIssued
      fun stage => (issuedId stage).map UInt64.toNat where
  preserved := queueStep_sound
  rises queue operation sound :=
    lastIssued_le (operated_recorded sound (queueStep_operated sound operation))
  above queue operation sound value mapped := by
    obtain ⟨id, issued, rfl⟩ := Option.map_eq_some_iff.mp mapped
    have next := (operated_issued (queueStep_operated sound operation) issued).1
    omega
  reached queue operation sound value mapped := by
    obtain ⟨id, issued, rfl⟩ := Option.map_eq_some_iff.mp mapped
    exact Nat.le_of_eq (operated_issued (queueStep_operated sound operation) issued).2.symm

/-- The last identifier that can no longer be handed out. -/
def CtiRequestQueue.lastPassed (queue : CtiRequestQueue width) : ℕ :=
  if queue.pending.isSome then queue.lastIssued - 1 else queue.lastIssued

theorem lastPassed_le {queue after : CtiRequestQueue width} {operation : CtiOperation width}
    {answer : CtiAnswer width} (sound : Sound queue)
    (operated : Operated queue operation answer after) : queue.lastPassed ≤ after.lastPassed := by
  have kept := lastIssued_le (operated_recorded sound operated)
  have least : queue.lastPassed ≤ queue.lastIssued := by
    unfold lastPassed
    split <;> omega
  have created (destination : WString width) (key : IdempotencyKey) (recorded : WString width)
      (free : queue.occupied = false) :
      queue.lastPassed ≤ (queue.create destination key recorded).lastPassed := by
    have issued := create_lastIssued (occupied_eq_false free).2.2 destination key recorded
    unfold lastPassed at least ⊢
    rw [issued]
    split <;> split <;> omega
  have emptied (pending : after.pending = none) : queue.lastPassed ≤ after.lastPassed := by
    rw [show after.lastPassed = after.lastIssued by simp [lastPassed, pending]]
    omega
  cases operated with
  | refused operation answer failed => exact Nat.le_refl _
  | submitted destination free => exact created _ _ _ free
  | created destination key free unknown => exact created _ _ _ free
  | taken | completed | cancelled | rejected => exact emptied (by simp [move])
  | cleared => exact emptied rfl

theorem operated_handedOut {queue after : CtiRequestQueue width} {operation : CtiOperation width}
    {answer : CtiAnswer width} (sound : Sound queue)
    (operated : Operated queue operation answer after) {request : CtiPendingRequest width}
    (handed : answer.handedOut = some request) :
    queue.lastPassed < request.id.toNat ∧ request.id.toNat ≤ after.lastPassed := by
  cases operated with
  | refused operation answer failed =>
      rw [handedOut_of_failed failed] at handed
      cases handed
  | taken pending active records same state =>
      cases handed
      obtain ⟨-, last, positive, -⟩ := sound.of_pending pending
      constructor
      · simp only [lastPassed, pending, Option.isSome_some, if_true]
        omega
      · simp only [lastPassed, move, appendEvent_pending, appendEvent_lastIssued,
          Option.isSome_none, Bool.false_eq_true, if_false]
        exact Nat.le_of_eq last
  | submitted | created | completed | cancelled | rejected | cleared => cases handed

/-- What can no longer be handed out is a high-water mark of the requests handed out. -/
theorem handedOut_highWater :
    HighWater (@queueStep width) Sound lastPassed
      fun stage => (handedOut stage).map fun request => request.id.toNat where
  preserved := queueStep_sound
  rises queue operation sound := lastPassed_le sound (queueStep_operated sound operation)
  above queue operation sound value mapped := by
    obtain ⟨request, handed, rfl⟩ := Option.map_eq_some_iff.mp mapped
    exact (operated_handedOut sound (queueStep_operated sound operation) handed).1
  reached queue operation sound value mapped := by
    obtain ⟨request, handed, rfl⟩ := Option.map_eq_some_iff.mp mapped
    exact (operated_handedOut sound (queueStep_operated sound operation) handed).2

/-! ## A run -/

/-- The slot's request is recorded last, in `state`, where every lookup finds it. -/
def CtiRequestQueue.RecordedLast (queue : CtiRequestQueue width)
    (request : CtiPendingRequest width) (state : CtiRequestState) : Prop :=
  ∃ newest, queue.records.getLast? = some newest ∧ newest.id = request.id ∧
    newest.state = state ∧ queue.get request.id = some newest

/-- At most one request is in flight, and its record is the newest. -/
structure InFlight (queue : CtiRequestQueue width) : Prop where
  exclusive : queue.pending = none ∨ queue.active = none
  pending : ∀ request, queue.pending = some request → queue.RecordedLast request .queued
  active : ∀ request, queue.active = some request → queue.RecordedLast request .dispatching

/-- How the recorded state of a request may change in a stage. -/
inductive NextState (stage : QueueStage width) (id : UInt64) :
    Option CtiRequestState → Option CtiRequestState → Prop
  | absent : NextState stage id none none
  | issued (answer : issuedId stage = some id) : NextState stage id none (some .queued)
  | kept (state : CtiRequestState) : NextState stage id (some state) (some state)
  | moved {old new : CtiRequestState} (moves : Moves old new) :
      NextState stage id (some old) (some new)
  | forgotten (state : CtiRequestState)
      (cause : stage.input = .clear ∨ (issuedId stage).isSome) :
      NextState stage id (some state) none

/-- The stage is a transition of this request to this state. -/
def Transition (stage : QueueStage width) (id : UInt64) (state : CtiRequestState) : Prop :=
  stage.after.stateOf id = some state ∧ stage.before.stateOf id ≠ some state

/-- No transition and no event but by clearing, or one transition and its event. -/
inductive EventPerTransition (stage : QueueStage width) : Prop
  | quiet (none_ : ∀ id state, ¬ Transition stage id state)
      (counter : stage.after.eventSequence = stage.before.eventSequence)
      (events : stage.after.events = stage.before.events ∨
        (stage.input = .clear ∧ stage.after.events = []))
  | event (id : UInt64) (state : CtiRequestState) (transition : Transition stage id state)
      (only : ∀ id' state', Transition stage id' state' → id' = id ∧ state' = state)
      (appended : Appended stage.before stage.after id state)

/-- The calls that report failure for want of a request in the right slot. -/
def CtiAnswer.Unserved : CtiAnswer width → Prop
  | .complete done => done = false
  | .cancel outcome => outcome ≠ .cancelled
  | .rejectPending done => done = false
  | _ => False

/-- What the runs of a request queue look like. -/
structure LifeCycle (run : List (QueueStage width)) : Prop where
  inFlight : ∀ stage ∈ run, InFlight stage.after
  fresh : run.Pairwise fun earlier later =>
    ∀ id ∈ issuedId earlier, ∀ id' ∈ issuedId later, id < id'
  onceTaken : run.Pairwise fun earlier later =>
    ∀ request ∈ handedOut earlier, ∀ request' ∈ handedOut later, request.id < request'.id
  legal : ∀ stage ∈ run, ∀ id,
    NextState stage id (stage.before.stateOf id) (stage.after.stateOf id)
  gone : run.Pairwise fun earlier later => ∀ id, (earlier.before.stateOf id).isSome →
    earlier.after.stateOf id = none → later.after.stateOf id = none
  events : ∀ stage ∈ run, EventPerTransition stage
  unserved : ∀ stage ∈ run, stage.output.Unserved → stage.after = stage.before

theorem sound_inFlight {queue : CtiRequestQueue width} (sound : Sound queue) : InFlight queue := by
  have recorded {request : CtiPendingRequest width} {older : List (CtiRequestResult width)}
      {newest : CtiRequestResult width} (records : queue.records = older ++ [newest])
      (same : newest.id = request.id) : queue.RecordedLast request newest.state := by
    refine ⟨newest, by simp [records], same, rfl, ?_⟩
    have others := older_ne_newest sound records
    rw [same] at others
    simp only [CtiRequestQueue.get, records]
    exact find_concat_self others same
  refine ⟨?_, fun request pending => ?_, fun request active => ?_⟩
  · cases pending : queue.pending with
    | none => exact .inl rfl
    | some request => exact .inr (sound.of_pending pending).1
  · obtain ⟨-, -, -, older, newest, records, same, state, -⟩ := sound.of_pending pending
    exact state ▸ recorded records same
  · obtain ⟨-, -, older, newest, records, same, state, -⟩ := sound.of_active active
    exact state ▸ recorded records same

theorem stateOf_clear (queue : CtiRequestQueue width) (id : UInt64) :
    queue.clear.stateOf id = none := rfl

theorem moves_ne {old new : CtiRequestState} (moves : Moves old new) : old ≠ new := by
  cases moves <;> exact nofun

section Stage

variable (queue : CtiRequestQueue width) (operation : CtiOperation width) (sound : Sound queue)

include sound

theorem queueStep_recorded :
    Recorded queue operation (queueStep queue operation).1 (queueStep queue operation).2 :=
  operated_recorded sound (queueStep_operated sound operation)

theorem queueStep_event : EventPerTransition (stageOf queueStep queue operation) := by
  have shown (id : UInt64) (state : CtiRequestState)
      (transition : Transition (stageOf queueStep queue operation) id state) :
      (queueStep queue operation).2.stateOf id = some state ∧ queue.stateOf id ≠ some state :=
    transition
  cases queueStep_recorded queue operation sound with
  | nothing unchanged =>
      rw [unchanged] at shown
      refine .quiet (fun id state transition => ?_) (congrArg eventSequence unchanged)
        (.inl (congrArg events unchanged))
      exact (shown id state transition).2 (shown id state transition).1
  | forgotten clear cleared =>
      rw [cleared] at shown
      refine .quiet (fun id state transition => ?_) ?_ (.inr ⟨clear, congrArg events cleared⟩)
      · cases (stateOf_clear queue id).symm.trans (shown id state transition).1
      · change (queueStep queue operation).2.eventSequence = queue.eventSequence
        rw [cleared]
        rfl
  | issued id issue fresh counted recorded others event =>
      have unknown : queue.stateOf id = none := stateOf_eq_none sound (by omega)
      have transition : Transition (stageOf queueStep queue operation) id .queued := by
        refine ⟨recorded, fun known => ?_⟩
        cases unknown.symm.trans known
      refine .event id .queued transition (fun id' state' other => ?_) event
      obtain ⟨after, before⟩ := shown id' state' other
      by_cases same : id' = id
      · subst same
        exact ⟨rfl, (Option.some.inj (recorded.symm.trans after)).symm⟩
      · rcases others id' same with kept | lost
        · exact absurd (kept.symm.trans after) before
        · cases lost.symm.trans after
  | moved id old new moves counted known recorded others event =>
      have transition : Transition (stageOf queueStep queue operation) id new := by
        refine ⟨recorded, fun already => ?_⟩
        exact moves_ne moves (Option.some.inj (known.symm.trans already))
      refine .event id new transition (fun id' state' other => ?_) event
      obtain ⟨after, before⟩ := shown id' state' other
      by_cases same : id' = id
      · subst same
        exact ⟨rfl, (Option.some.inj (recorded.symm.trans after)).symm⟩
      · exact absurd ((others id' same).symm.trans after) before

theorem queueStep_nextState (id : UInt64) :
    NextState (stageOf queueStep queue operation) id (queue.stateOf id)
      ((queueStep queue operation).2.stateOf id) := by
  have lost (cause : operation = .clear ∨ (issuedId (stageOf queueStep queue operation)).isSome)
      (gone : (queueStep queue operation).2.stateOf id = none) :
      NextState (stageOf queueStep queue operation) id (queue.stateOf id)
        ((queueStep queue operation).2.stateOf id) := by
    rw [gone]
    cases queue.stateOf id with
    | none => exact .absent
    | some state => exact .forgotten state cause
  have kept (same : (queueStep queue operation).2.stateOf id = queue.stateOf id) :
      NextState (stageOf queueStep queue operation) id (queue.stateOf id)
        ((queueStep queue operation).2.stateOf id) := by
    rw [same]
    cases queue.stateOf id with
    | none => exact .absent
    | some state => exact .kept state
  cases queueStep_recorded queue operation sound with
  | nothing unchanged => exact kept (by rw [unchanged])
  | forgotten clear cleared => exact lost (.inl clear) (by rw [cleared, stateOf_clear])
  | issued issue_ issue fresh counted recorded others event =>
      by_cases same : id = issue_
      · subst same
        rw [recorded, stateOf_eq_none sound (by omega)]
        exact .issued issue
      · rcases others id same with same | gone
        · exact kept same
        · refine lost (.inr ?_) gone
          change (queueStep queue operation).1.issued.isSome
          rw [issue]
          rfl
  | moved moved_ old new moves counted known recorded others event =>
      by_cases same : id = moved_
      · subst same
        rw [recorded, known]
        exact .moved moves
      · exact kept (others id same)

/-- A forgotten request is not recorded again. -/
theorem queueStep_gone {id : UInt64} (issued : id.toNat ≤ queue.lastIssued)
    (gone : queue.stateOf id = none) :
    id.toNat ≤ (queueStep queue operation).2.lastIssued ∧
      (queueStep queue operation).2.stateOf id = none := by
  have recorded := queueStep_recorded queue operation sound
  refine ⟨issued.trans (lastIssued_le recorded), ?_⟩
  cases recorded with
  | nothing unchanged => rw [unchanged, gone]
  | forgotten clear cleared => rw [cleared, stateOf_clear]
  | issued other issue fresh counted recorded others event =>
      have different : id ≠ other := by
        rintro rfl
        omega
      rcases others id different with same | lost
      · rw [same, gone]
      · exact lost
  | moved other old new moves counted known recorded others event =>
      have different : id ≠ other := by
        rintro rfl
        cases gone.symm.trans known
      rw [others id different, gone]

theorem queueStep_unserved
    (unserved : (queueStep queue operation).1.Unserved) :
    (queueStep queue operation).2 = queue := by
  have operated := queueStep_operated sound operation
  generalize (queueStep queue operation).1 = answer at operated unserved
  generalize (queueStep queue operation).2 = after at operated
  cases operated with
  | refused operation answer failed => rfl
  | submitted | created | taken | cleared => exact unserved.elim
  | completed => cases unserved
  | rejected => cases unserved
  | cancelled => exact absurd rfl unserved

end Stage

/--
The life cycle of CTI requests: every run of the queue's operations, from a new
queue, keeps one request in flight at most, issues and hands out identifiers in
increasing order, moves recorded states along the life cycle with one event for
each move, and is left alone by calls that report failure.
-/
theorem request_lifeCycle (operations : List (CtiOperation width)) :
    LifeCycle (stages queueStep ({} : CtiRequestQueue width) operations) where
  inFlight := stages_forall queueStep_sound
    (fun queue operation sound => sound_inFlight (queueStep_sound queue operation sound))
    sound_initial operations
  fresh := by
    refine (issued_highWater.issued_increasing _ sound_initial operations).imp ?_
    intro earlier later increasing id issued id' issued'
    exact UInt64.lt_iff_toNat_lt.mpr
      (increasing _ (Option.mem_map_of_mem _ issued) _ (Option.mem_map_of_mem _ issued'))
  onceTaken := by
    refine (handedOut_highWater.issued_increasing _ sound_initial operations).imp ?_
    intro earlier later increasing request handed request' handed'
    exact UInt64.lt_iff_toNat_lt.mpr
      (increasing _ (Option.mem_map.mpr ⟨request, handed, rfl⟩) _
        (Option.mem_map.mpr ⟨request', handed', rfl⟩))
  legal := stages_forall queueStep_sound queueStep_nextState sound_initial operations
  gone := by
    refine stages_pairwise Sound
      (fun earlier current => ∀ id, (earlier.before.stateOf id).isSome →
        earlier.after.stateOf id = none →
        id.toNat ≤ current.lastIssued ∧ current.stateOf id = none) _
      queueStep_sound ?_ ?_ ?_ sound_initial operations
    · intro queue operation sound id known gone
      have issued := le_lastIssued_of_stateOf sound known
      exact ⟨issued.trans (lastIssued_le (queueStep_recorded queue operation sound)), gone⟩
    · intro earlier queue operation sound remembered id known gone
      obtain ⟨issued, still⟩ := remembered id known gone
      exact queueStep_gone queue operation sound issued still
    · intro earlier queue operation sound remembered id known gone
      obtain ⟨issued, still⟩ := remembered id known gone
      exact (queueStep_gone queue operation sound issued still).2
  events := stages_forall queueStep_sound queueStep_event sound_initial operations
  unserved := stages_forall queueStep_sound queueStep_unserved sound_initial operations

end AxeVoice.Cti
