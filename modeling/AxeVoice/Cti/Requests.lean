import AxeVoice.Foundation.BoundedRing
import AxeVoice.Foundation.Reactive
import AxeVoice.Foundation.WideString

/-!
# The CTI request queue

Calls requested over the local CTI interface wait in one slot for the user
interface, are dispatched through another, and leave a bounded history: the
records of the newest requests and the newest transitions of their states.
Every operation holds the queue's lock, so it is a step of its own.
-/

namespace AxeVoice.Cti

open Foundation

variable {width : WCharWidth}

abbrev IdempotencyKey := List UInt8

inductive CtiRequestState where
  | queued
  | dispatching
  | submitted
  | rejected
  | cancelled
  deriving DecidableEq, Repr

inductive CtiCancelOutcome where
  | cancelled
  | notFound
  | tooLate
  deriving DecidableEq, Repr

inductive CtiSubmitOutcome where
  | created
  | replayed
  | keyConflict
  | busy
  | notReady
  deriving DecidableEq, Repr

structure CtiSubmitResult where
  outcome : CtiSubmitOutcome := .busy
  id : UInt64 := 0
  state : CtiRequestState := .queued
  deriving DecidableEq, Repr

structure CtiPendingRequest (width : WCharWidth) where
  id : UInt64 := 0
  destination : WString width
  deriving DecidableEq, Repr

structure CtiRequestResult (width : WCharWidth) where
  id : UInt64 := 0
  state : CtiRequestState := .queued
  idempotencyKey : IdempotencyKey := []
  idempotencyDestination : WString width := []
  deriving DecidableEq, Repr

structure CtiRequestTransition where
  sequence : UInt64 := 0
  requestId : UInt64 := 0
  state : CtiRequestState := .queued
  deriving DecidableEq, Repr

structure CtiRequestEventsPage where
  latestSequence : UInt64 := 0
  oldestSequence : UInt64 := 0
  gap : Bool := false
  events : List CtiRequestTransition := []
  deriving DecidableEq, Repr

structure CtiRequestQueue (width : WCharWidth) where
  next : UInt64 := 1
  pending : Option (CtiPendingRequest width) := none
  active : Option (CtiPendingRequest width) := none
  records : List (CtiRequestResult width) := []
  events : List CtiRequestTransition := []
  eventSequence : UInt64 := 0
  deriving DecidableEq, Repr

namespace CtiRequestQueue

def capacity : ℕ := 32

def eventCapacity : ℕ := 64

def maxSequence : UInt64 := 0xFFFFFFFFFFFFFFFF

/-- `append_event_locked`: nothing is recorded once the sequence is exhausted. -/
def appendEvent (queue : CtiRequestQueue width) (id : UInt64) (state : CtiRequestState) :
    CtiRequestQueue width :=
  if queue.eventSequence = maxSequence then queue
  else
    { queue with
      eventSequence := queue.eventSequence + 1
      events := pushBounded eventCapacity queue.events ⟨queue.eventSequence + 1, id, state⟩ }

def occupied (queue : CtiRequestQueue width) : Bool :=
  queue.pending.isSome || queue.active.isSome || queue.next = 0

/-- The part of both submissions that issues an identifier. -/
def create (queue : CtiRequestQueue width) (destination : WString width) (key : IdempotencyKey)
    (recorded : WString width) : CtiRequestQueue width :=
  { queue with
    next := queue.next + 1
    pending := some ⟨queue.next, destination⟩
    records := pushBounded capacity queue.records ⟨queue.next, .queued, key, recorded⟩ }.appendEvent
      queue.next .queued

def submit (queue : CtiRequestQueue width) (destination : WString width) :
    Option UInt64 × CtiRequestQueue width :=
  if destination.isEmpty then (none, queue)
  else if queue.occupied then (none, queue)
  else (some queue.next, queue.create destination [] [])

/-- The record under a retry key. -/
def keyed (queue : CtiRequestQueue width) (key : IdempotencyKey) :
    Option (CtiRequestResult width) :=
  if key.isEmpty then none else queue.records.find? fun record => record.idempotencyKey = key

def submitIdempotent (queue : CtiRequestQueue width) (destination : WString width)
    (key : IdempotencyKey) (ready : Bool) : CtiSubmitResult × CtiRequestQueue width :=
  if destination.isEmpty then (⟨.busy, 0, .queued⟩, queue)
  else
    -- duplicates come before readiness and capacity
    match queue.keyed key with
    | some record =>
        if record.idempotencyDestination ≠ destination then
          (⟨.keyConflict, record.id, record.state⟩, queue)
        else (⟨.replayed, record.id, record.state⟩, queue)
    | none =>
        if !ready then (⟨.notReady, 0, .queued⟩, queue)
        else if queue.occupied then (⟨.busy, 0, .queued⟩, queue)
        else
          (⟨.created, queue.next, .queued⟩,
            queue.create destination key (if key.isEmpty then [] else destination))

def withState (state : CtiRequestState) (record : CtiRequestResult width) :
    CtiRequestResult width :=
  { record with state := state }

def rejectPending (queue : CtiRequestQueue width) : Bool × CtiRequestQueue width :=
  match queue.pending with
  | none => (false, queue)
  | some request =>
      let queue := { queue with pending := none }
      match changeFirst (fun record => record.id = request.id && record.state = .queued)
          (withState .rejected) queue.records with
      | some records => (true, { queue with records := records }.appendEvent request.id .rejected)
      | none => (false, queue)

def take (queue : CtiRequestQueue width) :
    Option (CtiPendingRequest width) × CtiRequestQueue width :=
  match queue.pending, queue.active with
  | some request, none =>
      let queue := { queue with active := some request, pending := none }
      match changeFirst (fun record => record.id = request.id) (withState .dispatching)
          queue.records with
      | some records =>
          (some request, { queue with records := records }.appendEvent request.id .dispatching)
      | none => (some request, queue)
  | _, _ => (none, queue)

def complete (queue : CtiRequestQueue width) (id : UInt64) (submitted : Bool) :
    Bool × CtiRequestQueue width :=
  match queue.active with
  | none => (false, queue)
  | some request =>
      if request.id ≠ id then (false, queue)
      else
        let queue := { queue with active := none }
        let state : CtiRequestState := if submitted then .submitted else .rejected
        match changeFirst (fun record => record.id = id) (withState state) queue.records with
        | some records => (true, { queue with records := records }.appendEvent id state)
        | none => (false, queue)

def cancel (queue : CtiRequestQueue width) (id : UInt64) :
    CtiCancelOutcome × CtiRequestQueue width :=
  match queue.records.find? fun record => record.id = id with
  | none => (.notFound, queue)
  | some record =>
      if queue.pending.map CtiPendingRequest.id ≠ some id || record.state ≠ .queued then
        (.tooLate, queue)
      else
        match changeFirst (fun record => record.id = id) (withState .cancelled) queue.records with
        | some records =>
            (.cancelled,
              { queue with pending := none, records := records }.appendEvent id .cancelled)
        | none => (.notFound, queue)

def get (queue : CtiRequestQueue width) (id : UInt64) : Option (CtiRequestResult width) :=
  queue.records.find? fun record => record.id = id

def oldestSequence (queue : CtiRequestQueue width) : UInt64 :=
  match queue.events with
  | [] => 0
  | event :: _ => event.sequence

def eventsAfter (queue : CtiRequestQueue width) (after : UInt64) : CtiRequestEventsPage where
  latestSequence := queue.eventSequence
  oldestSequence := queue.oldestSequence
  gap := queue.oldestSequence > 0 && after < queue.oldestSequence - 1
  events := queue.events.filter fun event => event.sequence > after

def eventsAfterForRequest (queue : CtiRequestQueue width) (id after : UInt64) :
    Option CtiRequestEventsPage :=
  if queue.records.any fun record => record.id = id then
    some
      { latestSequence := queue.eventSequence
        oldestSequence := queue.oldestSequence
        gap := queue.oldestSequence > 0 && after < queue.oldestSequence - 1
        events := queue.events.filter fun event => event.sequence > after && event.requestId = id }
  else none

/-- Identifiers and event sequences are kept. -/
def clear (queue : CtiRequestQueue width) : CtiRequestQueue width :=
  { queue with pending := none, active := none, records := [], events := [] }

end CtiRequestQueue

/-- The operations that may change the queue. -/
inductive CtiOperation (width : WCharWidth) where
  | submit (destination : WString width)
  | submitIdempotent (destination : WString width) (key : IdempotencyKey) (ready : Bool)
  | take
  | complete (id : UInt64) (submitted : Bool)
  | cancel (id : UInt64)
  | rejectPending
  | clear
  deriving DecidableEq, Repr

inductive CtiAnswer (width : WCharWidth) where
  | submit (id : Option UInt64)
  | submitIdempotent (result : CtiSubmitResult)
  | take (request : Option (CtiPendingRequest width))
  | complete (done : Bool)
  | cancel (outcome : CtiCancelOutcome)
  | rejectPending (done : Bool)
  | clear
  deriving DecidableEq, Repr

def queueStep (queue : CtiRequestQueue width) :
    CtiOperation width → CtiAnswer width × CtiRequestQueue width
  | .submit destination => (queue.submit destination).map .submit id
  | .submitIdempotent destination key ready =>
      (queue.submitIdempotent destination key ready).map .submitIdempotent id
  | .take => queue.take.map .take id
  | .complete requestId submitted => (queue.complete requestId submitted).map .complete id
  | .cancel requestId => (queue.cancel requestId).map .cancel id
  | .rejectPending => queue.rejectPending.map .rejectPending id
  | .clear => (.clear, queue.clear)

end AxeVoice.Cti
