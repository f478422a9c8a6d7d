import AxeVoice.Cti.Http

/-!
# What CTI output discloses

Destinations, retry keys and native tokens decide what the queue and the journal
do, but only through comparisons with each other and with nothing.  A renaming
that keeps these comparisons therefore carries a whole run to the renamed run,
and what a client gets to see is the same in both.
-/

namespace AxeVoice.Cti

open Foundation Sip

variable {width : WCharWidth}

structure CtiStore (width : WCharWidth) where
  requests : CtiRequestQueue width := {}
  journal : CtiEventJournal := {}
  deriving DecidableEq, Repr

inductive CtiCall (width : WCharWidth) where
  | queue (operation : CtiOperation width)
  | get (id : UInt64)
  | eventsAfter (cursor : UInt64)
  | eventsAfterForRequest (id cursor : UInt64)
  | observe (state : SipRuntimeObservation)
  | snapshot
  | after (cursor : UInt64)

inductive CtiReturned (width : WCharWidth) where
  | queue (answer : CtiAnswer width)
  | get (record : Option (CtiRequestResult width))
  | requestEvents (page : CtiRequestEventsPage)
  | scopedEvents (page : Option CtiRequestEventsPage)
  | observed
  | snapshot (state : CtiPublicSnapshot)
  | events (page : CtiEventsPage)

def ctiStep (store : CtiStore width) : CtiCall width → CtiReturned width × CtiStore width
  | .queue operation =>
      (.queue (queueStep store.requests operation).1,
        { store with requests := (queueStep store.requests operation).2 })
  | .get id => (.get (store.requests.get id), store)
  | .eventsAfter cursor => (.requestEvents (store.requests.eventsAfter cursor), store)
  | .eventsAfterForRequest id cursor =>
      (.scopedEvents (store.requests.eventsAfterForRequest id cursor), store)
  | .observe state => (.observed, { store with journal := store.journal.observe state })
  | .snapshot => (.snapshot store.journal.snapshot, store)
  | .after cursor => (.events (store.journal.after cursor), store)

/-- The outcomes, identifiers, states, pages and snapshots of an answer. -/
inductive CtiDisclosure where
  | submitted (id : Option UInt64)
  | submission (result : CtiSubmitResult)
  | taken (id : Option UInt64)
  | completed (done : Bool)
  | cancelled (outcome : CtiCancelOutcome)
  | rejected (done : Bool)
  | cleared
  | request (record : Option (UInt64 × CtiRequestState))
  | requestEvents (page : CtiRequestEventsPage)
  | scopedEvents (page : Option CtiRequestEventsPage)
  | observed
  | snapshot (state : CtiPublicSnapshot)
  | events (page : CtiEventsPage)
  deriving DecidableEq, Repr

def CtiAnswer.disclosed : CtiAnswer width → CtiDisclosure
  | .submit id => .submitted id
  | .submitIdempotent result => .submission result
  | .take request => .taken (request.map CtiPendingRequest.id)
  | .complete done => .completed done
  | .cancel outcome => .cancelled outcome
  | .rejectPending done => .rejected done
  | .clear => .cleared

def CtiReturned.disclosed : CtiReturned width → CtiDisclosure
  | .queue answer => answer.disclosed
  | .get record => .request (record.map fun record => (record.id, record.state))
  | .requestEvents page => .requestEvents page
  | .scopedEvents page => .scopedEvents page
  | .observed => .observed
  | .snapshot state => .snapshot state
  | .events page => .events page

/-- `cti_request_json` of a whole record. -/
def CtiRequestResult.json (record : CtiRequestResult width) : String :=
  ctiRequestJson record.id record.state

/-- The body that is built from the answer to a call, where one is. -/
def ctiBody : CtiCall width → CtiReturned width → Option String
  | .queue (.submitIdempotent ..), .queue (.submitIdempotent result) =>
      match result.outcome with
      | .created => some ({ id := result.id } : CtiRequestResult width).json
      | .replayed =>
          some ({ id := result.id, state := result.state } : CtiRequestResult width).json
      | .keyConflict | .busy | .notReady => none
  | .queue (.cancel id), .queue (.cancel .cancelled) =>
      some ({ id := id, state := .cancelled } : CtiRequestResult width).json
  | .get _, .get record => record.map CtiRequestResult.json
  | .eventsAfter _, .requestEvents page => some (ctiRequestEventsJson page)
  | .eventsAfterForRequest .., .scopedEvents page => page.map ctiRequestEventsJson
  | .snapshot, .snapshot state => some (ctiSnapshotJson state)
  | .after _, .events page => some (ctiEventsJson page)
  | _, _ => none

abbrev CtiStage (width : WCharWidth) := Stage (CtiStore width) (CtiCall width) (CtiReturned width)

def disclosure (stage : CtiStage width) : CtiDisclosure := stage.output.disclosed

def body (stage : CtiStage width) : Option String := ctiBody stage.input stage.output

/-- Injective renamings of what must not be learned; nothing stays nothing, and nothing else. -/
structure Renaming (width : WCharWidth) where
  destination : WString width → WString width
  key : IdempotencyKey → IdempotencyKey
  session : UInt64 → UInt64
  callId : UInt64 → UInt64
  destination_injective : Function.Injective destination
  destination_nil : ∀ text, destination text = [] ↔ text = []
  key_injective : Function.Injective key
  key_nil : ∀ text, key text = [] ↔ text = []
  session_injective : Function.Injective session
  session_zero : session 0 = 0
  callId_injective : Function.Injective callId
  callId_zero : callId 0 = 0

namespace Renaming

variable (names : Renaming width)

def request (request : CtiPendingRequest width) : CtiPendingRequest width :=
  { request with destination := names.destination request.destination }

def record (record : CtiRequestResult width) : CtiRequestResult width :=
  { record with
    idempotencyKey := names.key record.idempotencyKey
    idempotencyDestination := names.destination record.idempotencyDestination }

def observation (observed : SipRuntimeObservation) : SipRuntimeObservation :=
  { observed with
    session := names.session observed.session
    callId := names.callId observed.callId }

def operation : CtiOperation width → CtiOperation width
  | .submit destination => .submit (names.destination destination)
  | .submitIdempotent destination key ready =>
      .submitIdempotent (names.destination destination) (names.key key) ready
  | .take => .take
  | .complete id submitted => .complete id submitted
  | .cancel id => .cancel id
  | .rejectPending => .rejectPending
  | .clear => .clear

def answer : CtiAnswer width → CtiAnswer width
  | .take request => .take (request.map names.request)
  | answer => answer

def call : CtiCall width → CtiCall width
  | .queue operation => .queue (names.operation operation)
  | .observe state => .observe (names.observation state)
  | call => call

def returned : CtiReturned width → CtiReturned width
  | .queue answer => .queue (names.answer answer)
  | .get record => .get (record.map names.record)
  | returned => returned

def queue (queue : CtiRequestQueue width) : CtiRequestQueue width :=
  { queue with
    pending := queue.pending.map names.request
    active := queue.active.map names.request
    records := queue.records.map names.record }

def journal (journal : CtiEventJournal) : CtiEventJournal :=
  { journal with
    lastSession := names.session journal.lastSession
    lastCallId := names.callId journal.lastCallId }

def store (store : CtiStore width) : CtiStore width :=
  ⟨names.queue store.requests, names.journal store.journal⟩

variable (requests : CtiRequestQueue width)

theorem queue_occupied : (names.queue requests).occupied = requests.occupied := by
  simp only [CtiRequestQueue.occupied, queue, Option.isSome_map]
  rfl

theorem queue_appendEvent (id : UInt64) (state : CtiRequestState) :
    (names.queue requests).appendEvent id state =
      names.queue (requests.appendEvent id state) := by
  by_cases full : requests.eventSequence = CtiRequestQueue.maxSequence
  · have full' : (names.queue requests).eventSequence = CtiRequestQueue.maxSequence := full
    rw [CtiRequestQueue.appendEvent, CtiRequestQueue.appendEvent, if_pos full, if_pos full']
  · have full' : (names.queue requests).eventSequence ≠ CtiRequestQueue.maxSequence := full
    rw [CtiRequestQueue.appendEvent, CtiRequestQueue.appendEvent, if_neg full, if_neg full']
    rfl

theorem queue_create (destination recorded : WString width) (key : IdempotencyKey) :
    (names.queue requests).create (names.destination destination) (names.key key)
        (names.destination recorded) =
      names.queue (requests.create destination key recorded) := by
  simp only [CtiRequestQueue.create]
  rw [← queue_appendEvent]
  simp only [queue, request, record, map_pushBounded, Option.map_some]

theorem destination_isEmpty (text : WString width) :
    (names.destination text).isEmpty = text.isEmpty := by
  rw [Bool.eq_iff_iff, List.isEmpty_iff, List.isEmpty_iff, names.destination_nil]

theorem key_isEmpty (key : IdempotencyKey) : (names.key key).isEmpty = key.isEmpty := by
  rw [Bool.eq_iff_iff, List.isEmpty_iff, List.isEmpty_iff, names.key_nil]

theorem queue_keyed (key : IdempotencyKey) :
    (names.queue requests).keyed (names.key key) =
      (requests.keyed key).map names.record := by
  have unnoticed : ((fun record : CtiRequestResult width =>
      decide (record.idempotencyKey = names.key key)) ∘ names.record) =
        fun record => decide (record.idempotencyKey = key) := by
    funext entry
    simp [record, names.key_injective.eq_iff]
  simp only [CtiRequestQueue.keyed, names.key_isEmpty, queue, List.find?_map, unnoticed]
  split <;> rfl

theorem queue_submit (destination : WString width) :
    (names.queue requests).submit (names.destination destination) =
      ((requests.submit destination).1, names.queue (requests.submit destination).2) := by
  have nothing : names.key [] = [] := (names.key_nil []).mpr rfl
  have nowhere : names.destination [] = [] := (names.destination_nil []).mpr rfl
  have created := names.queue_create requests destination [] []
  rw [nothing, nowhere] at created
  simp only [CtiRequestQueue.submit, names.destination_isEmpty, queue_occupied, created]
  split
  · rfl
  · split <;> rfl

theorem queue_submitIdempotent (destination : WString width) (key : IdempotencyKey)
    (ready : Bool) :
    (names.queue requests).submitIdempotent (names.destination destination)
        (names.key key) ready =
      ((requests.submitIdempotent destination key ready).1,
        names.queue (requests.submitIdempotent destination key ready).2) := by
  have recorded : (if key.isEmpty then [] else names.destination destination) =
      names.destination (if key.isEmpty then [] else destination) := by
    have nowhere : names.destination [] = [] := (names.destination_nil []).mpr rfl
    split
    · exact nowhere.symm
    · rfl
  simp only [CtiRequestQueue.submitIdempotent, names.destination_isEmpty, queue_keyed,
    queue_occupied, names.key_isEmpty, recorded, queue_create]
  split
  · rfl
  cases requests.keyed key with
  | none =>
      simp only [Option.map_none]
      split
      · rfl
      · split <;> rfl
  | some found =>
      simp only [Option.map_some, record, ne_eq, names.destination_injective.eq_iff]
      split <;> rfl

/-- The loops over the records that look at identifiers and states. -/
theorem records_changeFirst (found : CtiRequestResult width → Bool) (state : CtiRequestState)
    (unnoticed : ∀ entry, found (names.record entry) = found entry)
    (records : List (CtiRequestResult width)) :
    changeFirst found (CtiRequestQueue.withState state) (records.map names.record) =
      (changeFirst found (CtiRequestQueue.withState state) records).map
        (List.map names.record) := by
  have kept : ∀ entry, CtiRequestQueue.withState state (names.record entry) =
      names.record (CtiRequestQueue.withState state entry) := fun _ => rfl
  exact changeFirst_map unnoticed kept records

theorem queue_rejectPending :
    (names.queue requests).rejectPending =
      (requests.rejectPending.1, names.queue requests.rejectPending.2) := by
  simp only [CtiRequestQueue.rejectPending]
  cases pending : requests.pending with
  | none => simp only [queue, pending, Option.map_none]
  | some waiting =>
      have searched := names.records_changeFirst
        (fun record => record.id = waiting.id && record.state = .queued) .rejected
        (fun _ => rfl) requests.records
      simp only [queue, pending, Option.map_some, request, searched]
      cases changeFirst (fun record : CtiRequestResult width =>
          record.id = waiting.id && record.state = .queued)
          (CtiRequestQueue.withState .rejected) requests.records with
      | none => rfl
      | some changed =>
          exact Prod.mk.injEq .. ▸ ⟨rfl, names.queue_appendEvent
            { requests with pending := none, records := changed } waiting.id .rejected⟩

theorem queue_take :
    (names.queue requests).take =
      (requests.take.1.map names.request, names.queue requests.take.2) := by
  simp only [CtiRequestQueue.take]
  cases pending : requests.pending with
  | none => simp only [queue, pending, Option.map_none]
  | some waiting =>
      cases active : requests.active with
      | some busy => simp only [queue, pending, active, Option.map_some, Option.map_none]
      | none =>
          have searched := names.records_changeFirst
            (fun record => record.id = waiting.id) .dispatching (fun _ => rfl) requests.records
          simp only [queue, pending, active, Option.map_some, Option.map_none, request, searched]
          cases changeFirst (fun record : CtiRequestResult width => record.id = waiting.id)
              (CtiRequestQueue.withState .dispatching) requests.records with
          | none => rfl
          | some changed =>
              exact Prod.mk.injEq .. ▸ ⟨rfl, names.queue_appendEvent
                { requests with pending := none, active := some waiting, records := changed }
                waiting.id .dispatching⟩

theorem queue_complete (id : UInt64) (submitted : Bool) :
    (names.queue requests).complete id submitted =
      ((requests.complete id submitted).1, names.queue (requests.complete id submitted).2) := by
  simp only [CtiRequestQueue.complete]
  cases active : requests.active with
  | none => simp only [queue, active, Option.map_none]
  | some busy =>
      have searched := names.records_changeFirst (fun record => record.id = id)
        (if submitted then .submitted else .rejected) (fun _ => rfl) requests.records
      simp only [queue, active, Option.map_some, request, searched]
      split
      · simp only [active, Option.map_some, request]
      cases changeFirst (fun record : CtiRequestResult width => record.id = id)
          (CtiRequestQueue.withState (if submitted then .submitted else .rejected))
          requests.records with
      | none => rfl
      | some changed =>
          exact Prod.mk.injEq .. ▸ ⟨rfl, names.queue_appendEvent
            { requests with active := none, records := changed } id
            (if submitted then .submitted else .rejected)⟩

theorem queue_find (id : UInt64) :
    (names.queue requests).records.find? (fun record => record.id = id) =
      (requests.records.find? fun record => record.id = id).map names.record := by
  simp only [queue, List.find?_map]
  rfl

theorem queue_cancel (id : UInt64) :
    (names.queue requests).cancel id =
      ((requests.cancel id).1, names.queue (requests.cancel id).2) := by
  have waiting : (names.queue requests).pending.map CtiPendingRequest.id =
      requests.pending.map CtiPendingRequest.id := by
    simp only [queue, Option.map_map]
    rfl
  simp only [CtiRequestQueue.cancel, queue_find, waiting]
  cases requests.records.find? fun record => record.id = id with
  | none => rfl
  | some found =>
      have searched := names.records_changeFirst (fun record => record.id = id) .cancelled
        (fun _ => rfl) requests.records
      simp only [Option.map_some, record]
      split
      · rfl
      have records : (names.queue requests).records = requests.records.map names.record := rfl
      rw [records, searched]
      cases changeFirst (fun record : CtiRequestResult width => record.id = id)
          (CtiRequestQueue.withState .cancelled) requests.records with
      | none => rfl
      | some changed =>
          exact Prod.mk.injEq .. ▸ ⟨rfl, names.queue_appendEvent
            { requests with pending := none, records := changed } id .cancelled⟩

theorem queue_step (operation : CtiOperation width) :
    queueStep (names.queue requests) (names.operation operation) =
      (names.answer (queueStep requests operation).1,
        names.queue (queueStep requests operation).2) := by
  cases operation with
  | submit destination => simp only [Renaming.operation, queueStep, queue_submit]; rfl
  | submitIdempotent destination key ready =>
      simp only [Renaming.operation, queueStep, queue_submitIdempotent]
      rfl
  | take => simp only [Renaming.operation, queueStep, queue_take]; rfl
  | complete id submitted => simp only [Renaming.operation, queueStep, queue_complete]; rfl
  | cancel id => simp only [Renaming.operation, queueStep, queue_cancel]; rfl
  | rejectPending => simp only [Renaming.operation, queueStep, queue_rejectPending]; rfl
  | clear => rfl

theorem queue_eventsAfterForRequest (id cursor : UInt64) :
    (names.queue requests).eventsAfterForRequest id cursor =
      requests.eventsAfterForRequest id cursor := by
  have known : (names.queue requests).records.any (fun record => record.id = id) =
      requests.records.any fun record => record.id = id := by
    simp only [queue, List.any_map]
    rfl
  simp only [CtiRequestQueue.eventsAfterForRequest, known]
  rfl

theorem session_eq_zero (session : UInt64) : names.session session = 0 ↔ session = 0 := by
  constructor
  · intro zero
    exact names.session_injective (zero.trans names.session_zero.symm)
  · rintro rfl
    exact names.session_zero

theorem callId_eq_zero (callId : UInt64) : names.callId callId = 0 ↔ callId = 0 := by
  constructor
  · intro zero
    exact names.callId_injective (zero.trans names.callId_zero.symm)
  · rintro rfl
    exact names.callId_zero

theorem observation_proof (state : SipRuntimeObservation) :
    sipProofIsCurrent (names.observation state) (names.observation state).session =
      sipProofIsCurrent state state.session := by
  rw [Bool.eq_iff_iff, sipProofIsCurrent_iff, sipProofIsCurrent_iff]
  simp only [observation, ne_eq, names.session_eq_zero]

theorem observation_phase (state : SipRuntimeObservation) :
    ctiPhase (names.observation state) = ctiPhase state := by
  simp only [ctiPhase, observation_proof]
  rfl

theorem observation_registered (state : SipRuntimeObservation) :
    ctiRegistered (names.observation state) = ctiRegistered state := by
  simp only [ctiRegistered, observation_proof]
  rfl

theorem observation_active (state : SipRuntimeObservation) :
    CtiEventJournal.observedActive (names.observation state) =
      CtiEventJournal.observedActive state := by
  have idle : (names.observation state).callId = 0 ↔ state.callId = 0 :=
    names.callId_eq_zero state.callId
  simp only [CtiEventJournal.observedActive, observation_proof, ne_eq, idle]
  rfl

theorem journal_changes (journal : CtiEventJournal) (state : SipRuntimeObservation) :
    (names.journal journal).changes (names.observation state) = journal.changes state := by
  have session : (names.observation state).session = (names.journal journal).lastSession ↔
      state.session = journal.lastSession := names.session_injective.eq_iff
  have callId : (names.observation state).callId = (names.journal journal).lastCallId ↔
      state.callId = journal.lastCallId := names.callId_injective.eq_iff
  simp only [CtiEventJournal.changes, observation_phase, observation_registered,
    observation_active, ne_eq, session, callId]
  rfl

theorem journal_observe (journal : CtiEventJournal) (state : SipRuntimeObservation) :
    (names.journal journal).observe (names.observation state) =
      names.journal (journal.observe state) := by
  simp only [CtiEventJournal.observe, journal_changes, observation_phase, observation_registered,
    observation_active]
  split <;> rfl

theorem ctiStep_equivariant :
    Equivariant ctiStep names.store names.call names.returned := by
  intro store call
  cases call with
  | queue operation =>
      simp only [Renaming.call, ctiStep, Renaming.store, queue_step]
      rfl
  | get id =>
      simp only [Renaming.call, ctiStep, Renaming.store, CtiRequestQueue.get, queue_find]
      rfl
  | eventsAfterForRequest id cursor =>
      simp only [Renaming.call, ctiStep, Renaming.store, queue_eventsAfterForRequest]
      rfl
  | observe state =>
      simp only [Renaming.call, ctiStep, Renaming.store, journal_observe]
      rfl
  | eventsAfter | snapshot | after => rfl

theorem disclosed_returned (returned : CtiReturned width) :
    (names.returned returned).disclosed = returned.disclosed := by
  cases returned with
  | queue answer =>
      cases answer with
      | take request => cases request <;> rfl
      | _ => rfl
  | get record => cases record <;> rfl
  | _ => rfl

theorem body_returned (call : CtiCall width) (returned : CtiReturned width) :
    ctiBody (names.call call) (names.returned returned) = ctiBody call returned := by
  cases returned with
  | queue answer =>
      cases call with
      | queue operation => cases operation <;> cases answer <;> rfl
      | _ => rfl
  | get record =>
      cases call with
      | queue operation => cases operation <;> rfl
      | get id => cases record <;> rfl
      | _ => rfl
  | _ =>
      cases call with
      | queue operation => cases operation <;> rfl
      | _ => rfl

end Renaming

/-- Nothing stays nothing. -/
theorem renamed_initial (names : Renaming width) : names.store {} = {} := by
  simp [Renaming.store, Renaming.queue, Renaming.journal, names.session_zero,
    names.callId_zero]

/--
Two runs of the same calls that differ in destinations, retry keys and native
tokens only disclose the same, and the bodies built from them are the same.
-/
theorem output_reveals_no_secrets (names : Renaming width) (calls : List (CtiCall width)) :
    (stages ctiStep {} (calls.map names.call)).map disclosure =
        (stages ctiStep {} calls).map disclosure ∧
      (stages ctiStep {} (calls.map names.call)).map body =
        (stages ctiStep {} calls).map body := by
  have renamed := (names.ctiStep_equivariant).stages {} calls
  rw [renamed_initial] at renamed
  rw [renamed, List.map_map, List.map_map]
  constructor
  · exact List.map_congr_left fun stage _ => names.disclosed_returned stage.output
  · exact List.map_congr_left fun stage _ => names.body_returned stage.input stage.output

end AxeVoice.Cti
