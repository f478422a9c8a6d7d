import AxeVoice.Foundation.EventSource
import AxeVoice.Native.Ingress
import AxeVoice.Sip.Identity

/-!
# The calls that the native ingress binds

The admission of native callbacks before there was an SDK adapter.  A call is
known by its pointer only while it lives; the mailbox sees a token that is never
given out twice in a session.
-/

namespace AxeVoice.Native

open AxeVoice.Foundation
open AxeVoice.Sip

/-- The signals of the native callback; the last one stands for every value without a name. -/
inductive NativeSignal
  | registering
  | registerOk
  | registerFail
  | unregistering
  | callIncoming
  | callOutgoing
  | callEstablished
  | callClosed
  | transportLost
  | unrelated
  | unrecognized
  deriving DecidableEq, Repr

namespace NativeSignal

/-- The event of a signal, the first one where the signal has none. -/
def event : NativeSignal → BaresipEventKind
  | registering => .registering
  | registerOk => .registerOk
  | registerFail => .registerFail
  | unregistering => .unregistering
  | callIncoming => .callIncoming
  | callOutgoing => .callOutgoing
  | callEstablished => .callEstablished
  | callClosed => .callClosed
  | transportLost => .transportLost
  | unrelated => .registering
  | unrecognized => .registering

def startsCall : NativeSignal → Bool
  | callIncoming => true
  | callOutgoing => true
  | _ => false

def callSignal : NativeSignal → Bool
  | callIncoming => true
  | callOutgoing => true
  | callEstablished => true
  | callClosed => true
  | _ => false

end NativeSignal

structure NativeCallback where
  signal : NativeSignal
  session : UInt64
  account : Address
  call : Address

inductive NativeIngressResult
  | queued
  | ignored
  | rejected
  | revoked
  deriving DecidableEq, Repr

inductive NativeIngressFault
  | none
  | sessionMismatch
  | accountMismatch
  | callMismatch
  | malformed
  | unrecognized
  | queueRejected
  deriving DecidableEq, Repr

/-- The ingress, together with the mailbox that it refers to. -/
structure BaresipNativeIngress where
  queue : BaresipEventMailbox := {}
  session : UInt64 := 0
  account : Address := 0
  call : Address := 0
  callToken : UInt64 := 0
  lastCallToken : UInt64 := 0
  fault : NativeIngressFault := .none

namespace BaresipNativeIngress

def bindValidatedAccount (ingress : BaresipNativeIngress) (account : Address) :
    UInt64 × BaresipNativeIngress :=
  if account = 0 ∨ ingress.session ≠ 0 ∨ ingress.fault ≠ .none then (0, ingress)
  else
    let next := ingress.queue.beginSession.1
    if next = 0 then
      (0, { ingress with queue := ingress.queue.beginSession.2, fault := .queueRejected })
    else
      (next, { ingress with
        queue := ingress.queue.beginSession.2
        account := account, session := next, call := 0, callToken := 0, lastCallToken := 0 })

def revoke (ingress : BaresipNativeIngress) (why : NativeIngressFault) :
    NativeIngressResult × BaresipNativeIngress :=
  (.revoked, { ingress with
    queue := ingress.queue.invalidateSession
    session := 0, account := 0, call := 0, callToken := 0, lastCallToken := 0, fault := why })

/-- The callback starts a call, and there is none. -/
def startsFresh (ingress : BaresipNativeIngress) (callback : NativeCallback) : Bool :=
  callback.signal.startsCall && ingress.call = 0

def eventCallToken (ingress : BaresipNativeIngress) (callback : NativeCallback) : UInt64 :=
  if callback.signal.callSignal then
    if ingress.startsFresh callback then ingress.lastCallToken + 1 else ingress.callToken
  else 0

def eventOf (ingress : BaresipNativeIngress) (callback : NativeCallback) : BaresipNativeEvent :=
  { kind := callback.signal.event, session := ingress.session
    callId := ingress.eventCallToken callback }

/-- The ingress behind an event that the queue took. -/
def settled (ingress : BaresipNativeIngress) (callback : NativeCallback) : BaresipNativeIngress :=
  let started :=
    if ingress.startsFresh callback then
      { ingress with
        call := callback.call
        callToken := ingress.eventCallToken callback
        lastCallToken := ingress.eventCallToken callback }
    else ingress
  if callback.signal = .callClosed ∨ callback.signal = .transportLost then
    { started with call := 0, callToken := 0 }
  else started

/-- What is done with a signal that has an event. -/
def acceptSignal (ingress : BaresipNativeIngress) (callback : NativeCallback) :
    NativeIngressResult × BaresipNativeIngress :=
  if callback.signal.callSignal = false ∧ callback.call ≠ 0 then ingress.revoke .malformed
  else if callback.signal.callSignal = true ∧ callback.call = 0 then ingress.revoke .callMismatch
  else if callback.signal.callSignal = true ∧ ingress.startsFresh callback = false ∧
      (ingress.call = 0 ∨ callback.call ≠ ingress.call) then ingress.revoke .callMismatch
  else if ingress.startsFresh callback = true ∧ ingress.lastCallToken = uint64Max then
    ingress.revoke .callMismatch
  else
    match ingress.queue.enqueue (ingress.eventOf callback) with
    | (false, queue) => { ingress with queue := queue }.revoke .queueRejected
    | (true, queue) => (.queued, { ingress.settled callback with queue := queue })

def accept (ingress : BaresipNativeIngress) (callback : NativeCallback) :
    NativeIngressResult × BaresipNativeIngress :=
  if ingress.session = 0 ∨ ingress.fault ≠ .none then (.rejected, ingress)
  else if callback.session ≠ ingress.session then ingress.revoke .sessionMismatch
  else if callback.account = 0 ∨ callback.account ≠ ingress.account then
    ingress.revoke .accountMismatch
  else
    match callback.signal with
    | .unrelated => if callback.call = 0 then (.ignored, ingress) else ingress.revoke .malformed
    | .unrecognized => ingress.revoke .unrecognized
    | _ => ingress.acceptSignal callback

def resetAfterTeardown (ingress : BaresipNativeIngress) : BaresipNativeIngress :=
  { queue := ingress.queue.invalidateSession
    session := 0, account := 0, call := 0, callToken := 0, lastCallToken := 0, fault := .none }

end BaresipNativeIngress

/-- The calls of the ingress, and what the others who refer to the mailbox do with it. -/
inductive NativeIngressCall
  | bindValidatedAccount (account : Address)
  | accept (callback : NativeCallback)
  | resetAfterTeardown
  | drain
  | queueBegins
  | queueEnds

inductive NativeIngressAnswer
  | bound (session : UInt64)
  | accepted (result : NativeIngressResult)
  | done
  deriving DecidableEq

def nativeIngressStep (ingress : BaresipNativeIngress) :
    NativeIngressCall → NativeIngressAnswer × BaresipNativeIngress
  | .bindValidatedAccount account =>
      (.bound (ingress.bindValidatedAccount account).1, (ingress.bindValidatedAccount account).2)
  | .accept callback => (.accepted (ingress.accept callback).1, (ingress.accept callback).2)
  | .resetAfterTeardown => (.done, ingress.resetAfterTeardown)
  | .drain => (.done, { ingress with queue := ingress.queue.drain.2 })
  | .queueBegins => (.done, { ingress with queue := ingress.queue.beginSession.2 })
  | .queueEnds => (.done, { ingress with queue := ingress.queue.invalidateSession })

abbrev NativeIngressStage := Stage BaresipNativeIngress NativeIngressCall NativeIngressAnswer

/-- A queued event with the pointer that its callback named. -/
structure BoundEvent where
  pointer : Address
  event : BaresipNativeEvent

/-- The events that a callback put into the queue for the session. -/
def NativeIngressStage.bound (session : UInt64) (stage : NativeIngressStage) : List BoundEvent :=
  match stage.input with
  | .accept callback =>
      ((stage.after.queue.queued.drop stage.before.queue.queued.length).filter
        fun event => event.session = session).map (BoundEvent.mk callback.call)
  | _ => []

def boundEvents (session : UInt64) (history : List NativeIngressStage) : List BoundEvent :=
  history.flatMap (NativeIngressStage.bound session)

/-- A call by its pointer, with the token that stands for it. -/
structure LiveCall where
  pointer : Address
  token : UInt64

def liveAfter (live : Option LiveCall) (bound : BoundEvent) : Option LiveCall :=
  if bound.event.kind = .callClosed ∨ bound.event.kind = .transportLost then none
  else if bound.event.kind.opening = true ∧ live.isNone = true then
    some ⟨bound.pointer, bound.event.callId⟩
  else live

/-- The call that started last, unless it closed or was lost with the transport. -/
def liveCall (events : List BoundEvent) : Option LiveCall := events.foldl liveAfter none

/-- The event behind these is about their live call, or about a new one. -/
structure BindsEvent (events : List BoundEvent) (bound : BoundEvent) : Prop where
  fresh : bound.event.kind.opening = true → liveCall events = none →
    0 < bound.event.callId ∧ ∀ earlier ∈ events, earlier.event.callId < bound.event.callId
  ofLive : bound.event.kind.opening = true ∨ bound.event.kind.continuing = true →
    ∀ live, liveCall events = some live → bound.pointer = live.pointer ∧
      bound.event.callId = live.token
  continues : bound.event.kind.continuing = true → ∃ live, liveCall events = some live
  others : bound.event.kind.opening = false → bound.event.kind.continuing = false →
    bound.event.callId = 0

def BindsEvents (events : List BoundEvent) : Prop :=
  ∀ before bound after, events = before ++ bound :: after → BindsEvent before bound

/-- What is wrong with a callback, given the live call. -/
inductive CallbackMisfit (ingress : BaresipNativeIngress) (live : Option LiveCall)
    (callback : NativeCallback) : Prop
  | session (other : callback.session ≠ ingress.session)
  | account (other : callback.account = 0 ∨ callback.account ≠ ingress.account)
  | missing (ofCall : callback.signal.callSignal = true) (none_ : callback.call = 0)
  | otherCall {current : LiveCall} (ofCall : callback.signal.callSignal = true)
      (busy : live = some current) (other : callback.call ≠ current.pointer)
  | noCall (ofCall : callback.signal.callSignal = true)
      (continuing : callback.signal.startsCall = false) (idle : live = none)
  | stray (other : callback.signal.callSignal = false) (named : callback.call ≠ 0)
  | exhausted (starting : callback.signal.startsCall = true) (idle : live = none)
      (last : ingress.lastCallToken = uint64Max)
  | unrecognized (unnamed : callback.signal = .unrecognized)
  | refused (known : callback.signal ≠ .unrelated)
      (refused : (ingress.queue.enqueue (ingress.eventOf callback)).1 = false)

namespace BaresipNativeIngress

/-- The live call as the ingress keeps it. -/
def liveCall (ingress : BaresipNativeIngress) : Option LiveCall :=
  if ingress.call = 0 then none else some ⟨ingress.call, ingress.callToken⟩

theorem liveCall_eq_none_iff {ingress : BaresipNativeIngress} :
    ingress.liveCall = none ↔ ingress.call = 0 := by
  rw [liveCall]
  split
  · next idle => exact iff_of_true rfl idle
  · next busy => exact iff_of_false (fun same => by cases same) busy

theorem liveCall_eq_some {ingress : BaresipNativeIngress} {live : LiveCall}
    (busy : ingress.liveCall = some live) :
    ingress.call ≠ 0 ∧ live = ⟨ingress.call, ingress.callToken⟩ := by
  rw [liveCall] at busy
  split at busy
  · cases busy
  · next call =>
      cases busy
      exact ⟨call, rfl⟩

/-- Everything of the session is gone, and the fault says why. -/
structure Faulted (ingress : BaresipNativeIngress) : Prop where
  fault : ingress.fault ≠ .none
  session : ingress.session = 0
  call : ingress.call = 0
  token : ingress.callToken = 0
  queue : ingress.queue.session = 0
  emptied : ingress.queue.queued = []

theorem faulted_revoke (ingress : BaresipNativeIngress) {why : NativeIngressFault}
    (known : why ≠ .none) : (ingress.revoke why).2.Faulted :=
  ⟨known, rfl, rfl, rfl, rfl, BaresipEventMailbox.queued_eq_nil rfl⟩

/-- Everything that a callback can do. -/
inductive AcceptOutcome (before : BaresipNativeIngress) (callback : NativeCallback) :
    NativeIngressResult → BaresipNativeIngress → Prop
  | shut (closed : before.session = 0 ∨ before.fault ≠ .none) :
      AcceptOutcome before callback .rejected before
  | ignored (live : before.session ≠ 0)
      (fitting : ¬ CallbackMisfit before before.liveCall callback) :
      AcceptOutcome before callback .ignored before
  | revoked {after : BaresipNativeIngress} (live : before.session ≠ 0)
      (misfit : CallbackMisfit before before.liveCall callback) (faulted : after.Faulted)
      (generation : after.queue.generation = before.queue.generation) :
      AcceptOutcome before callback .revoked after
  | queued {queue : BaresipEventMailbox} (live : before.session ≠ 0) (open_ : before.fault = .none)
      (fitting : ¬ CallbackMisfit before before.liveCall callback)
      (known : callback.signal ≠ .unrelated ∧ callback.signal ≠ .unrecognized)
      (grown : queue.queued = before.queue.queued ++ [before.eventOf callback])
      (generation : queue.generation = before.queue.generation) :
      AcceptOutcome before callback .queued { before.settled callback with queue := queue }

theorem startsFresh_iff {ingress : BaresipNativeIngress} {callback : NativeCallback} :
    ingress.startsFresh callback = true ↔
      callback.signal.startsCall = true ∧ ingress.call = 0 := by
  rw [startsFresh, Bool.and_eq_true, decide_eq_true_eq]

theorem acceptSignal_outcome {ingress : BaresipNativeIngress} {callback : NativeCallback}
    (live : ingress.session ≠ 0) (open_ : ingress.fault = .none)
    (session : callback.session = ingress.session)
    (account : ¬ (callback.account = 0 ∨ callback.account ≠ ingress.account))
    (known : callback.signal ≠ .unrelated ∧ callback.signal ≠ .unrecognized) :
    ingress.AcceptOutcome callback (ingress.acceptSignal callback).1
      (ingress.acceptSignal callback).2 := by
  rw [acceptSignal]
  split
  · next stray =>
      exact .revoked live (.stray stray.1 stray.2) (ingress.faulted_revoke (by decide)) rfl
  next straight =>
  split
  · next missing =>
      exact .revoked live (.missing missing.1 missing.2) (ingress.faulted_revoke (by decide)) rfl
  next named =>
  split
  · next wrong =>
      obtain ⟨ofCall, notFresh, idle | other⟩ := wrong
      · have continuing : callback.signal.startsCall = false := by
          rw [Bool.eq_false_iff] at notFresh ⊢
          exact fun starts => notFresh (startsFresh_iff.mpr ⟨starts, idle⟩)
        exact .revoked live (.noCall ofCall continuing (liveCall_eq_none_iff.mpr idle))
          (ingress.faulted_revoke (by decide)) rfl
      · by_cases idle : ingress.call = 0
        · have continuing : callback.signal.startsCall = false := by
            rw [Bool.eq_false_iff] at notFresh ⊢
            exact fun starts => notFresh (startsFresh_iff.mpr ⟨starts, idle⟩)
          exact .revoked live (.noCall ofCall continuing (liveCall_eq_none_iff.mpr idle))
            (ingress.faulted_revoke (by decide)) rfl
        · exact .revoked live (.otherCall ofCall (if_neg idle) other)
            (ingress.faulted_revoke (by decide)) rfl
  next right =>
  split
  · next exhausted =>
      obtain ⟨starts, idle⟩ := startsFresh_iff.mp exhausted.1
      exact .revoked live (.exhausted starts (liveCall_eq_none_iff.mpr idle) exhausted.2)
        (ingress.faulted_revoke (by decide)) rfl
  next room =>
  have cases_ := ingress.queue.enqueue_cases (ingress.eventOf callback)
  split
  · next queue refused =>
      have answer : (ingress.queue.enqueue (ingress.eventOf callback)).1 = false := by rw [refused]
      refine .revoked live (.refused known.1 answer) (faulted_revoke _ (by decide)) ?_
      rw [refused] at cases_
      rcases cases_ with same | ⟨-, -, -, -, -, generation, -⟩ | ⟨-, -, -, queued, -⟩
      · cases same
        rfl
      · exact generation
      · cases queued
  · next queue taken =>
      have answer : (ingress.queue.enqueue (ingress.eventOf callback)).1 = true := by rw [taken]
      have fitting : ¬ CallbackMisfit ingress ingress.liveCall callback := by
        intro misfit
        cases misfit with
        | session other => exact other session
        | account other => exact account other
        | missing ofCall none_ => exact named ⟨ofCall, none_⟩
        | otherCall ofCall busy other =>
            obtain ⟨call, rfl⟩ := liveCall_eq_some busy
            have notFresh : ingress.startsFresh callback = false := by
              rw [Bool.eq_false_iff]
              exact fun fresh => call (startsFresh_iff.mp fresh).2
            exact right ⟨ofCall, notFresh, .inr other⟩
        | noCall ofCall continuing idle =>
            have notFresh : ingress.startsFresh callback = false := by
              rw [Bool.eq_false_iff]
              intro fresh
              cases continuing.symm.trans (startsFresh_iff.mp fresh).1
            exact right ⟨ofCall, notFresh, .inl (liveCall_eq_none_iff.mp idle)⟩
        | stray other called => exact straight ⟨other, called⟩
        | exhausted starting idle last =>
            exact room ⟨startsFresh_iff.mpr ⟨starting, liveCall_eq_none_iff.mp idle⟩, last⟩
        | unrecognized unnamed => exact known.2 unnamed
        | refused _ refused => cases answer.symm.trans refused
      rw [taken] at cases_
      rcases cases_ with same | ⟨-, -, refused, -⟩ | ⟨-, -, -, -, -, -, generation, grown⟩
      · cases same
      · cases refused
      · exact .queued live open_ fitting known grown generation

theorem accept_outcome (ingress : BaresipNativeIngress) (callback : NativeCallback) :
    ingress.AcceptOutcome callback (ingress.accept callback).1 (ingress.accept callback).2 := by
  rw [accept]
  split
  · next closed => exact .shut closed
  next open_ =>
  obtain ⟨live, intact⟩ := not_or.mp open_
  rw [ne_eq, not_not] at intact
  split
  · next other => exact .revoked live (.session other) (ingress.faulted_revoke (by decide)) rfl
  next session =>
  rw [ne_eq, not_not] at session
  split
  · next other => exact .revoked live (.account other) (ingress.faulted_revoke (by decide)) rfl
  next account =>
  split
  · next unrelated =>
      split
      · next none_ =>
          refine .ignored live fun misfit => ?_
          cases misfit with
          | session other => exact other session
          | account other => exact account other
          | stray other named => exact named none_
          | refused known _ => exact known unrelated
          | unrecognized unnamed => cases unrelated.symm.trans unnamed
          | missing ofCall _ | otherCall ofCall _ _ | noCall ofCall _ _ =>
              rw [unrelated] at ofCall
              cases ofCall
          | exhausted starting _ _ =>
              rw [unrelated] at starting
              cases starting
      · next named =>
          refine .revoked live (.stray ?_ named) (ingress.faulted_revoke (by decide)) rfl
          rw [unrelated]
          rfl
  · next unnamed =>
      exact .revoked live (.unrecognized unnamed) (ingress.faulted_revoke (by decide)) rfl
  · next notUnrelated notUnrecognized =>
      exact acceptSignal_outcome live intact session account ⟨notUnrelated, notUnrecognized⟩

/-! ## The event of a callback -/

theorem event_opening (signal : NativeSignal) : signal.event.opening = signal.startsCall := by
  cases signal <;> rfl

theorem event_continuing (signal : NativeSignal) :
    signal.event.continuing = (signal.callSignal && !signal.startsCall) := by
  cases signal <;> rfl

theorem callSignal_of_startsCall {signal : NativeSignal} (starts : signal.startsCall = true) :
    signal.callSignal = true := by
  cases signal with
  | callIncoming => rfl
  | callOutgoing => rfl
  | _ => cases starts

variable {ingress : BaresipNativeIngress} {callback : NativeCallback}

theorem eventCallToken_fresh (fresh : ingress.startsFresh callback = true) :
    ingress.eventCallToken callback = ingress.lastCallToken + 1 := by
  have ofCall := callSignal_of_startsCall (startsFresh_iff.mp fresh).1
  rw [eventCallToken, if_pos ofCall, if_pos fresh]

theorem eventCallToken_live (ofCall : callback.signal.callSignal = true)
    (known : ingress.startsFresh callback = false) :
    ingress.eventCallToken callback = ingress.callToken := by
  rw [eventCallToken, if_pos ofCall, known]
  rfl

/-- A fresh token lies above the last one. -/
theorem lastCallToken_lt (fitting : ¬ CallbackMisfit ingress ingress.liveCall callback)
    (fresh : ingress.startsFresh callback = true) :
    ingress.lastCallToken < ingress.eventCallToken callback := by
  obtain ⟨starts, idle⟩ := startsFresh_iff.mp fresh
  have room : ingress.lastCallToken ≠ uint64Max :=
    fun last => fitting (.exhausted starts (liveCall_eq_none_iff.mpr idle) last)
  rw [eventCallToken_fresh fresh, UInt64.lt_iff_toNat_lt, EventSource.toNat_succ room]
  exact Nat.lt_succ_self _

theorem eventCallToken_le (current : ingress.callToken ≤ ingress.lastCallToken) :
    ingress.eventCallToken callback ≤ (ingress.settled callback).lastCallToken := by
  cases fresh : ingress.startsFresh callback with
  | true =>
      rw [settled, fresh]
      split <;> exact UInt64.le_refl _
  | false =>
      have same : (ingress.settled callback).lastCallToken = ingress.lastCallToken := by
        rw [settled, fresh]
        split <;> rfl
      rw [same]
      cases ofCall : callback.signal.callSignal with
      | true =>
          rw [eventCallToken_live ofCall fresh]
          exact current
      | false =>
          rw [eventCallToken, ofCall]
          exact UInt64.zero_le

theorem settled_lastCallToken (fitting : ¬ CallbackMisfit ingress ingress.liveCall callback) :
    ingress.lastCallToken ≤ (ingress.settled callback).lastCallToken := by
  cases fresh : ingress.startsFresh callback with
  | true =>
      have above := UInt64.le_of_lt (lastCallToken_lt fitting fresh)
      rw [settled, fresh]
      split <;> exact above
  | false =>
      rw [settled, fresh]
      split <;> exact UInt64.le_refl _

theorem settled_current (current : ingress.callToken ≤ ingress.lastCallToken) :
    (ingress.settled callback).callToken ≤ (ingress.settled callback).lastCallToken := by
  rw [settled]
  cases fresh : ingress.startsFresh callback with
  | true =>
      split
      · exact UInt64.zero_le
      · exact UInt64.le_refl _
  | false =>
      split
      · exact UInt64.zero_le
      · exact current

/-- The ingress keeps the live call as the events tell it. -/
theorem settled_liveCall (fitting : ¬ CallbackMisfit ingress ingress.liveCall callback) :
    (ingress.settled callback).liveCall =
      liveAfter ingress.liveCall ⟨callback.call, ingress.eventOf callback⟩ := by
  have ends : (callback.signal = .callClosed ∨ callback.signal = .transportLost) ↔
      (ingress.eventOf callback).kind = .callClosed ∨
        (ingress.eventOf callback).kind = .transportLost := by
    rw [eventOf]
    cases callback.signal <;> simp [NativeSignal.event]
  have opens : (ingress.eventOf callback).kind.opening = callback.signal.startsCall :=
    event_opening callback.signal
  rw [settled, liveAfter]
  by_cases over_ : callback.signal = .callClosed ∨ callback.signal = .transportLost
  · rw [if_pos (ends.mp over_)]
    rw [if_pos over_]
    rfl
  · rw [if_neg (fun ended => over_ (ends.mpr ended))]
    rw [if_neg over_, opens]
    cases fresh : ingress.startsFresh callback with
    | true =>
        obtain ⟨starts, idle⟩ := startsFresh_iff.mp fresh
        have named : callback.call ≠ 0 :=
          fun none_ => fitting (.missing (callSignal_of_startsCall starts) none_)
        have none_ : ingress.liveCall.isNone = true :=
          Option.isNone_iff_eq_none.mpr (liveCall_eq_none_iff.mpr idle)
        rw [if_pos rfl, if_pos ⟨starts, none_⟩]
        exact if_neg named
    | false =>
        have kept : ¬ (callback.signal.startsCall = true ∧ ingress.liveCall.isNone = true) := by
          rintro ⟨starts, idle⟩
          have idle := liveCall_eq_none_iff.mp (Option.isNone_iff_eq_none.mp idle)
          cases fresh.symm.trans (startsFresh_iff.mpr ⟨starts, idle⟩)
        rw [if_neg kept]
        rfl

/-- The event of a fitting callback binds behind the events that the ingress has in mind. -/
theorem bindsEvent {events : List BoundEvent}
    (fitting : ¬ CallbackMisfit ingress ingress.liveCall callback)
    (live : AxeVoice.Native.liveCall events = ingress.liveCall)
    (below : ∀ bound ∈ events, bound.event.callId ≤ ingress.lastCallToken) :
    BindsEvent events ⟨callback.call, ingress.eventOf callback⟩ := by
  have opens : (ingress.eventOf callback).kind.opening = callback.signal.startsCall :=
    event_opening callback.signal
  have continues : (ingress.eventOf callback).kind.continuing =
      (callback.signal.callSignal && !callback.signal.startsCall) :=
    event_continuing callback.signal
  constructor
  · intro opening idle
    dsimp only at opening ⊢
    rw [opens] at opening
    rw [live] at idle
    have fresh := startsFresh_iff.mpr ⟨opening, liveCall_eq_none_iff.mp idle⟩
    have above := lastCallToken_lt fitting fresh
    constructor
    · exact UInt64.lt_of_le_of_lt UInt64.zero_le above
    · intro earlier member
      exact UInt64.lt_of_le_of_lt (below earlier member) above
  · intro ofCall current busy
    dsimp only at ofCall ⊢
    rw [opens, continues] at ofCall
    rw [live] at busy
    obtain ⟨call, rfl⟩ := liveCall_eq_some busy
    have signal : callback.signal.callSignal = true := by
      rcases ofCall with starts | continuing
      · exact callSignal_of_startsCall starts
      · exact (Bool.and_eq_true _ _ ▸ continuing).1
    constructor
    · by_contra other
      exact fitting (.otherCall signal busy other)
    · refine eventCallToken_live signal ?_
      rw [Bool.eq_false_iff]
      exact fun fresh => call (startsFresh_iff.mp fresh).2
  · intro continuing
    dsimp only at continuing
    rw [continues, Bool.and_eq_true, Bool.not_eq_true'] at continuing
    rw [live]
    cases known : ingress.liveCall with
    | some current => exact ⟨current, rfl⟩
    | none => exact absurd (.noCall continuing.1 continuing.2 known) fitting
  · intro notOpening notContinuing
    dsimp only at notOpening notContinuing ⊢
    rw [opens] at notOpening
    rw [continues, notOpening, Bool.not_false, Bool.and_true] at notContinuing
    rw [eventOf, eventCallToken, notContinuing]
    rfl

end BaresipNativeIngress

theorem bindsEvents_nil : BindsEvents [] := by
  intro before bound after split
  cases before <;> cases split

theorem BindsEvents.concat {events : List BoundEvent} (binds : BindsEvents events)
    {bound : BoundEvent} (next : BindsEvent events bound) : BindsEvents (events ++ [bound]) := by
  intro before found after split
  rcases split_concat split with ⟨rfl, rfl⟩ | ⟨rest, eq⟩
  · exact next
  · exact binds before found rest eq

theorem liveCall_concat (events : List BoundEvent) (bound : BoundEvent) :
    liveCall (events ++ [bound]) = liveAfter (liveCall events) bound := by
  rw [liveCall, List.foldl_append]
  rfl

theorem boundEvents_concat (session : UInt64) (history : List NativeIngressStage)
    (stage : NativeIngressStage) :
    boundEvents session (history ++ [stage]) =
      boundEvents session history ++ stage.bound session := by
  simp [boundEvents]

/-- What a run of the ingress keeps, seen from one session. -/
structure BindsSession (session : UInt64) (history : List NativeIngressStage)
    (ingress : BaresipNativeIngress) : Prop where
  binds : BindsEvents (boundEvents session history)
  live : ingress.session = session → liveCall (boundEvents session history) = ingress.liveCall
  below : ingress.session = session →
    ∀ bound ∈ boundEvents session history, bound.event.callId ≤ ingress.lastCallToken
  unissued : session = 0 ∨ ingress.queue.generation < session → boundEvents session history = []
  issued : ingress.session ≤ ingress.queue.generation
  idle : ingress.session = 0 → ingress.call = 0
  current : ingress.callToken ≤ ingress.lastCallToken
  sound : ingress.session ≠ 0 → ingress.fault = .none
  owner : ingress.session ≠ 0 → ∃ stage ∈ history,
    stage.input = .bindValidatedAccount ingress.account ∧ stage.output = .bound ingress.session

namespace BindsSession

variable {session : UInt64} {history : List NativeIngressStage} {ingress : BaresipNativeIngress}
  {stage : NativeIngressStage}

theorem initial (session : UInt64) (queue : BaresipEventMailbox) :
    BindsSession session [] { queue := queue } where
  binds := bindsEvents_nil
  live _ := rfl
  below _ _ member := absurd member List.not_mem_nil
  unissued _ := rfl
  issued := UInt64.zero_le
  idle _ := rfl
  current := UInt64.le_refl _
  sound live := absurd rfl live
  owner live := absurd rfl live

/-- Nothing changes but the queue and, where there is no session, the fault. -/
theorem frame (known : BindsSession session history ingress) (quiet : stage.bound session = [])
    (queue : BaresipEventMailbox) (issued : ingress.queue.generation ≤ queue.generation)
    {fault : NativeIngressFault} (sound : ingress.session ≠ 0 → fault = .none) :
    BindsSession session (history ++ [stage]) { ingress with queue := queue, fault := fault } := by
  have same : boundEvents session (history ++ [stage]) = boundEvents session history := by
    rw [boundEvents_concat, quiet, List.append_nil]
  constructor
  · rw [same]
    exact known.binds
  · rw [same]
    exact known.live
  · rw [same]
    exact known.below
  · rw [same]
    exact fun none_ => known.unissued
      (none_.imp_right fun later => UInt64.lt_of_le_of_lt issued later)
  · exact UInt64.le_trans known.issued issued
  · exact known.idle
  · exact known.current
  · exact sound
  · intro live
    obtain ⟨binding, member, rest⟩ := known.owner live
    exact ⟨binding, List.mem_append_left _ member, rest⟩

/-- The session is over. -/
theorem ended (known : BindsSession session history ingress) (quiet : stage.bound session = [])
    {after : BaresipNativeIngress} (over_ : after.session = 0) (call : after.call = 0)
    (token : after.callToken = 0)
    (issued : ingress.queue.generation ≤ after.queue.generation) :
    BindsSession session (history ++ [stage]) after := by
  have same : boundEvents session (history ++ [stage]) = boundEvents session history := by
    rw [boundEvents_concat, quiet, List.append_nil]
  have nobody (zero : after.session = session) : boundEvents session history = [] :=
    known.unissued (.inl (zero.symm.trans over_))
  constructor
  · rw [same]
    exact known.binds
  · intro zero
    rw [same, nobody zero, BaresipNativeIngress.liveCall, if_pos call]
    rfl
  · intro zero
    rw [same, nobody zero]
    exact fun bound member => absurd member List.not_mem_nil
  · rw [same]
    exact fun none_ => known.unissued
      (none_.imp_right fun later => UInt64.lt_of_le_of_lt issued later)
  · rw [over_]
    exact UInt64.zero_le
  · exact fun _ => call
  · rw [token]
    exact UInt64.zero_le
  · exact fun live => absurd over_ live
  · exact fun live => absurd over_ live

/-- A session begins that no event was ever queued for. -/
theorem begun (known : BindsSession session history ingress) (quiet : stage.bound session = [])
    {account : Address} {after : BaresipNativeIngress}
    (newer : ingress.queue.generation < after.session)
    (queue : after.queue.generation = after.session) (call : after.call = 0)
    (token : after.callToken = 0) (fault : after.fault = .none)
    (owned : after.account = account)
    (input : stage.input = .bindValidatedAccount account)
    (output : stage.output = .bound after.session) :
    BindsSession session (history ++ [stage]) after := by
  have same : boundEvents session (history ++ [stage]) = boundEvents session history := by
    rw [boundEvents_concat, quiet, List.append_nil]
  have nobody (own : after.session = session) : boundEvents session history = [] :=
    known.unissued (.inr (own ▸ newer))
  constructor
  · rw [same]
    exact known.binds
  · intro own
    rw [same, nobody own, BaresipNativeIngress.liveCall, if_pos call]
    rfl
  · intro own
    rw [same, nobody own]
    exact fun bound member => absurd member List.not_mem_nil
  · rw [same, queue]
    exact fun none_ => known.unissued (none_.imp_right (UInt64.lt_trans newer))
  · rw [queue]
    exact UInt64.le_refl _
  · exact fun _ => call
  · rw [token]
    exact UInt64.zero_le
  · exact fun _ => fault
  · exact fun _ => ⟨stage, List.mem_append_right _ List.mem_cons_self, owned ▸ input, output⟩

/-- An event of the session goes behind the others. -/
theorem extended (known : BindsSession session history ingress) {callback : NativeCallback}
    {queue : BaresipEventMailbox} (live : ingress.session ≠ 0)
    (fitting : ¬ CallbackMisfit ingress ingress.liveCall callback)
    (generation : queue.generation = ingress.queue.generation)
    (bound : stage.bound session =
      if ingress.session = session then [⟨callback.call, ingress.eventOf callback⟩] else []) :
    BindsSession session (history ++ [stage]) { ingress.settled callback with queue := queue } := by
  have kept : (ingress.settled callback).session = ingress.session ∧
      (ingress.settled callback).account = ingress.account ∧
      (ingress.settled callback).fault = ingress.fault := by
    rw [BaresipNativeIngress.settled]
    split <;> split <;> exact ⟨rfl, rfl, rfl⟩
  have same : boundEvents session (history ++ [stage]) = boundEvents session history ++
      if ingress.session = session then [⟨callback.call, ingress.eventOf callback⟩] else [] := by
    rw [boundEvents_concat, bound]
  constructor
  · rw [same]
    split
    · next own =>
        exact known.binds.concat (BaresipNativeIngress.bindsEvent fitting (known.live own)
          (known.below own))
    · rw [List.append_nil]
      exact known.binds
  · intro own
    have own := kept.1.symm.trans own
    rw [same, if_pos own, liveCall_concat, known.live own]
    exact (BaresipNativeIngress.settled_liveCall fitting).symm
  · intro own found member
    have own := kept.1.symm.trans own
    rw [same, if_pos own, List.mem_append, List.mem_singleton] at member
    rcases member with earlier | rfl
    · exact UInt64.le_trans (known.below own found earlier)
        (BaresipNativeIngress.settled_lastCallToken fitting)
    · exact BaresipNativeIngress.eventCallToken_le known.current
  · intro none_
    dsimp only at none_
    rw [generation] at none_
    have other : ingress.session ≠ session := by
      rintro rfl
      rcases none_ with zero | later
      · exact live zero
      · exact absurd known.issued (UInt64.not_le.mpr later)
    rw [same, if_neg other, List.append_nil]
    exact known.unissued none_
  · dsimp only
    rw [kept.1, generation]
    exact known.issued
  · exact fun over_ => absurd (kept.1.symm.trans over_) live
  · exact BaresipNativeIngress.settled_current known.current
  · intro _
    exact kept.2.2.trans (known.sound live)
  · intro _
    obtain ⟨binding, member, input, output⟩ := known.owner live
    refine ⟨binding, List.mem_append_left _ member, ?_, ?_⟩
    · rw [input, ← kept.2.1]
    · rw [output, ← kept.1]

end BindsSession

theorem bound_nil_of_owner {session : UInt64} {stage : NativeIngressStage}
    (owner : ∀ callback, stage.input ≠ .accept callback) : stage.bound session = [] := by
  rw [NativeIngressStage.bound]
  split
  · next callback input => exact absurd input (owner callback)
  · rfl

/-- A callback whose event was queued put that event there, and no other. -/
theorem bound_of_grown {ingress : BaresipNativeIngress} {callback : NativeCallback}
    (grown : (ingress.accept callback).2.queue.queued =
      ingress.queue.queued ++ [ingress.eventOf callback]) (session : UInt64) :
    NativeIngressStage.bound session (stageOf nativeIngressStep ingress (.accept callback)) =
      if ingress.session = session then [⟨callback.call, ingress.eventOf callback⟩] else [] := by
  have bound : NativeIngressStage.bound session
        (stageOf nativeIngressStep ingress (.accept callback)) =
      (((ingress.accept callback).2.queue.queued.drop ingress.queue.queued.length).filter
        fun event => event.session = session).map (BoundEvent.mk callback.call) := rfl
  rw [bound, grown, List.drop_left, List.filter_cons, List.filter_nil]
  split
  · next own =>
      have own : ingress.session = session := of_decide_eq_true own
      rw [if_pos own]
      rfl
  · next other =>
      have other : ingress.session ≠ session := fun own => other (decide_eq_true own)
      rw [if_neg other]
      rfl

/-- A callback that leaves or empties the queue puts nothing there. -/
theorem bound_of_shrunk {ingress : BaresipNativeIngress} {callback : NativeCallback}
    (shrunk : (ingress.accept callback).2.queue.queued = ingress.queue.queued ∨
      (ingress.accept callback).2.queue.queued = []) (session : UInt64) :
    NativeIngressStage.bound session (stageOf nativeIngressStep ingress (.accept callback)) = [] := by
  have bound : NativeIngressStage.bound session
        (stageOf nativeIngressStep ingress (.accept callback)) =
      (((ingress.accept callback).2.queue.queued.drop ingress.queue.queued.length).filter
        fun event => event.session = session).map (BoundEvent.mk callback.call) := rfl
  rcases shrunk with same | emptied
  · rw [bound, same, List.drop_length]
    rfl
  · rw [bound, emptied, List.drop_nil]
    rfl

theorem bindsSession_accept {session : UInt64} {history : List NativeIngressStage}
    {ingress : BaresipNativeIngress} (known : BindsSession session history ingress)
    (callback : NativeCallback) :
    BindsSession session (history ++ [stageOf nativeIngressStep ingress (.accept callback)])
      (ingress.accept callback).2 := by
  have outcome := ingress.accept_outcome callback
  have grown_ (grown : (ingress.accept callback).2.queue.queued =
      ingress.queue.queued ++ [ingress.eventOf callback]) := bound_of_grown grown session
  have shrunk_ (shrunk : (ingress.accept callback).2.queue.queued = ingress.queue.queued ∨
      (ingress.accept callback).2.queue.queued = []) := bound_of_shrunk shrunk session
  generalize (ingress.accept callback).1 = result at outcome
  generalize (ingress.accept callback).2 = after at outcome grown_ shrunk_ ⊢
  cases outcome with
  | shut closed =>
      exact known.frame (shrunk_ (.inl rfl)) ingress.queue (UInt64.le_refl _) known.sound
  | ignored live fitting =>
      exact known.frame (shrunk_ (.inl rfl)) ingress.queue (UInt64.le_refl _) known.sound
  | revoked live misfit faulted generation =>
      exact known.ended (shrunk_ (.inr faulted.emptied)) faulted.session faulted.call faulted.token
        (UInt64.le_of_eq generation.symm)
  | queued live open_ fitting signal grown generation =>
      exact known.extended live fitting generation (grown_ grown)

theorem bindsSession_bind {session : UInt64} {history : List NativeIngressStage}
    {ingress : BaresipNativeIngress} (known : BindsSession session history ingress)
    (account : Address) :
    BindsSession session
      (history ++ [stageOf nativeIngressStep ingress (.bindValidatedAccount account)])
      (ingress.bindValidatedAccount account).2 := by
  have quiet : NativeIngressStage.bound session
      (stageOf nativeIngressStep ingress (.bindValidatedAccount account)) = [] := rfl
  have advances := ingress.queue.beginSession_advances
  by_cases refused : account = 0 ∨ ingress.session ≠ 0 ∨ ingress.fault ≠ .none
  · rw [BaresipNativeIngress.bindValidatedAccount, if_pos refused]
    exact known.frame quiet ingress.queue (UInt64.le_refl _) known.sound
  have session_ : ingress.session = 0 := by
    simp only [not_or, ne_eq, not_not] at refused
    exact refused.2.1
  have fault : ingress.fault = .none := by
    simp only [not_or, ne_eq, not_not] at refused
    exact refused.2.2
  by_cases failed : ingress.queue.beginSession.1 = 0
  · rw [BaresipNativeIngress.bindValidatedAccount, if_neg refused]
    dsimp only
    rw [if_pos failed]
    exact known.frame quiet _ advances.issued fun live => absurd session_ live
  have bind : ingress.bindValidatedAccount account = (ingress.queue.beginSession.1, { ingress with
      queue := ingress.queue.beginSession.2
      account := account, session := ingress.queue.beginSession.1
      call := 0, callToken := 0, lastCallToken := 0 }) := by
    rw [BaresipNativeIngress.bindValidatedAccount, if_neg refused]
    exact if_neg failed
  have output : (stageOf nativeIngressStep ingress (.bindValidatedAccount account)).output =
      .bound ingress.queue.beginSession.1 := by
    rw [stageOf, nativeIngressStep, bind]
  obtain ⟨newer, generation⟩ := ingress.queue.beginSession_issues failed
  rw [bind]
  exact known.begun quiet newer generation rfl rfl fault rfl rfl output

theorem bindsSession_step (session : UInt64) (history : List NativeIngressStage)
    (ingress : BaresipNativeIngress) (call : NativeIngressCall)
    (known : BindsSession session history ingress) :
    BindsSession session (history ++ [stageOf nativeIngressStep ingress call])
      (nativeIngressStep ingress call).2 := by
  have quiet (owner : ∀ callback, call ≠ .accept callback) :
      NativeIngressStage.bound session (stageOf nativeIngressStep ingress call) = [] :=
    bound_nil_of_owner owner
  cases call with
  | accept callback => exact bindsSession_accept known callback
  | bindValidatedAccount account => exact bindsSession_bind known account
  | resetAfterTeardown => exact known.ended rfl rfl rfl rfl (UInt64.le_refl _)
  | drain =>
      have quiet := quiet fun callback input => by cases input
      exact known.frame quiet ingress.queue.drain.2 (UInt64.le_refl _) known.sound
  | queueBegins =>
      have quiet := quiet fun callback input => by cases input
      exact known.frame quiet _ ingress.queue.beginSession_advances.issued known.sound
  | queueEnds =>
      have quiet := quiet fun callback input => by cases input
      exact known.frame quiet ingress.queue.invalidateSession (UInt64.le_refl _) known.sound

theorem binds_session (session : UInt64) (queue : BaresipEventMailbox)
    (calls : List NativeIngressCall) :
    BindsSession session (stages nativeIngressStep { queue := queue } calls)
      (finalState nativeIngressStep { queue := queue } calls) :=
  history_invariant (BindsSession session) (fun _ => True)
    (fun history ingress call known _ => bindsSession_step session history ingress call known)
    [] (BindsSession.initial session queue) fun _ _ => trivial

/-! ## The fault -/

theorem nativeIngressStep_shut {ingress : BaresipNativeIngress} (callback : NativeCallback)
    (shut : ingress.session = 0) :
    nativeIngressStep ingress (.accept callback) = (.accepted .rejected, ingress) := by
  rw [nativeIngressStep, BaresipNativeIngress.accept, if_pos (.inl shut)]

/-- What the fault keeps until the teardown. -/
theorem faulted_step {ingress : BaresipNativeIngress} {call : NativeIngressCall}
    (fault : ingress.fault ≠ .none ∧ ingress.session = 0) (kept : call ≠ .resetAfterTeardown) :
    (nativeIngressStep ingress call).2.fault ≠ .none ∧
      (nativeIngressStep ingress call).2.session = 0 := by
  cases call with
  | resetAfterTeardown => exact absurd rfl kept
  | accept callback =>
      rw [nativeIngressStep_shut callback fault.2]
      exact fault
  | bindValidatedAccount account =>
      rw [nativeIngressStep, BaresipNativeIngress.bindValidatedAccount,
        if_pos (.inr (.inr fault.1))]
      exact fault
  | drain => exact fault
  | queueBegins => exact fault
  | queueEnds => exact fault

theorem faulted_of_revoked {ingress : BaresipNativeIngress} {call : NativeIngressCall}
    (revoked : (nativeIngressStep ingress call).1 = .accepted .revoked) :
    (nativeIngressStep ingress call).2.Faulted := by
  cases call with
  | accept callback =>
      have answer : (ingress.accept callback).1 = .revoked := by
        rw [nativeIngressStep] at revoked
        exact NativeIngressAnswer.accepted.inj revoked
      have outcome := ingress.accept_outcome callback
      rw [answer] at outcome
      rw [nativeIngressStep]
      cases outcome with
      | revoked _ _ faulted => exact faulted
  | bindValidatedAccount account => cases revoked
  | resetAfterTeardown => cases revoked
  | drain => cases revoked
  | queueBegins => cases revoked
  | queueEnds => cases revoked

/-- Without a teardown the fault outlives every run. -/
theorem faulted_run {ingress : BaresipNativeIngress} {calls : List NativeIngressCall}
    (fault : ingress.fault ≠ .none ∧ ingress.session = 0)
    (kept : ∀ stage ∈ stages nativeIngressStep ingress calls, stage.input ≠ .resetAfterTeardown) :
    (finalState nativeIngressStep ingress calls).fault ≠ .none ∧
      (finalState nativeIngressStep ingress calls).session = 0 :=
  finalState_invariant_of_admitted
    (fun later : BaresipNativeIngress => later.fault ≠ .none ∧ later.session = 0)
    (fun stage : NativeIngressStage => stage.input ≠ .resetAfterTeardown)
    (fun _ _ fault kept => faulted_step fault kept) fault kept

/-- What a callback of a bound session does, with its live call told by the events before it. -/
structure CallbackVerdict (before : List NativeIngressStage) (stage : NativeIngressStage)
    (callback : NativeCallback) : Prop where
  owner : ∃ binding ∈ before, binding.input = .bindValidatedAccount stage.before.account ∧
    binding.output = .bound stage.before.session
  misfit : stage.output = .accepted .revoked ↔
    CallbackMisfit stage.before (liveCall (boundEvents stage.before.session before)) callback
  faulted : stage.output = .accepted .revoked → stage.after.Faulted
  queued : stage.output = .accepted .queued → ∃ token, stage.bound stage.before.session =
    [⟨callback.call, { kind := callback.signal.event, session := stage.before.session
                       callId := token }⟩]
  otherwise : stage.output = .accepted .revoked ∨ stage.output = .accepted .queued ∨
    stage.output = .accepted .ignored ∧ stage.after = stage.before

/--
What the ingress promises of every run: the events of each session are about one
live call at a time, a misfit revokes the session with all its events, and the
fault then closes the ingress until the teardown.
-/
structure BindsCalls (history : List NativeIngressStage) : Prop where
  events : ∀ session, BindsEvents (boundEvents session history)
  callbacks : ∀ before stage after callback, history = before ++ stage :: after →
    stage.input = .accept callback → stage.before.session ≠ 0 →
    CallbackVerdict before stage callback
  closed : ∀ before stage between next after callback,
    history = before ++ stage :: (between ++ next :: after) →
    stage.output = .accepted .revoked → (∀ other ∈ between, other.input ≠ .resetAfterTeardown) →
    next.input = .accept callback → next.output = .accepted .rejected ∧ next.after = next.before

theorem callbackVerdict {queue : BaresipEventMailbox} {first : List NativeIngressCall}
    {callback : NativeCallback}
    (live : (finalState nativeIngressStep { queue := queue } first).session ≠ 0) :
    CallbackVerdict (stages nativeIngressStep { queue := queue } first)
      (stageOf nativeIngressStep (finalState nativeIngressStep { queue := queue } first)
        (.accept callback)) callback := by
  have known := binds_session (finalState nativeIngressStep { queue := queue } first).session
    queue first
  generalize finalState nativeIngressStep { queue := queue } first = ingress at live known ⊢
  have outcome := ingress.accept_outcome callback
  have told := known.live rfl
  have result : (stageOf nativeIngressStep ingress (.accept callback)).output =
      .accepted (ingress.accept callback).1 := rfl
  have after : (stageOf nativeIngressStep ingress (.accept callback)).after =
      (ingress.accept callback).2 := rfl
  have grown_ (grown : (ingress.accept callback).2.queue.queued =
      ingress.queue.queued ++ [ingress.eventOf callback]) := bound_of_grown grown ingress.session
  refine ⟨known.owner live, ?_, ?_, ?_, ?_⟩
  · rw [result]
    dsimp only [stageOf]
    rw [told]
    generalize (ingress.accept callback).1 = answer at outcome
    generalize (ingress.accept callback).2 = final at outcome
    cases outcome with
    | shut closed =>
        exact absurd closed (not_or.mpr ⟨live, not_not.mpr (known.sound live)⟩)
    | ignored _ fitting => exact iff_of_false (fun same => by cases same) fitting
    | revoked _ misfit => exact iff_of_true rfl misfit
    | queued _ _ fitting => exact iff_of_false (fun same => by cases same) fitting
  · rw [result, after]
    generalize (ingress.accept callback).1 = answer at outcome
    generalize (ingress.accept callback).2 = final at outcome
    intro revoked
    cases outcome with
    | revoked _ _ faulted => exact faulted
    | shut _ => cases revoked
    | ignored _ _ => cases revoked
    | queued _ _ _ _ _ _ => cases revoked
  · rw [result]
    generalize (ingress.accept callback).1 = answer at outcome
    generalize (ingress.accept callback).2 = final at outcome grown_
    intro queued
    cases outcome with
    | queued _ _ _ _ grown _ => exact ⟨_, (grown_ grown).trans (if_pos rfl)⟩
    | shut _ => cases queued
    | ignored _ _ => cases queued
    | revoked _ _ _ => cases queued
  · rw [result, after]
    generalize (ingress.accept callback).1 = answer at outcome
    generalize (ingress.accept callback).2 = final at outcome
    cases outcome with
    | shut closed =>
        exact absurd closed (not_or.mpr ⟨live, not_not.mpr (known.sound live)⟩)
    | ignored _ _ => exact .inr (.inr ⟨rfl, rfl⟩)
    | revoked _ _ _ => exact .inl rfl
    | queued _ _ _ _ _ _ => exact .inr (.inl rfl)

theorem native_ingress_binds_calls (queue : BaresipEventMailbox)
    (calls : List NativeIngressCall) :
    BindsCalls (stages nativeIngressStep { queue := queue } calls) where
  events session := (binds_session session queue calls).binds
  callbacks := by
    intro before stage after callback split input live
    obtain ⟨first, call, rest, rfl, rfl, rfl, rfl⟩ := stages_split split
    have same : call = .accept callback := input
    subst same
    exact callbackVerdict live
  closed := by
    intro before stage between next after callback split revoked kept input
    obtain ⟨first, call, rest, rfl, rfl, rfl, behind⟩ := stages_split split
    obtain ⟨middle, last, rest', rfl, rfl, rfl, rfl⟩ := stages_split behind.symm
    have faulted := faulted_of_revoked revoked
    have fault := faulted_run ⟨faulted.fault, faulted.session⟩ kept
    have same : last = .accept callback := input
    subst same
    have answer := nativeIngressStep_shut callback fault.2
    exact ⟨congrArg Prod.fst answer, congrArg Prod.snd answer⟩

end AxeVoice.Native
