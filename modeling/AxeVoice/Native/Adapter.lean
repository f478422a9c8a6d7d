import AxeVoice.Native.Ingress

/-!
# The SDK event adapter

Native callbacks of one selected user agent become events of the session-fenced
mailbox.  Callbacks, `start` and `stop` run on the event-loop thread of the SDK,
one after the other.
-/

namespace AxeVoice.Native

open AxeVoice.Sip

/-- The native event types that the adapter tells apart. -/
inductive BeventEv where
  | exit
  | registering
  | registerOk
  | registerFail
  | unregistering
  | shutdown
  | audioError
  | callIncoming
  | callOutgoing
  | callEstablished
  | callClosed
  | callTransferFailed
  | unsupported (code : Nat)
  deriving DecidableEq, Repr

/-- A native event, as `bevent_get_ua` and `bevent_get_call` read it. -/
structure Bevent where
  ua : Address
  call : Address

/-- The process-wide claim on the static callback. -/
inductive ProcessOwner where
  | free
  | this
  | other
  deriving DecidableEq, Repr

structure BaresipSdkEventAdapter where
  lifecycle : BaresipCallbackLifecycle := {}
  processOwner : ProcessOwner := .free
  owner : Address := 0
  activeCall : Address := 0
  seenCalls : List Address := []
  captured : CapturedSession := {}
  contexts : List CapturedSession := []
  nativeKey : UInt64 := 0
  activeToken : UInt64 := 0
  registered : Bool := false
  sipRegistered : Bool := false
  activeIncoming : Bool := false
  callEstablished : Bool := false
  hangupSent : Bool := false
  answerSent : Bool := false
  transferAttempted : Bool := false
  transferFailed : Bool := false

/-- How `start` fares with what it asks of the process: the allocation of the context and
the answer of `bevent_register`. -/
structure StartOutcome where
  allocated : Bool
  subscribed : Bool

namespace BaresipSdkEventAdapter

def kMaxContexts : Nat := 512

def releaseOwner (adapter : BaresipSdkEventAdapter) : BaresipSdkEventAdapter :=
  { adapter with
    processOwner := if adapter.processOwner = .this then .free else adapter.processOwner }

/-- The flags that describe the active call, all down. -/
def withoutCall (adapter : BaresipSdkEventAdapter) : BaresipSdkEventAdapter :=
  { adapter with
    activeCall := 0, activeToken := 0, activeIncoming := false, callEstablished := false
    hangupSent := false, answerSent := false, transferAttempted := false
    transferFailed := false }

/-- A start that fails after the lifecycle was entered. -/
def abandonStart (adapter : BaresipSdkEventAdapter) : BaresipSdkEventAdapter :=
  { adapter with
    lifecycle := adapter.lifecycle.revokeAndWait, owner := 0, captured := {} }.releaseOwner

def start (adapter : BaresipSdkEventAdapter) (ownedUa : Address) (outcome : StartOutcome) :
    Bool × BaresipSdkEventAdapter :=
  if adapter.registered ∨ ownedUa = 0 ∨ adapter.contexts.length ≥ kMaxContexts then
    (false, adapter)
  else if adapter.processOwner ≠ .free then (false, adapter)
  else
    let adapter := { adapter with processOwner := .this }
    let (session, lifecycle) := adapter.lifecycle.beginLifecycle ownedUa
    let adapter := { adapter with lifecycle := lifecycle }
    if ¬ session.held then (false, adapter.releaseOwner)
    else
      let adapter := { adapter with
        owner := ownedUa, captured := session, nativeKey := 0, sipRegistered := false
        seenCalls := [] }.withoutCall
      if ¬ outcome.allocated then (false, adapter.abandonStart)
      else
        let adapter := { adapter with contexts := adapter.contexts ++ [session], registered := true }
        if ¬ outcome.subscribed then (false, { adapter with registered := false }.abandonStart)
        else (true, adapter)

def stop (adapter : BaresipSdkEventAdapter) : BaresipSdkEventAdapter :=
  { adapter with
    lifecycle := adapter.lifecycle.revokeAndWait, registered := false, owner := 0
    captured := {}, nativeKey := 0, sipRegistered := false
    seenCalls := [] }.withoutCall.releaseOwner

def active (adapter : BaresipSdkEventAdapter) : Bool :=
  adapter.registered && adapter.captured.held && adapter.lifecycle.isLive adapter.captured

def session (adapter : BaresipSdkEventAdapter) : UInt64 :=
  if adapter.active then adapter.captured.mailboxSession else 0

/-- The argument is the answer of `ua_isregistered` for the owned user agent. -/
def nativeRegisterOkSeen (adapter : BaresipSdkEventAdapter) (uaIsregistered : Bool) : Bool :=
  adapter.active && adapter.sipRegistered && adapter.owner ≠ 0 && uaIsregistered

def sameEpoch (adapter : BaresipSdkEventAdapter) (captured : CapturedSession) : Bool :=
  captured.fenceGeneration = adapter.captured.fenceGeneration &&
    captured.mailboxSession = adapter.captured.mailboxSession

def failClosed (adapter : BaresipSdkEventAdapter) : BaresipSdkEventAdapter :=
  { adapter with
    lifecycle := adapter.lifecycle.rejectCurrent, captured := {}
    sipRegistered := false }.withoutCall

/-- The registration cases of the switch: publish the event, then note the registration. -/
def publishRegistration (adapter : BaresipSdkEventAdapter) (callbackSession : CapturedSession)
    (kind : BaresipEventKind) (sipRegistered : Bool) : BaresipSdkEventAdapter :=
  let (published, lifecycle) := adapter.lifecycle.registration callbackSession kind
  let adapter := { adapter with lifecycle := lifecycle }
  if ¬ published then adapter.failClosed
  else { adapter with sipRegistered := sipRegistered }

/-- `BEVENT_CALL_INCOMING` and `BEVENT_CALL_OUTGOING`; the answers are those of the two
calls to `ua_isregistered`. -/
def openCall (adapter : BaresipSdkEventAdapter) (callbackSession : CapturedSession)
    (incoming : Bool) (call : Address) (uaIsregistered : Nat → Bool) : BaresipSdkEventAdapter :=
  if ¬ adapter.nativeRegisterOkSeen (uaIsregistered 0) then adapter.failClosed
  else if ¬ uaIsregistered 1 then adapter.failClosed
  else if call = 0 ∨ adapter.activeCall ≠ 0 ∨ call ∈ adapter.seenCalls ∨
      adapter.seenCalls.length ≥ 4096 ∨ adapter.nativeKey = uint64Max then adapter.failClosed
  else
    let newKey := adapter.nativeKey + 1
    let kind := if incoming then BaresipEventKind.callIncoming else .callOutgoing
    let (minted, lifecycle) := adapter.lifecycle.callStarted callbackSession newKey kind
    let adapter := { adapter with lifecycle := lifecycle }
    match minted with
    | none => adapter.failClosed
    | some mintedToken =>
        if mintedToken = 0 then adapter.failClosed
        else
          { adapter.withoutCall with
            nativeKey := newKey, activeCall := call, activeToken := mintedToken
            activeIncoming := incoming, seenCalls := call :: adapter.seenCalls }

/-- `BEVENT_CALL_ESTABLISHED` and `BEVENT_CALL_CLOSED`. -/
def changeCall (adapter : BaresipSdkEventAdapter) (callbackSession : CapturedSession)
    (closed : Bool) (call : Address) : BaresipSdkEventAdapter :=
  if call = 0 ∨ call ≠ adapter.activeCall then adapter.failClosed
  else
    let kind := if closed then BaresipEventKind.callClosed else .callEstablished
    let (published, lifecycle) := adapter.lifecycle.callChanged callbackSession adapter.nativeKey kind
    let adapter := { adapter with lifecycle := lifecycle }
    if ¬ published then adapter.failClosed
    else if closed then adapter.withoutCall
    else { adapter with callEstablished := true }

/-- The second switch, over an event of the owned user agent. -/
def onOwnedEvent (adapter : BaresipSdkEventAdapter) (callbackSession : CapturedSession)
    (type : BeventEv) (event : Bevent) (uaIsregistered : Nat → Bool) : BaresipSdkEventAdapter :=
  match type with
  | .audioError => adapter.failClosed
  | .registering =>
      if adapter.activeCall ≠ 0 then
        if ¬ adapter.sipRegistered ∨ ¬ uaIsregistered 0 then adapter.failClosed else adapter
      else adapter.publishRegistration callbackSession .registering false
  | .registerOk =>
      if ¬ uaIsregistered 0 then adapter.failClosed
      else if adapter.activeCall ≠ 0 ∧ adapter.sipRegistered then adapter
      else adapter.publishRegistration callbackSession .registerOk true
  | .registerFail => adapter.publishRegistration callbackSession .registerFail false
  | .unregistering => adapter.publishRegistration callbackSession .unregistering false
  | .callTransferFailed =>
      if adapter.transferAttempted ∧ adapter.activeCall ≠ 0 ∧ event.call = adapter.activeCall then
        { adapter with transferFailed := true }
      else adapter
  | .callIncoming => adapter.openCall callbackSession true event.call uaIsregistered
  | .callOutgoing => adapter.openCall callbackSession false event.call uaIsregistered
  | .callEstablished => adapter.changeCall callbackSession false event.call
  | .callClosed => adapter.changeCall callbackSession true event.call
  | .exit | .shutdown | .unsupported _ => adapter

def onEvent (adapter : BaresipSdkEventAdapter) (callbackSession : CapturedSession)
    (type : BeventEv) (event : Option Bevent) (uaIsregistered : Nat → Bool) :
    BaresipSdkEventAdapter :=
  if ¬ adapter.sameEpoch callbackSession ∨ ¬ adapter.active then adapter
  else
    match type with
    | .exit => adapter.failClosed
    | .unsupported _ => adapter
    | _ =>
        match event with
        | none => adapter
        | some event =>
            if event.ua ≠ adapter.owner then adapter
            else if type = .shutdown then adapter.failClosed
            else adapter.onOwnedEvent callbackSession type event uaIsregistered

/-- The static callback; `context` is the position of its argument among the contexts
allocated so far. -/
def callback (adapter : BaresipSdkEventAdapter) (type : BeventEv) (event : Option Bevent)
    (context : Option Nat) (uaIsregistered : Nat → Bool) : BaresipSdkEventAdapter :=
  match context.bind fun position => adapter.contexts[position]? with
  | none => adapter
  | some captured =>
      match adapter.lifecycle.holdNativeCallback captured with
      | none => adapter
      | some lifecycle =>
          let adapter := { adapter with lifecycle := lifecycle }.onEvent captured type event
            uaIsregistered
          { adapter with lifecycle := adapter.lifecycle.release }

/-- The ingress after an operation that a callback asks of it. -/
inductive IngressOperated (ingress : BaresipCallbackIngress) : BaresipCallbackIngress → Prop where
  | registration (session : UInt64) (account : Address) (kind : BaresipEventKind) :
      IngressOperated ingress (ingress.registration session account kind).2
  | callStarted (session : UInt64) (account : Address) (nativeKey : UInt64)
      (kind : BaresipEventKind) :
      IngressOperated ingress (ingress.callStarted session account nativeKey kind).2
  | callChanged (session : UInt64) (account : Address) (nativeKey : UInt64)
      (kind : BaresipEventKind) :
      IngressOperated ingress (ingress.callChanged session account nativeKey kind).2

theorem IngressOperated.keeps {ingress after : BaresipCallbackIngress}
    (operated : IngressOperated ingress after) : ingress.Keeps after := by
  cases operated with
  | registration session account kind => exact ingress.registration_keeps session account kind
  | callStarted session account nativeKey kind =>
      exact ingress.callStarted_keeps session account nativeKey kind
  | callChanged session account nativeKey kind =>
      exact ingress.callChanged_keeps session account nativeKey kind

def withIngress (adapter : BaresipSdkEventAdapter) (ingress : BaresipCallbackIngress) :
    BaresipSdkEventAdapter :=
  { adapter with lifecycle := { adapter.lifecycle with ingress := ingress } }

/-- Adapters that differ in nothing but the flags of the registration and the call. -/
structure SameEpochData (before after : BaresipSdkEventAdapter) : Prop where
  lifecycle : after.lifecycle = before.lifecycle
  captured : after.captured = before.captured
  contexts : after.contexts = before.contexts
  registered : after.registered = before.registered

/--
The rule of an event: it is ignored, or it ends the epoch, or one operation of the
ingress publishes it, after which the epoch may end and the flags are written.
-/
structure Handling (adapter : BaresipSdkEventAdapter)
    (Holds : BaresipSdkEventAdapter → Prop) : Prop where
  ignored : Holds adapter
  closed : Holds adapter.failClosed
  published : ∀ {ingress}, IngressOperated adapter.lifecycle.ingress ingress →
    Holds (adapter.withIngress ingress)
  revoked : ∀ {ingress}, IngressOperated adapter.lifecycle.ingress ingress →
    Holds (adapter.withIngress ingress).failClosed
  flags : ∀ {before after}, Holds before → SameEpochData before after → Holds after

variable {adapter : BaresipSdkEventAdapter} {Holds : BaresipSdkEventAdapter → Prop}

/-- An operation of the ingress under a lease, and the end of the epoch after it. -/
theorem Handling.underLease {α : Type} (handling : adapter.Handling Holds)
    (captured : CapturedSession) (refused : α)
    (operation : BaresipCallbackIngress → α × BaresipCallbackIngress)
    (operated : IngressOperated adapter.lifecycle.ingress (operation adapter.lifecycle.ingress).2) :
    let after := { adapter with
      lifecycle := (adapter.lifecycle.underLease captured refused operation).2 }
    Holds after ∧ Holds after.failClosed := by
  unfold BaresipCallbackLifecycle.underLease
  cases leased : adapter.lifecycle.fence.admitCallback captured.fenceGeneration with
  | none => exact ⟨handling.ignored, handling.closed⟩
  | some fence =>
      obtain ⟨_, rfl⟩ := BaresipCallbackFence.admitCallback_some leased
      simp only [BaresipCallbackFence.releaseOne_lease]
      exact ⟨handling.published operated, handling.revoked operated⟩

theorem Handling.publishRegistration (handling : adapter.Handling Holds)
    (captured : CapturedSession) (kind : BaresipEventKind) (registered : Bool) :
    Holds (adapter.publishRegistration captured kind registered) := by
  obtain ⟨published, revoked⟩ := handling.underLease captured false
    (fun ingress => ingress.registration captured.mailboxSession captured.accountIdentity kind)
    (.registration _ _ _)
  unfold BaresipSdkEventAdapter.publishRegistration
  dsimp only
  split
  · exact revoked
  · exact handling.flags published ⟨rfl, rfl, rfl, rfl⟩

theorem Handling.openCall (handling : adapter.Handling Holds) (captured : CapturedSession)
    (incoming : Bool) (call : Address) (uaIsregistered : Nat → Bool) :
    Holds (adapter.openCall captured incoming call uaIsregistered) := by
  obtain ⟨published, revoked⟩ := handling.underLease captured none
    (fun ingress => ingress.callStarted captured.mailboxSession captured.accountIdentity
      (adapter.nativeKey + 1) (if incoming then .callIncoming else .callOutgoing))
    (.callStarted _ _ _ _)
  unfold BaresipSdkEventAdapter.openCall
  split
  · exact handling.closed
  split
  · exact handling.closed
  split
  · exact handling.closed
  dsimp only
  split
  · exact revoked
  split
  · exact revoked
  · exact handling.flags published ⟨rfl, rfl, rfl, rfl⟩

theorem Handling.changeCall (handling : adapter.Handling Holds) (captured : CapturedSession)
    (closed : Bool) (call : Address) :
    Holds (adapter.changeCall captured closed call) := by
  obtain ⟨published, revoked⟩ := handling.underLease captured false
    (fun ingress => ingress.callChanged captured.mailboxSession captured.accountIdentity
      adapter.nativeKey (if closed then .callClosed else .callEstablished))
    (.callChanged _ _ _ _)
  unfold BaresipSdkEventAdapter.changeCall
  split
  · exact handling.closed
  cases closed with
  | true =>
      simp only [if_true]
      split
      · exact revoked
      · exact handling.flags published ⟨rfl, rfl, rfl, rfl⟩
  | false =>
      simp only [Bool.false_eq_true, if_false]
      split
      · exact revoked
      · exact handling.flags published ⟨rfl, rfl, rfl, rfl⟩

theorem Handling.onOwnedEvent (handling : adapter.Handling Holds) (captured : CapturedSession)
    (type : BeventEv) (event : Bevent) (uaIsregistered : Nat → Bool) :
    Holds (adapter.onOwnedEvent captured type event uaIsregistered) := by
  cases type with
  | audioError => exact handling.closed
  | registering =>
      simp only [BaresipSdkEventAdapter.onOwnedEvent]
      split
      · split
        · exact handling.closed
        · exact handling.ignored
      · exact handling.publishRegistration _ _ _
  | registerOk =>
      simp only [BaresipSdkEventAdapter.onOwnedEvent]
      split
      · exact handling.closed
      split
      · exact handling.ignored
      · exact handling.publishRegistration _ _ _
  | registerFail => exact handling.publishRegistration captured .registerFail false
  | unregistering => exact handling.publishRegistration captured .unregistering false
  | callTransferFailed =>
      simp only [BaresipSdkEventAdapter.onOwnedEvent]
      split
      · exact handling.flags handling.ignored ⟨rfl, rfl, rfl, rfl⟩
      · exact handling.ignored
  | callIncoming => exact handling.openCall captured true event.call uaIsregistered
  | callOutgoing => exact handling.openCall captured false event.call uaIsregistered
  | callEstablished => exact handling.changeCall captured false event.call
  | callClosed => exact handling.changeCall captured true event.call
  | exit | shutdown | unsupported => exact handling.ignored

theorem Handling.onEvent (handling : adapter.Handling Holds) (captured : CapturedSession)
    (type : BeventEv) (event : Option Bevent) (uaIsregistered : Nat → Bool) :
    Holds (adapter.onEvent captured type event uaIsregistered) := by
  unfold BaresipSdkEventAdapter.onEvent
  split
  · exact handling.ignored
  cases type with
  | exit => exact handling.closed
  | unsupported code => exact handling.ignored
  | _ =>
      cases event with
      | none => exact handling.ignored
      | some event =>
          dsimp only
          split
          · exact handling.ignored
          split
          · exact handling.closed
          · exact handling.onOwnedEvent _ _ _ _

/-- A callback takes no lease away, begins no generation and registers no context. -/
structure Keeps (before after : BaresipSdkEventAdapter) : Prop where
  inFlight : after.lifecycle.fence.inFlight = before.lifecycle.fence.inFlight
  generation : after.lifecycle.fence.generation = before.lifecycle.fence.generation
  contexts : after.contexts = before.contexts
  mailbox : before.lifecycle.ingress.Keeps after.lifecycle.ingress

theorem keeps_refl (adapter : BaresipSdkEventAdapter) : adapter.Keeps adapter :=
  ⟨rfl, rfl, rfl, adapter.lifecycle.ingress.keeps_refl⟩

theorem handling_keeps (adapter : BaresipSdkEventAdapter) : adapter.Handling adapter.Keeps where
  ignored := adapter.keeps_refl
  closed := ⟨rfl, rfl, rfl, adapter.lifecycle.ingress.keeps_revokeLocked⟩
  published := fun operated => ⟨rfl, rfl, rfl, operated.keeps⟩
  revoked := fun operated => ⟨rfl, rfl, rfl, operated.keeps.1, .inr rfl⟩
  flags := fun kept same =>
    ⟨same.lifecycle ▸ kept.inFlight, same.lifecycle ▸ kept.generation,
      same.contexts.trans kept.contexts, same.lifecycle ▸ kept.mailbox⟩

theorem onEvent_keeps (adapter : BaresipSdkEventAdapter) (captured : CapturedSession)
    (type : BeventEv) (event : Option Bevent) (uaIsregistered : Nat → Bool) :
    adapter.Keeps (adapter.onEvent captured type event uaIsregistered) :=
  adapter.handling_keeps.onEvent captured type event uaIsregistered

end BaresipSdkEventAdapter

end AxeVoice.Native
