import AxeVoice.Native.Adapter

/-!
# The session that the adapter keeps

What the adapter means, without the fence, the ingress and their two copies of
the call keys: a registration flag, at most one active call and the calls seen so
far.  Every native event closes the session, leaves it as it is, or publishes one
event.  The adapter refines this machine as long as it is active.
-/

namespace AxeVoice.Native

open AxeVoice.Sip

structure SdkCall where
  pointer : Address
  token : UInt64
  incoming : Bool
  established : Bool

structure SdkSession where
  registered : Bool := false
  call : Option SdkCall := none
  seen : List Address := []
  minted : UInt64 := 0

inductive Reaction where
  | closes
  | stays
  | publishes (kind : BaresipEventKind) (token : UInt64) (next : SdkSession)

/-- One native event, with the answers that `ua_isregistered` gives while it is handled. -/
structure Delivery where
  type : BeventEv
  event : Option Bevent
  uaIsregistered : Nat → Bool

namespace SdkSession

def opens (session : SdkSession) (incoming : Bool) (pointer : Address)
    (uaIsregistered : Nat → Bool) : Reaction :=
  if session.registered ∧ uaIsregistered 0 ∧ uaIsregistered 1 ∧ pointer ≠ 0 ∧
      session.call.isNone ∧ pointer ∉ session.seen ∧ session.seen.length < 4096 ∧
      session.minted ≠ uint64Max then
    .publishes (if incoming then .callIncoming else .callOutgoing) (session.minted + 1)
      { session with
        call := some ⟨pointer, session.minted + 1, incoming, false⟩
        seen := pointer :: session.seen
        minted := session.minted + 1 }
  else .closes

def changes (session : SdkSession) (closed : Bool) (pointer : Address) : Reaction :=
  match session.call with
  | none => .closes
  | some call =>
      if pointer ≠ call.pointer then .closes
      else if closed then .publishes .callClosed call.token { session with call := none }
      else
        .publishes .callEstablished call.token
          { session with call := some { call with established := true } }

/-- The reaction to an event of the owned user agent. -/
def reactOwned (session : SdkSession) (type : BeventEv) (pointer : Address)
    (uaIsregistered : Nat → Bool) : Reaction :=
  match type with
  | .audioError => .closes
  | .registering =>
      if session.call.isNone then .publishes .registering 0 { session with registered := false }
      else if session.registered ∧ uaIsregistered 0 then .stays
      else .closes
  | .registerOk =>
      if ¬ uaIsregistered 0 then .closes
      else if session.call.isSome ∧ session.registered then .stays
      else .publishes .registerOk 0 { session with registered := true }
  | .registerFail => .publishes .registerFail 0 { session with registered := false }
  | .unregistering => .publishes .unregistering 0 { session with registered := false }
  | .callTransferFailed => .stays
  | .callIncoming => session.opens true pointer uaIsregistered
  | .callOutgoing => session.opens false pointer uaIsregistered
  | .callEstablished => session.changes false pointer
  | .callClosed => session.changes true pointer
  | .exit | .shutdown | .unsupported _ => .stays

def react (session : SdkSession) (owner : Address) (delivery : Delivery) : Reaction :=
  match delivery.type with
  | .exit => .closes
  | .unsupported _ => .stays
  | type =>
      match delivery.event with
      | none => .stays
      | some event =>
          if event.ua ≠ owner then .stays
          else if type = .shutdown then .closes
          else session.reactOwned type event.call delivery.uaIsregistered

/-- The events that a session publishes, with the session that follows. -/
inductive Published (session : SdkSession) : BaresipEventKind → UInt64 → SdkSession → Prop where
  | registering (noCall : session.call = none) :
      Published session .registering 0 { session with registered := false }
  | registerOk : Published session .registerOk 0 { session with registered := true }
  | registerFail : Published session .registerFail 0 { session with registered := false }
  | unregistering : Published session .unregistering 0 { session with registered := false }
  | opened (incoming : Bool) (pointer : Address) (registered : session.registered = true)
      (free : session.call = none) (room : session.minted ≠ uint64Max) :
      Published session (if incoming then .callIncoming else .callOutgoing) (session.minted + 1)
        { session with
          call := some ⟨pointer, session.minted + 1, incoming, false⟩
          seen := pointer :: session.seen
          minted := session.minted + 1 }
  | established (call : SdkCall) (held : session.call = some call) :
      Published session .callEstablished call.token
        { session with call := some { call with established := true } }
  | closed (call : SdkCall) (held : session.call = some call) :
      Published session .callClosed call.token { session with call := none }

variable {session next : SdkSession} {kind : BaresipEventKind} {token : UInt64}

theorem opens_published {incoming : Bool} {pointer : Address} {uaIsregistered : Nat → Bool}
    (published : session.opens incoming pointer uaIsregistered = .publishes kind token next) :
    session.Published kind token next := by
  unfold opens at published
  split at published
  · next admitted =>
      obtain ⟨registered, _, _, _, free, _, _, room⟩ := admitted
      cases published
      exact .opened incoming pointer registered (Option.isNone_iff_eq_none.mp free) room
  · cases published

theorem changes_published {closed : Bool} {pointer : Address}
    (published : session.changes closed pointer = .publishes kind token next) :
    session.Published kind token next := by
  unfold changes at published
  split at published
  · cases published
  next call held =>
  split at published
  · cases published
  split at published
  · cases published
    exact .closed call held
  · cases published
    exact .established call held

theorem reactOwned_published {type : BeventEv} {pointer : Address} {uaIsregistered : Nat → Bool}
    (published : session.reactOwned type pointer uaIsregistered = .publishes kind token next) :
    session.Published kind token next := by
  cases type with
  | registering =>
      simp only [reactOwned] at published
      split at published
      · next noCall =>
          cases published
          exact .registering (Option.isNone_iff_eq_none.mp noCall)
      · split at published <;> cases published
  | registerOk =>
      simp only [reactOwned] at published
      split at published
      · cases published
      split at published
      · cases published
      · cases published
        exact .registerOk
  | registerFail =>
      cases published
      exact .registerFail
  | unregistering =>
      cases published
      exact .unregistering
  | callIncoming => exact opens_published published
  | callOutgoing => exact opens_published published
  | callEstablished => exact changes_published published
  | callClosed => exact changes_published published
  | _ => cases published

theorem react_published {owner : Address} {delivery : Delivery}
    (published : session.react owner delivery = .publishes kind token next) :
    session.Published kind token next := by
  obtain ⟨type, event, uaIsregistered⟩ := delivery
  unfold react at published
  cases type with
  | exit => cases published
  | unsupported code => cases published
  | _ =>
      cases event with
      | none => cases published
      | some event =>
          dsimp only at published
          split at published
          · cases published
          split at published
          · cases published
          · exact reactOwned_published published

end SdkSession

namespace BaresipCallbackLifecycle

/-- The lifecycle admits the callbacks of this captured session, and the mailbox is in it. -/
structure Open (lifecycle : BaresipCallbackLifecycle) (captured : CapturedSession) : Prop where
  held : captured.held = true
  accepting : lifecycle.fence.accepting = true
  closing : lifecycle.fence.closing = false
  generation : lifecycle.fence.generation = captured.fenceGeneration
  session : lifecycle.ingress.session = captured.mailboxSession
  account : lifecycle.ingress.account = captured.accountIdentity
  mailbox : lifecycle.ingress.mailbox.session = captured.mailboxSession
  intact : lifecycle.ingress.mailbox.overflow = false

/-- The lifecycle after an event was published. -/
def publish (lifecycle : BaresipCallbackLifecycle) (event : BaresipNativeEvent) :
    BaresipCallbackLifecycle :=
  { lifecycle with ingress := { lifecycle.ingress with
      mailbox := (lifecycle.ingress.mailbox.enqueue event).2 } }

variable {lifecycle : BaresipCallbackLifecycle} {captured : CapturedSession}

theorem held_nonzero (held : captured.held = true) :
    captured.fenceGeneration ≠ 0 ∧ captured.mailboxSession ≠ 0 ∧ captured.accountIdentity ≠ 0 := by
  simpa [CapturedSession.held, and_assoc] using held

theorem Open.admitCallback (opened : lifecycle.Open captured) :
    lifecycle.fence.admitCallback captured.fenceGeneration =
      some { lifecycle.fence with inFlight := lifecycle.fence.inFlight + 1 } := by
  simp [BaresipCallbackFence.admitCallback, opened.accepting, opened.closing, opened.generation,
    (held_nonzero opened.held).1]

theorem Open.isLive (opened : lifecycle.Open captured) : lifecycle.isLive captured = true := by
  simp [BaresipCallbackLifecycle.isLive, opened.admitCallback, opened.session]

theorem Open.underLease {α : Type} (opened : lifecycle.Open captured) (refused : α)
    (operation : BaresipCallbackIngress → α × BaresipCallbackIngress) :
    lifecycle.underLease captured refused operation =
      ((operation lifecycle.ingress).1,
        { lifecycle with ingress := (operation lifecycle.ingress).2 }) := by
  simp [BaresipCallbackLifecycle.underLease, opened.admitCallback]

theorem Open.admitLocked (opened : lifecycle.Open captured) :
    lifecycle.ingress.admitLocked captured.mailboxSession captured.accountIdentity =
      (true, lifecycle.ingress) := by
  have nonzero := held_nonzero opened.held
  simp [BaresipCallbackIngress.admitLocked, BaresipCallbackIngress.isCurrentLocked,
    opened.session, opened.account, nonzero.2]

/-- The event that the ingress publishes for this session. -/
def eventOf (captured : CapturedSession) (kind : BaresipEventKind) (token : UInt64) :
    BaresipNativeEvent :=
  { kind := kind, session := captured.mailboxSession, callId := token }

/-- The one way in which an open lifecycle refuses an event is a full mailbox. -/
theorem Open.enqueueLocked (opened : lifecycle.Open captured) (kind : BaresipEventKind)
    (token : UInt64) :
    if lifecycle.ingress.mailbox.pending = kCapacity then
      (lifecycle.ingress.enqueueLocked kind token).1 = false
    else lifecycle.ingress.enqueueLocked kind token =
      (true, (lifecycle.publish (eventOf captured kind token)).ingress) := by
  have nonzero := held_nonzero opened.held
  unfold BaresipCallbackIngress.enqueueLocked BaresipEventMailbox.enqueue
    BaresipCallbackLifecycle.publish BaresipEventMailbox.enqueue eventOf
  simp only [opened.session, opened.mailbox, opened.intact, nonzero.2.1, ne_eq, not_true_eq_false,
    Bool.false_eq_true, or_self, if_false]
  split
  · simp
  · simp

theorem Open.registration (opened : lifecycle.Open captured) {kind : BaresipEventKind}
    (ofRegistration : kind = .registering ∨ kind = .registerOk ∨ kind = .registerFail ∨
      kind = .unregistering) :
    if lifecycle.ingress.mailbox.pending = kCapacity then
      (lifecycle.registration captured kind).1 = false
    else lifecycle.registration captured kind =
      (true, lifecycle.publish (eventOf captured kind 0)) := by
  have published := opened.enqueueLocked kind 0
  have same : lifecycle.registration captured kind =
      ((lifecycle.ingress.enqueueLocked kind 0).1,
        { lifecycle with ingress := (lifecycle.ingress.enqueueLocked kind 0).2 }) := by
    rw [BaresipCallbackLifecycle.registration, opened.underLease]
    simp only [BaresipCallbackIngress.registration, opened.admitLocked]
    rcases ofRegistration with rfl | rfl | rfl | rfl <;> rfl
  rw [same]
  split
  · next full => simpa only [if_pos full] using published
  · next room =>
      rw [if_neg room] at published
      rw [published]
      rfl

theorem Open.callStarted (opened : lifecycle.Open captured) (kind : BaresipEventKind)
    (nativeKey : UInt64) (opening : kind = .callIncoming ∨ kind = .callOutgoing)
    (fresh : lifecycle.ingress.lastNativeKey < nativeKey)
    (free : lifecycle.ingress.activeNativeKey = 0)
    (room : lifecycle.ingress.lastToken ≠ uint64Max) :
    if lifecycle.ingress.mailbox.pending = kCapacity then
      (lifecycle.callStarted captured nativeKey kind).1 = none
    else
      let token := lifecycle.ingress.lastToken + 1
      let published := lifecycle.publish (eventOf captured kind token)
      lifecycle.callStarted captured nativeKey kind =
        (some token, { published with ingress := { published.ingress with
          activeNativeKey := nativeKey, activeToken := token
          lastNativeKey := nativeKey, lastToken := token } }) := by
  have published := opened.enqueueLocked kind (lifecycle.ingress.lastToken + 1)
  have admitted : ¬ ((kind ≠ .callIncoming ∧ kind ≠ .callOutgoing) ∨ nativeKey = 0 ∨
      nativeKey ≤ lifecycle.ingress.lastNativeKey ∨ lifecycle.ingress.activeNativeKey ≠ 0 ∨
      lifecycle.ingress.lastToken = uint64Max) := by
    rcases opening with rfl | rfl <;> grind
  rw [BaresipCallbackLifecycle.callStarted, opened.underLease]
  simp only [BaresipCallbackIngress.callStarted, opened.admitLocked, if_neg admitted]
  split
  · next full =>
      rw [if_pos full] at published
      split
      · rfl
      · next accepted => simp [accepted] at published
  · next notFull =>
      rw [if_neg notFull] at published
      rw [published]
      rfl

theorem Open.callChanged (opened : lifecycle.Open captured) (closed : Bool)
    {nativeKey : UInt64} (nonzero : nativeKey ≠ 0)
    (same : lifecycle.ingress.activeNativeKey = nativeKey)
    (token : lifecycle.ingress.activeToken ≠ 0) :
    let kind := if closed then BaresipEventKind.callClosed else .callEstablished
    if lifecycle.ingress.mailbox.pending = kCapacity then
      (lifecycle.callChanged captured nativeKey kind).1 = false
    else
      let published := lifecycle.publish (eventOf captured kind lifecycle.ingress.activeToken)
      lifecycle.callChanged captured nativeKey kind =
        (true, { published with ingress := if closed then
          { published.ingress with activeNativeKey := 0, activeToken := 0 }
          else published.ingress }) := by
  intro kind
  have published := opened.enqueueLocked kind lifecycle.ingress.activeToken
  have admitted : ¬ ((kind ≠ .callEstablished ∧ kind ≠ .callClosed) ∨ nativeKey = 0 ∨
      nativeKey ≠ lifecycle.ingress.activeNativeKey ∨ lifecycle.ingress.activeToken = 0) := by
    simp only [not_or, kind]
    refine ⟨by cases closed <;> simp, nonzero, by simp [same], token⟩
  rw [BaresipCallbackLifecycle.callChanged, opened.underLease]
  simp only [BaresipCallbackIngress.callChanged, opened.admitLocked, if_neg admitted]
  split
  · next full =>
      rw [if_pos full] at published
      split
      · rfl
      · next accepted => simp [accepted] at published
  · next notFull =>
      rw [if_neg notFull] at published
      rw [published]
      cases closed <;> rfl

theorem Open.publish (opened : lifecycle.Open captured)
    (room : lifecycle.ingress.mailbox.pending ≠ kCapacity) (kind : BaresipEventKind)
    (token : UInt64) :
    (lifecycle.publish (eventOf captured kind token)).Open captured := by
  have nonzero := held_nonzero opened.held
  refine { opened with mailbox := ?_, intact := ?_ }
  all_goals
    unfold BaresipCallbackLifecycle.publish BaresipEventMailbox.enqueue eventOf
    simp [opened.mailbox, opened.intact, nonzero.2.1, room]

/-- The call keys of the ingress do not matter for what is admitted. -/
theorem Open.withTokens (opened : lifecycle.Open captured)
    {activeKey activeToken lastKey lastToken : UInt64} :
    ({ lifecycle with ingress := { lifecycle.ingress with
        activeNativeKey := activeKey, activeToken := activeToken
        lastNativeKey := lastKey, lastToken := lastToken } } : BaresipCallbackLifecycle).Open
      captured :=
  { opened with }

end BaresipCallbackLifecycle

/-! ## The refinement -/

namespace BaresipSdkEventAdapter

def mailbox (adapter : BaresipSdkEventAdapter) : BaresipEventMailbox :=
  adapter.lifecycle.ingress.mailbox

/-- The adapter's and the ingress's data of the active call. -/
def HoldsCall (adapter : BaresipSdkEventAdapter) : Option SdkCall → Prop
  | none =>
      adapter.activeCall = 0 ∧ adapter.activeToken = 0 ∧
        adapter.lifecycle.ingress.activeNativeKey = 0
  | some call =>
      adapter.activeCall = call.pointer ∧ call.pointer ≠ 0 ∧
        adapter.activeToken = call.token ∧ call.token ≠ 0 ∧
        adapter.activeIncoming = call.incoming ∧ adapter.callEstablished = call.established ∧
        adapter.lifecycle.ingress.activeNativeKey = adapter.nativeKey ∧ adapter.nativeKey ≠ 0 ∧
        adapter.lifecycle.ingress.activeToken = call.token

/-- The adapter is active and keeps this session. -/
structure Represents (adapter : BaresipSdkEventAdapter) (session : SdkSession) : Prop where
  registered : adapter.registered = true
  opened : adapter.lifecycle.Open adapter.captured
  owner : adapter.owner = adapter.captured.accountIdentity
  context : adapter.contexts.getLast? = some adapter.captured
  epoch : ∀ context ∈ adapter.contexts,
    context.fenceGeneration = adapter.captured.fenceGeneration → context = adapter.captured
  sipRegistered : adapter.sipRegistered = session.registered
  seen : adapter.seenCalls = session.seen
  nativeKey : adapter.nativeKey = session.minted
  lastNativeKey : adapter.lifecycle.ingress.lastNativeKey = session.minted
  lastToken : adapter.lifecycle.ingress.lastToken = session.minted
  call : adapter.HoldsCall session.call

variable {adapter : BaresipSdkEventAdapter} {session : SdkSession}

theorem Represents.active (represents : adapter.Represents session) : adapter.active = true := by
  simp [BaresipSdkEventAdapter.active, represents.registered, represents.opened.held,
    represents.opened.isLive]

theorem Represents.owner_ne (represents : adapter.Represents session) : adapter.owner ≠ 0 := by
  rw [represents.owner]
  exact (BaresipCallbackLifecycle.held_nonzero represents.opened.held).2.2

theorem Represents.activeCall_iff (represents : adapter.Represents session) :
    adapter.activeCall = 0 ↔ session.call = none := by
  have call := represents.call
  cases held : session.call with
  | none =>
      rw [held] at call
      simp [call.1]
  | some active =>
      rw [held] at call
      simp [call.1, call.2.1]

/-- What the adapter becomes when the session reacts to an event. -/
def Follows (adapter : BaresipSdkEventAdapter) (session : SdkSession) (reaction : Reaction)
    (after : BaresipSdkEventAdapter) : Prop :=
  match reaction with
  | .closes => after.captured = {}
  | .stays => after.Represents session ∧ after.lifecycle = adapter.lifecycle
  | .publishes kind token next =>
      if adapter.mailbox.pending = kCapacity then after.captured = {}
      else after.Represents next ∧ after.lifecycle.fence = adapter.lifecycle.fence ∧
        after.mailbox = (adapter.mailbox.enqueue
          (BaresipCallbackLifecycle.eventOf adapter.captured kind token)).2

theorem publishRegistration_follows (represents : adapter.Represents session)
    {kind : BaresipEventKind} (registered : Bool)
    (ofRegistration : kind = .registering ∨ kind = .registerOk ∨ kind = .registerFail ∨
      kind = .unregistering) :
    adapter.Follows session (.publishes kind 0 { session with registered := registered })
      (adapter.publishRegistration adapter.captured kind registered) := by
  have published := represents.opened.registration ofRegistration
  unfold Follows publishRegistration
  simp only [mailbox]
  split
  · next full =>
      rw [if_pos full] at published
      simp [published, failClosed, withoutCall]
  · next room =>
      rw [if_neg room] at published
      rw [published]
      refine ⟨?_, rfl, rfl⟩
      exact { represents with
        opened := represents.opened.publish room kind 0, sipRegistered := rfl }

theorem openCall_follows (represents : adapter.Represents session) (incoming : Bool)
    (pointer : Address) (uaIsregistered : Nat → Bool) :
    adapter.Follows session (session.opens incoming pointer uaIsregistered)
      (adapter.openCall adapter.captured incoming pointer uaIsregistered) := by
  have seenOk : adapter.nativeRegisterOkSeen (uaIsregistered 0) =
      (session.registered && uaIsregistered 0) := by
    simp [nativeRegisterOkSeen, represents.active, represents.owner_ne, represents.sipRegistered]
  unfold SdkSession.opens openCall
  rw [seenOk]
  by_cases confirmed : session.registered = true ∧ uaIsregistered 0 = true
  rotate_left
  · rw [if_neg (fun admitted => confirmed ⟨admitted.1, admitted.2.1⟩), if_pos (by simpa using confirmed)]
    rfl
  have passed : ¬ ¬ (session.registered && uaIsregistered 0) = true := by simp [confirmed]
  rw [if_neg passed]
  by_cases again : uaIsregistered 1 = true
  rotate_left
  · rw [if_neg (fun admitted => again admitted.2.2.1), if_pos again]
    rfl
  rw [if_neg (not_not_intro again)]
  by_cases refused : pointer = 0 ∨ adapter.activeCall ≠ 0 ∨ pointer ∈ adapter.seenCalls ∨
      adapter.seenCalls.length ≥ 4096 ∨ adapter.nativeKey = uint64Max
  · rw [if_pos refused, if_neg ?_]
    · rfl
    · rintro ⟨_, _, _, pointerOk, free, unseen, few, room⟩
      rw [represents.seen, represents.nativeKey, Ne, represents.activeCall_iff] at refused
      simp only [Option.isNone_iff_eq_none] at free
      rcases refused with h | h | h | h | h
      · exact pointerOk h
      · exact h free
      · exact unseen h
      · exact absurd few (Nat.not_lt.mpr h)
      · exact room h
  rw [if_neg refused]
  simp only [not_or, not_not, Nat.not_le, ge_iff_le] at refused
  obtain ⟨pointerOk, free, unseen, few, room⟩ := refused
  have noCall := represents.activeCall_iff.mp free
  have call := represents.call
  rw [noCall] at call
  rw [if_pos ⟨confirmed.1, confirmed.2, again, pointerOk, by simp [noCall], represents.seen ▸ unseen,
    represents.seen ▸ few, represents.nativeKey ▸ room⟩]
  have started := represents.opened.callStarted (if incoming then .callIncoming else .callOutgoing)
    (adapter.nativeKey + 1) (by cases incoming <;> simp)
    (by rw [represents.lastNativeKey, ← represents.nativeKey]; grind) call.2.2
    (by rw [represents.lastToken, ← represents.nativeKey]; exact room)
  have fresh : session.minted + 1 ≠ 0 := by
    rw [← represents.nativeKey]
    grind
  unfold Follows
  simp only [mailbox]
  split
  · next full =>
      rw [if_pos full] at started
      simp only [started]
      rfl
  · next notFull =>
      rw [if_neg notFull, represents.lastToken] at started
      simp only [started, if_neg fresh]
      refine ⟨?_, rfl, rfl⟩
      exact { represents with
        opened := represents.opened.publish notFull _ _ |>.withTokens
        seen := by simp [represents.seen]
        nativeKey := by simp [represents.nativeKey]
        lastNativeKey := by simp [withoutCall, represents.nativeKey]
        lastToken := rfl
        call := ⟨rfl, pointerOk, rfl, fresh, rfl, rfl, rfl, represents.nativeKey ▸ fresh, rfl⟩ }

theorem changeCall_follows (represents : adapter.Represents session) (closed : Bool)
    (pointer : Address) :
    adapter.Follows session (session.changes closed pointer)
      (adapter.changeCall adapter.captured closed pointer) := by
  have call := represents.call
  unfold SdkSession.changes changeCall
  cases held : session.call with
  | none =>
      rw [held] at call
      rw [if_pos (by rw [call.1]; simp [Decidable.em])]
      rfl
  | some active =>
      rw [held] at call
      obtain ⟨sameCall, pointerOk, token, tokenOk, incoming, established, key, keyOk, shared⟩ := call
      dsimp only
      by_cases other : pointer ≠ active.pointer
      · have foreign : pointer = 0 ∨ pointer ≠ adapter.activeCall := .inr (sameCall ▸ other)
        rw [if_pos other, if_pos foreign]
        rfl
      have known : ¬ (pointer = 0 ∨ pointer ≠ adapter.activeCall) := by
        simp [sameCall, not_not.mp other, pointerOk]
      rw [if_neg other, if_neg known]
      have changed := represents.opened.callChanged closed keyOk key (shared ▸ tokenOk)
      rw [shared] at changed
      dsimp only at changed
      split at changed
      · next full =>
          simp only [changed, Bool.false_eq_true, not_false_eq_true, if_true]
          cases closed <;> simp [Follows, mailbox, full, failClosed, withoutCall]
      next room =>
      rw [changed]
      simp only [not_true_eq_false, if_false]
      cases closed with
      | true =>
          simp only [if_true, Follows, mailbox, if_neg room]
          refine ⟨?_, rfl, rfl⟩
          exact { represents with
            opened := represents.opened.publish room _ _ |>.withTokens
            call := ⟨rfl, rfl, rfl⟩ }
      | false =>
          simp only [Bool.false_eq_true, if_false, Follows, mailbox, if_neg room]
          refine ⟨?_, rfl, rfl⟩
          exact { represents with
            opened := represents.opened.publish room _ _
            call := ⟨sameCall, pointerOk, token, tokenOk, incoming, rfl, key, keyOk, shared⟩ }

theorem stays_follows (represents : adapter.Represents session) :
    adapter.Follows session .stays adapter :=
  ⟨represents, rfl⟩

theorem onOwnedEvent_follows (represents : adapter.Represents session) (type : BeventEv)
    (event : Bevent) (uaIsregistered : Nat → Bool) :
    adapter.Follows session (session.reactOwned type event.call uaIsregistered)
      (adapter.onOwnedEvent adapter.captured type event uaIsregistered) := by
  have free := represents.activeCall_iff
  cases type with
  | exit => exact stays_follows represents
  | shutdown => exact stays_follows represents
  | unsupported code => exact stays_follows represents
  | audioError => exact rfl
  | registering =>
      simp only [SdkSession.reactOwned, onOwnedEvent, ← represents.sipRegistered]
      by_cases noCall : session.call = none
      · rw [if_neg (not_not_intro (free.mpr noCall)), if_pos (Option.isNone_iff_eq_none.mpr noCall)]
        exact publishRegistration_follows represents false (.inl rfl)
      rw [if_pos (fun absent => noCall (free.mp absent)),
        if_neg (fun absent => noCall (Option.isNone_iff_eq_none.mp absent))]
      by_cases confirmed : adapter.sipRegistered = true ∧ uaIsregistered 0 = true
      · rw [if_pos confirmed, if_neg (by simp [confirmed])]
        exact stays_follows represents
      · rw [if_neg confirmed, if_pos (not_and_or.mp confirmed)]
        rfl
  | registerOk =>
      simp only [SdkSession.reactOwned, onOwnedEvent]
      split
      · rfl
      have same : (adapter.activeCall ≠ 0 ∧ adapter.sipRegistered = true) ↔
          (session.call.isSome = true ∧ session.registered = true) := by
        rw [Ne, free, represents.sipRegistered, Option.isSome_iff_ne_none]
      simp only [same]
      split
      · exact stays_follows represents
      · exact publishRegistration_follows represents true (.inr (.inl rfl))
  | registerFail => exact publishRegistration_follows represents false (.inr (.inr (.inl rfl)))
  | unregistering => exact publishRegistration_follows represents false (.inr (.inr (.inr rfl)))
  | callTransferFailed =>
      simp only [SdkSession.reactOwned, onOwnedEvent]
      split
      · exact ⟨{ represents with }, rfl⟩
      · exact stays_follows represents
  | callIncoming => exact openCall_follows represents true event.call uaIsregistered
  | callOutgoing => exact openCall_follows represents false event.call uaIsregistered
  | callEstablished => exact changeCall_follows represents false event.call
  | callClosed => exact changeCall_follows represents true event.call

theorem onEvent_follows (represents : adapter.Represents session) (delivery : Delivery) :
    adapter.Follows session (session.react adapter.owner delivery)
      (adapter.onEvent adapter.captured delivery.type delivery.event delivery.uaIsregistered) := by
  obtain ⟨type, event, uaIsregistered⟩ := delivery
  have current : ¬ (¬ adapter.sameEpoch adapter.captured = true ∨ ¬ adapter.active = true) := by
    simp [sameEpoch, represents.active]
  have unattributed : adapter.Follows session .stays adapter := stays_follows represents
  unfold SdkSession.react onEvent
  rw [if_neg current]
  cases type with
  | exit => rfl
  | unsupported code => exact unattributed
  | _ =>
      cases event with
      | none => exact unattributed
      | some event =>
          dsimp only
          split
          · exact unattributed
          split
          · rfl
          · exact onOwnedEvent_follows represents _ event uaIsregistered

/-- The lease that a callback holds changes nothing but the number of leases. -/
theorem Represents.leased (represents : adapter.Represents session) (inFlight : UInt64) :
    ({ adapter with lifecycle := { adapter.lifecycle with
        fence := { adapter.lifecycle.fence with inFlight := inFlight } } } :
      BaresipSdkEventAdapter).Represents session :=
  { represents with opened := { represents.opened with } }

/-- The end of the lease does not touch what the adapter follows. -/
theorem Follows.released {reaction : Reaction} {after : BaresipSdkEventAdapter}
    (follows : ({ adapter with lifecycle := { adapter.lifecycle with
        fence := { adapter.lifecycle.fence with inFlight := adapter.lifecycle.fence.inFlight + 1 } } } :
      BaresipSdkEventAdapter).Follows session reaction after) :
    adapter.Follows session reaction { after with lifecycle := after.lifecycle.release } := by
  cases reaction with
  | closes => exact follows
  | stays =>
      obtain ⟨represents, lifecycle⟩ := follows
      refine ⟨represents.leased _, ?_⟩
      simp [lifecycle, BaresipCallbackLifecycle.release]
  | publishes kind token next =>
      change if adapter.mailbox.pending = kCapacity then after.captured = {} else _ at follows
      change if adapter.mailbox.pending = kCapacity then after.captured = {} else _
      by_cases full : adapter.mailbox.pending = kCapacity
      · simpa only [if_pos full] using follows
      · rw [if_neg full] at follows ⊢
        obtain ⟨represents, fence, mailbox⟩ := follows
        refine ⟨represents.leased _, ?_, mailbox⟩
        simp [fence, BaresipCallbackLifecycle.release]

/-- A callback is ignored, or it carries the current context and the adapter follows its
session. -/
theorem callback_follows (represents : adapter.Represents session) (delivery : Delivery)
    (context : Option Nat) :
    let after := adapter.callback delivery.type delivery.event context delivery.uaIsregistered
    after = adapter ∨ adapter.Follows session (session.react adapter.owner delivery) after := by
  unfold callback
  dsimp only
  split
  · exact .inl rfl
  next captured known =>
  split
  · exact .inl rfl
  next lifecycle held =>
  obtain ⟨generation, rfl⟩ := BaresipCallbackLifecycle.holdNativeCallback_some held
  obtain ⟨position, _, registered⟩ := Option.bind_eq_some_iff.mp known
  have same : captured = adapter.captured :=
    represents.epoch captured (List.mem_of_getElem? registered)
      (generation.trans represents.opened.generation)
  subst same
  exact .inr (Follows.released (onEvent_follows (represents.leased _) delivery))

/-- The current context is the one registered last. -/
theorem callback_current_follows (represents : adapter.Represents session) (delivery : Delivery) :
    adapter.Follows session (session.react adapter.owner delivery)
      (adapter.callback delivery.type delivery.event (some (adapter.contexts.length - 1))
        delivery.uaIsregistered) := by
  have registered : adapter.contexts[adapter.contexts.length - 1]? = some adapter.captured := by
    rw [← List.getLast?_eq_getElem?]
    exact represents.context
  have held : adapter.lifecycle.holdNativeCallback adapter.captured = some { adapter.lifecycle with
      fence := { adapter.lifecycle.fence with inFlight := adapter.lifecycle.fence.inFlight + 1 } } := by
    simp [BaresipCallbackLifecycle.holdNativeCallback, represents.opened.admitCallback,
      represents.opened.session]
  unfold callback
  simp only [Option.bind_some, registered, held]
  exact Follows.released (onEvent_follows (represents.leased _) delivery)

theorem callback_keeps (adapter : BaresipSdkEventAdapter) (type : BeventEv) (event : Option Bevent)
    (context : Option Nat) (uaIsregistered : Nat → Bool) :
    adapter.Keeps (adapter.callback type event context uaIsregistered) := by
  unfold callback
  split
  · exact adapter.keeps_refl
  split
  · exact adapter.keeps_refl
  next lifecycle held =>
  obtain ⟨_, rfl⟩ := BaresipCallbackLifecycle.holdNativeCallback_some held
  obtain ⟨inFlight, generation, contexts, mailbox⟩ := onEvent_keeps _ _ _ _ _
  refine ⟨?_, generation, contexts, mailbox⟩
  simp [BaresipCallbackLifecycle.release, BaresipCallbackFence.releaseOne, inFlight]

/-- An adapter that is not active ignores every callback. -/
theorem callback_inactive (inactive : adapter.active = false) (type : BeventEv)
    (event : Option Bevent) (context : Option Nat) (uaIsregistered : Nat → Bool) :
    adapter.callback type event context uaIsregistered = adapter := by
  unfold callback
  split
  · rfl
  split
  · rfl
  next lifecycle held =>
  obtain ⟨_, rfl⟩ := BaresipCallbackLifecycle.holdNativeCallback_some held
  have leased : ({ adapter with lifecycle := { adapter.lifecycle with fence :=
      { adapter.lifecycle.fence with inFlight := adapter.lifecycle.fence.inFlight + 1 } } } :
        BaresipSdkEventAdapter).active = false := by
    simpa [active, BaresipCallbackLifecycle.isLive, BaresipCallbackFence.admitCallback, apply_ite]
      using inactive
  unfold onEvent
  rw [if_pos (.inr (by simp [leased]))]
  simp [BaresipCallbackLifecycle.release]

end BaresipSdkEventAdapter

/-! ## The beginning of a session -/

/-- A lifecycle that begins opens a session with numbers that were never issued before. -/
structure BaresipCallbackLifecycle.Begins (before after : BaresipCallbackLifecycle)
    (captured : CapturedSession) : Prop where
  opened : after.Open captured
  inFlight : after.fence.inFlight = before.fence.inFlight
  newGeneration : before.fence.generation < captured.fenceGeneration
  newSession : before.ingress.mailbox.generation < captured.mailboxSession
  issued : captured.mailboxSession = after.ingress.mailbox.generation
  queued : after.ingress.mailbox.queued = []
  keys : after.ingress.activeNativeKey = 0 ∧ after.ingress.lastNativeKey = 0 ∧
    after.ingress.lastToken = 0

/-- What a lifecycle that refuses to begin leaves alone. -/
structure BaresipCallbackLifecycle.Refuses (before after : BaresipCallbackLifecycle) : Prop where
  inFlight : after.fence.inFlight = before.fence.inFlight
  generation : before.fence.generation ≤ after.fence.generation
  mailbox : before.ingress.mailbox.Advances after.ingress.mailbox

theorem BaresipCallbackLifecycle.beginLifecycle_cases (lifecycle : BaresipCallbackLifecycle)
    (account : Address) :
    ((lifecycle.beginLifecycle account).1 = {} ∧
      lifecycle.Refuses (lifecycle.beginLifecycle account).2) ∨
    ((lifecycle.beginLifecycle account).1.accountIdentity = account ∧
      lifecycle.Begins (lifecycle.beginLifecycle account).2
        (lifecycle.beginLifecycle account).1) := by
  have unchanged : lifecycle.Refuses lifecycle :=
    ⟨rfl, UInt64.le_refl _, BaresipEventMailbox.advances_refl _⟩
  unfold beginLifecycle
  by_cases early : account = 0 ∨ lifecycle.current.held = true
  · rw [if_pos early]
    exact .inl ⟨rfl, unchanged⟩
  rw [if_neg early]
  by_cases closed : lifecycle.fence.accepting = true ∨ lifecycle.fence.closing = true ∨
      lifecycle.fence.inFlight ≠ 0 ∨ lifecycle.fence.generation = uint64Max
  · simp only [BaresipCallbackFence.beginGeneration, if_pos closed, if_true]
    exact .inl ⟨trivial, unchanged⟩
  simp only [BaresipCallbackFence.beginGeneration, if_neg closed]
  simp only [not_or, Bool.not_eq_true, not_not] at closed early
  obtain ⟨_, closing, _, room⟩ := closed
  have grows : lifecycle.fence.generation < lifecycle.fence.generation + 1 := by grind
  have nonzero : lifecycle.fence.generation + 1 ≠ 0 := by grind
  rw [if_neg nonzero]
  by_cases busy : account = 0 ∨ lifecycle.ingress.session ≠ 0
  · simp only [BaresipCallbackIngress.beginSession, if_pos busy, if_true]
    exact .inl ⟨trivial, rfl, UInt64.le_of_lt grows, BaresipEventMailbox.advances_refl _⟩
  simp only [BaresipCallbackIngress.beginSession, if_neg busy]
  by_cases exhausted : lifecycle.ingress.mailbox.generation = uint64Max
  · have ended : lifecycle.ingress.mailbox.beginSession.1 = 0 := by
      simp [BaresipEventMailbox.beginSession, exhausted]
    rw [if_pos ended]
    exact .inl ⟨rfl, rfl, UInt64.le_of_lt grows, BaresipEventMailbox.beginSession_advances _⟩
  have session : lifecycle.ingress.mailbox.beginSession.1 =
      lifecycle.ingress.mailbox.generation + 1 := by
    simp [BaresipEventMailbox.beginSession, exhausted]
  have fresh : lifecycle.ingress.mailbox.generation + 1 ≠ 0 := by grind
  rw [if_neg (by rw [session]; exact fresh), if_pos (by rw [session]; exact fresh)]
  refine .inr ⟨rfl, ?_⟩
  exact {
    opened := {
      held := by simp [CapturedSession.held, session, nonzero, fresh, early.1]
      accepting := rfl
      closing := closing
      generation := rfl
      session := rfl
      account := rfl
      mailbox := by simp [BaresipEventMailbox.beginSession, exhausted]
      intact := by simp [BaresipEventMailbox.beginSession, exhausted] }
    inFlight := rfl
    newGeneration := grows
    newSession := by
      rw [session]
      grind
    issued := by simp [BaresipEventMailbox.beginSession, exhausted]
    queued := by
      simp [BaresipEventMailbox.beginSession, exhausted, BaresipEventMailbox.queued]
    keys := ⟨rfl, rfl, rfl⟩ }

namespace BaresipSdkEventAdapter

variable {adapter : BaresipSdkEventAdapter}

/-- What holds of the adapter between two steps of the event loop. -/
structure Sound (adapter : BaresipSdkEventAdapter) : Prop where
  quiet : adapter.lifecycle.fence.inFlight = 0
  epochs : ∀ context ∈ adapter.contexts,
    context.fenceGeneration ≤ adapter.lifecycle.fence.generation
  issued : adapter.mailbox.session ≤ adapter.mailbox.generation
  kept : adapter.active = true → ∃ session, adapter.Represents session

theorem sound_initial : Sound {} :=
  ⟨rfl, by simp, UInt64.le_refl _, nofun⟩

/-- What `start` can do: refuse, fail, or begin a session with a number of its own. -/
inductive Started (before : BaresipSdkEventAdapter) : Bool → BaresipSdkEventAdapter → Prop where
  | refused : Started before false before
  | failed {after : BaresipSdkEventAdapter} (stopped : after.registered = false) (sound : after.Sound)
      (advances : before.mailbox.Advances after.mailbox) : Started before false after
  | begun {after : BaresipSdkEventAdapter} (represents : after.Represents {}) (sound : after.Sound)
      (newSession : before.mailbox.generation < after.captured.mailboxSession)
      (issued : after.captured.mailboxSession = after.mailbox.generation)
      (queued : after.mailbox.queued = []) : Started before true after

theorem inactive_of_unregistered (unregistered : adapter.registered = false) :
    adapter.active = false := by
  simp [active, unregistered]

/-- A start given up after the lifecycle began ends the session that was begun. -/
theorem abandonStart_failed {before entered : BaresipSdkEventAdapter}
    {captured : CapturedSession} (quiet : before.lifecycle.fence.inFlight = 0)
    (begins : before.lifecycle.Begins entered.lifecycle captured)
    (unregistered : entered.registered = false)
    (epochs : ∀ context ∈ entered.contexts,
      context.fenceGeneration ≤ entered.lifecycle.fence.generation) :
    Started before false entered.abandonStart := by
  refine .failed unregistered ⟨begins.inFlight.trans quiet, epochs, UInt64.zero_le, ?_⟩
    ⟨?_, .inr (.inl rfl), fun _ => UInt64.zero_le⟩
  · intro active
    rw [inactive_of_unregistered (by exact unregistered)] at active
    cases active
  · have grows := begins.newSession
    rw [begins.issued] at grows
    exact UInt64.le_of_lt grows

theorem start_started (sound : adapter.Sound) (ownedUa : Address) (outcome : StartOutcome) :
    Started adapter (adapter.start ownedUa outcome).1 (adapter.start ownedUa outcome).2 := by
  obtain ⟨quiet, epochs, issued, _⟩ := sound
  unfold start
  by_cases early : adapter.registered = true ∨ ownedUa = 0 ∨ adapter.contexts.length ≥ kMaxContexts
  · rw [if_pos early]
    exact .refused
  rw [if_neg early]
  by_cases claimed : adapter.processOwner ≠ .free
  · rw [if_pos claimed]
    exact .refused
  rw [if_neg claimed]
  simp only [not_or, Bool.not_eq_true] at early
  obtain ⟨unregistered, owned, _⟩ := early
  dsimp only
  rcases adapter.lifecycle.beginLifecycle_cases ownedUa with ⟨none, refuses⟩ | ⟨account, begins⟩
  · rw [none, if_pos (by decide)]
    refine .failed unregistered ⟨refuses.inFlight.trans quiet, ?_, refuses.mailbox.current_le issued, ?_⟩
      refuses.mailbox
    · intro context member
      exact UInt64.le_trans (epochs context member) refuses.generation
    · intro active
      rw [inactive_of_unregistered (by exact unregistered)] at active
      cases active
  generalize adapter.lifecycle.beginLifecycle ownedUa = begun at account begins
  obtain ⟨captured, lifecycle⟩ := begun
  rw [if_neg (not_not_intro begins.opened.held)]
  have older : ∀ context ∈ adapter.contexts,
      context.fenceGeneration < lifecycle.fence.generation := by
    intro context member
    rw [begins.opened.generation]
    exact UInt64.lt_of_le_of_lt (epochs context member) begins.newGeneration
  have registeredEpochs : ∀ context ∈ adapter.contexts ++ [captured],
      context.fenceGeneration ≤ lifecycle.fence.generation := by
    intro context member
    rcases List.mem_append.mp member with known | added
    · exact UInt64.le_of_lt (older context known)
    · rw [List.mem_singleton.mp added, begins.opened.generation]
      exact UInt64.le_refl _
  by_cases unallocated : ¬ outcome.allocated = true
  · rw [if_pos unallocated]
    exact abandonStart_failed quiet begins unregistered
      fun context member => UInt64.le_of_lt (older context member)
  rw [if_neg unallocated]
  by_cases unsubscribed : ¬ outcome.subscribed = true
  · rw [if_pos unsubscribed]
    exact abandonStart_failed quiet begins rfl registeredEpochs
  rw [if_neg unsubscribed]
  have represents : Represents { adapter with
      processOwner := .this, lifecycle := lifecycle, owner := ownedUa, captured := captured
      nativeKey := 0, sipRegistered := false, seenCalls := []
      contexts := adapter.contexts ++ [captured], registered := true }.withoutCall {} := {
    registered := rfl
    opened := begins.opened
    owner := account.symm
    context := by simp [withoutCall]
    epoch := by
      intro context member same
      rcases List.mem_append.mp member with known | added
      · have old := older context known
        rw [begins.opened.generation, same] at old
        exact absurd old (UInt64.lt_irrefl _)
      · exact List.mem_singleton.mp added
    sipRegistered := rfl
    seen := rfl
    nativeKey := rfl
    lastNativeKey := begins.keys.2.1
    lastToken := begins.keys.2.2
    call := ⟨rfl, rfl, begins.keys.1⟩ }
  refine .begun represents ⟨begins.inFlight.trans quiet, registeredEpochs, ?_, fun _ => ⟨_, represents⟩⟩
    begins.newSession begins.issued begins.queued
  have current := begins.opened.mailbox.trans begins.issued
  exact UInt64.le_of_eq current

theorem stop_sound (sound : adapter.Sound) :
    adapter.stop.Sound ∧ adapter.stop.active = false ∧ adapter.mailbox.Advances adapter.stop.mailbox := by
  have inactive : adapter.stop.active = false := inactive_of_unregistered rfl
  refine ⟨⟨sound.quiet, sound.epochs, UInt64.zero_le, ?_⟩, inactive,
    adapter.mailbox.invalidateSession_advances⟩
  intro active
  rw [inactive] at active
  cases active

end BaresipSdkEventAdapter
end AxeVoice.Native
