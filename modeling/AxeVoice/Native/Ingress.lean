import AxeVoice.Sip.Mailbox

/-!
# The callback ingress and its lifecycle

The transport that admits native callbacks into the event mailbox.  A fence
counts the admitted callbacks and closes on a revocation; the ingress mints the
call tokens and revokes its session on any callback that does not fit.  The
mutexes of the source make every operation one atomic step.
-/

namespace AxeVoice.Native

open AxeVoice.Sip

/-- A native pointer as a number; `0` is the null pointer. -/
abbrev Address := Nat

/-- The ingress, together with the mailbox that it refers to. -/
structure BaresipCallbackIngress where
  mailbox : BaresipEventMailbox := {}
  session : UInt64 := 0
  account : Address := 0
  activeNativeKey : UInt64 := 0
  activeToken : UInt64 := 0
  lastNativeKey : UInt64 := 0
  lastToken : UInt64 := 0

namespace BaresipCallbackIngress

def beginSession (ingress : BaresipCallbackIngress) (validatedAccount : Address) :
    UInt64 × BaresipCallbackIngress :=
  if validatedAccount = 0 ∨ ingress.session ≠ 0 then (0, ingress)
  else
    let session := ingress.mailbox.beginSession.1
    (session, {
      mailbox := ingress.mailbox.beginSession.2
      session := session
      account := if session ≠ 0 then validatedAccount else 0
      lastNativeKey := 0, lastToken := 0, activeNativeKey := 0, activeToken := 0 })

def revokeLocked (ingress : BaresipCallbackIngress) : BaresipCallbackIngress :=
  { mailbox := ingress.mailbox.invalidateSession
    session := 0, account := 0, activeNativeKey := 0, activeToken := 0
    lastNativeKey := 0, lastToken := 0 }

def revoke (ingress : BaresipCallbackIngress) : BaresipCallbackIngress :=
  ingress.revokeLocked

def isCurrentLocked (ingress : BaresipCallbackIngress) (callbackSession : UInt64) : Bool :=
  ingress.session ≠ 0 && callbackSession = ingress.session

/-- A late callback of another generation is refused and changes nothing; a callback for
another account revokes the session. -/
def admitLocked (ingress : BaresipCallbackIngress) (callbackSession : UInt64)
    (callbackAccount : Address) : Bool × BaresipCallbackIngress :=
  if ¬ ingress.isCurrentLocked callbackSession then (false, ingress)
  else if callbackAccount = 0 ∨ callbackAccount ≠ ingress.account then
    (false, ingress.revokeLocked)
  else (true, ingress)

def enqueueLocked (ingress : BaresipCallbackIngress) (kind : BaresipEventKind)
    (callToken : UInt64) : Bool × BaresipCallbackIngress :=
  let (queued, mailbox) := ingress.mailbox.enqueue
    { kind := kind, session := ingress.session, callId := callToken }
  if queued then (true, { ingress with mailbox := mailbox })
  else (false, { ingress with mailbox := mailbox }.revokeLocked)

def registration (ingress : BaresipCallbackIngress) (callbackSession : UInt64)
    (callbackAccount : Address) (kind : BaresipEventKind) : Bool × BaresipCallbackIngress :=
  match ingress.admitLocked callbackSession callbackAccount with
  | (false, ingress) => (false, ingress)
  | (true, ingress) =>
      match kind with
      | .registering | .registerOk | .registerFail | .unregistering =>
          ingress.enqueueLocked kind 0
      | .transportLost =>
          { ingress with activeNativeKey := 0, activeToken := 0 }.enqueueLocked kind 0
      | _ => (false, ingress.revokeLocked)

/-- The emitted token is `none` when the call is refused. -/
def callStarted (ingress : BaresipCallbackIngress) (callbackSession : UInt64)
    (callbackAccount : Address) (nativeCallKey : UInt64) (kind : BaresipEventKind) :
    Option UInt64 × BaresipCallbackIngress :=
  match ingress.admitLocked callbackSession callbackAccount with
  | (false, ingress) => (none, ingress)
  | (true, ingress) =>
      if (kind ≠ .callIncoming ∧ kind ≠ .callOutgoing) ∨ nativeCallKey = 0 ∨
          nativeCallKey ≤ ingress.lastNativeKey ∨ ingress.activeNativeKey ≠ 0 ∨
          ingress.lastToken = uint64Max then
        (none, ingress.revokeLocked)
      else
        let token := ingress.lastToken + 1
        match ingress.enqueueLocked kind token with
        | (false, ingress) => (none, ingress)
        | (true, ingress) =>
            (some token, { ingress with
              activeNativeKey := nativeCallKey, activeToken := token
              lastNativeKey := nativeCallKey, lastToken := token })

def callChanged (ingress : BaresipCallbackIngress) (callbackSession : UInt64)
    (callbackAccount : Address) (nativeCallKey : UInt64) (kind : BaresipEventKind) :
    Bool × BaresipCallbackIngress :=
  match ingress.admitLocked callbackSession callbackAccount with
  | (false, ingress) => (false, ingress)
  | (true, ingress) =>
      if (kind ≠ .callEstablished ∧ kind ≠ .callClosed) ∨ nativeCallKey = 0 ∨
          nativeCallKey ≠ ingress.activeNativeKey ∨ ingress.activeToken = 0 then
        (false, ingress.revokeLocked)
      else
        match ingress.enqueueLocked kind ingress.activeToken with
        | (false, ingress) => (false, ingress)
        | (true, ingress) =>
            if kind = .callClosed then
              (true, { ingress with activeNativeKey := 0, activeToken := 0 })
            else (true, ingress)

/-- A callback begins no mailbox session: it leaves the current one or ends it. -/
def Keeps (before after : BaresipCallbackIngress) : Prop :=
  after.mailbox.generation = before.mailbox.generation ∧
    (after.mailbox.session = before.mailbox.session ∨ after.mailbox.session = 0)

theorem keeps_refl (ingress : BaresipCallbackIngress) : ingress.Keeps ingress :=
  ⟨rfl, .inl rfl⟩

theorem keeps_revokeLocked (ingress : BaresipCallbackIngress) : ingress.Keeps ingress.revokeLocked :=
  ⟨rfl, .inr rfl⟩

theorem admitLocked_cases (ingress : BaresipCallbackIngress) (session : UInt64)
    (account : Address) :
    (∃ next, ingress.admitLocked session account = (false, next) ∧ ingress.Keeps next) ∨
      ingress.admitLocked session account = (true, ingress) := by
  unfold admitLocked
  split
  · exact .inl ⟨_, rfl, ingress.keeps_refl⟩
  split
  · exact .inl ⟨_, rfl, ingress.keeps_revokeLocked⟩
  · exact .inr rfl

theorem enqueueLocked_keeps (ingress : BaresipCallbackIngress) (kind : BaresipEventKind)
    (token : UInt64) : ingress.Keeps (ingress.enqueueLocked kind token).2 := by
  unfold enqueueLocked
  dsimp only
  split
  · rcases ingress.mailbox.enqueue_cases { kind, session := ingress.session, callId := token } with
      same | ⟨_, _, _, _, session, generation, _⟩ | ⟨_, _, _, _, _, session, generation, _⟩
    · rw [same]
      exact ingress.keeps_refl
    · exact ⟨generation, .inl session⟩
    · exact ⟨generation, .inl session⟩
  · refine ⟨?_, .inr rfl⟩
    rcases ingress.mailbox.enqueue_cases { kind, session := ingress.session, callId := token } with
      same | ⟨_, _, _, _, _, generation, _⟩ | ⟨_, _, _, _, _, _, generation, _⟩
    · rw [same]
      rfl
    · exact generation
    · exact generation

theorem registration_keeps (ingress : BaresipCallbackIngress) (session : UInt64)
    (account : Address) (kind : BaresipEventKind) :
    ingress.Keeps (ingress.registration session account kind).2 := by
  unfold registration
  rcases ingress.admitLocked_cases session account with ⟨next, eq, keeps⟩ | eq
  · rw [eq]
    exact keeps
  · rw [eq]
    cases kind with
    | registering | registerOk | registerFail | unregistering =>
        exact ingress.enqueueLocked_keeps _ 0
    | transportLost =>
        exact enqueueLocked_keeps { ingress with activeNativeKey := 0, activeToken := 0 } _ 0
    | _ => exact ingress.keeps_revokeLocked

theorem callStarted_keeps (ingress : BaresipCallbackIngress) (session : UInt64)
    (account : Address) (nativeKey : UInt64) (kind : BaresipEventKind) :
    ingress.Keeps (ingress.callStarted session account nativeKey kind).2 := by
  unfold callStarted
  rcases ingress.admitLocked_cases session account with ⟨next, eq, keeps⟩ | eq
  · rw [eq]
    exact keeps
  rw [eq]
  dsimp only
  split
  · exact ingress.keeps_revokeLocked
  · have published := ingress.enqueueLocked_keeps kind (ingress.lastToken + 1)
    split
    · next eq =>
        rw [eq] at published
        exact published
    · next eq =>
        rw [eq] at published
        exact published

theorem callChanged_keeps (ingress : BaresipCallbackIngress) (session : UInt64)
    (account : Address) (nativeKey : UInt64) (kind : BaresipEventKind) :
    ingress.Keeps (ingress.callChanged session account nativeKey kind).2 := by
  unfold callChanged
  rcases ingress.admitLocked_cases session account with ⟨next, eq, keeps⟩ | eq
  · rw [eq]
    exact keeps
  rw [eq]
  dsimp only
  split
  · exact ingress.keeps_revokeLocked
  · have published := ingress.enqueueLocked_keeps kind ingress.activeToken
    split
    · next eq =>
        rw [eq] at published
        exact published
    · next eq =>
        rw [eq] at published
        split
        · exact published
        · exact published

end BaresipCallbackIngress

structure BaresipCallbackFence where
  generation : UInt64 := 0
  inFlight : UInt64 := 0
  accepting : Bool := false
  closing : Bool := false

namespace BaresipCallbackFence

def beginGeneration (fence : BaresipCallbackFence) : UInt64 × BaresipCallbackFence :=
  if fence.accepting ∨ fence.closing ∨ fence.inFlight ≠ 0 ∨ fence.generation = uint64Max then
    (0, fence)
  else
    (fence.generation + 1, { fence with accepting := true, generation := fence.generation + 1 })

/-- The fence that holds one more lease, or `none` when no lease is given out. -/
def admitCallback (fence : BaresipCallbackFence) (capturedGeneration : UInt64) :
    Option BaresipCallbackFence :=
  if ¬ fence.accepting ∨ fence.closing ∨ capturedGeneration = 0 ∨
      capturedGeneration ≠ fence.generation then none
  else some { fence with inFlight := fence.inFlight + 1 }

def releaseOne (fence : BaresipCallbackFence) : BaresipCallbackFence :=
  { fence with inFlight := fence.inFlight - 1 }

def close (fence : BaresipCallbackFence) : BaresipCallbackFence :=
  { fence with accepting := false, closing := true }

/-- What happens once no callback is in flight.  The owner waits outside callbacks only,
where none is (`Coupled.quiet`). -/
def wait (fence : BaresipCallbackFence) : BaresipCallbackFence :=
  { fence with closing := false }

def closeAndWait (fence : BaresipCallbackFence) : BaresipCallbackFence :=
  fence.close.wait

/-- A lease is given out only for the generation that is being accepted. -/
theorem admitCallback_some {fence leased : BaresipCallbackFence} {captured : UInt64}
    (admitted : fence.admitCallback captured = some leased) :
    captured = fence.generation ∧ leased = { fence with inFlight := fence.inFlight + 1 } := by
  unfold admitCallback at admitted
  split at admitted
  · cases admitted
  · next open_ =>
      cases admitted
      simp only [not_or, not_not] at open_
      exact ⟨open_.2.2.2, rfl⟩

@[simp] theorem releaseOne_lease (fence : BaresipCallbackFence) :
    ({ fence with inFlight := fence.inFlight + 1 } : BaresipCallbackFence).releaseOne = fence := by
  simp [releaseOne]

end BaresipCallbackFence

structure CapturedSession where
  fenceGeneration : UInt64 := 0
  mailboxSession : UInt64 := 0
  accountIdentity : Address := 0
  deriving DecidableEq

/-- The conversion of a captured session to `bool`. -/
def CapturedSession.held (captured : CapturedSession) : Bool :=
  captured.fenceGeneration ≠ 0 && captured.mailboxSession ≠ 0 && captured.accountIdentity ≠ 0

structure BaresipCallbackLifecycle where
  fence : BaresipCallbackFence := {}
  ingress : BaresipCallbackIngress := {}
  current : CapturedSession := {}

namespace BaresipCallbackLifecycle

def beginLifecycle (lifecycle : BaresipCallbackLifecycle) (validatedAccount : Address) :
    CapturedSession × BaresipCallbackLifecycle :=
  if validatedAccount = 0 ∨ lifecycle.current.held then ({}, lifecycle)
  else
    let (generation, fence) := lifecycle.fence.beginGeneration
    if generation = 0 then ({}, { lifecycle with fence := fence })
    else
      let (session, ingress) := lifecycle.ingress.beginSession validatedAccount
      if session = 0 then
        ({}, { lifecycle with fence := fence.closeAndWait, ingress := ingress })
      else
        let current : CapturedSession := ⟨generation, session, validatedAccount⟩
        (current, { fence := fence, ingress := ingress, current := current })

/-- The lease over a whole native callback. -/
def holdNativeCallback (lifecycle : BaresipCallbackLifecycle) (captured : CapturedSession) :
    Option BaresipCallbackLifecycle :=
  match lifecycle.fence.admitCallback captured.fenceGeneration with
  | none => none
  | some fence =>
      if lifecycle.ingress.session ≠ captured.mailboxSession then none
      else some { lifecycle with fence := fence }

theorem holdNativeCallback_some {lifecycle leased : BaresipCallbackLifecycle}
    {captured : CapturedSession} (held : lifecycle.holdNativeCallback captured = some leased) :
    captured.fenceGeneration = lifecycle.fence.generation ∧
      leased = { lifecycle with
        fence := { lifecycle.fence with inFlight := lifecycle.fence.inFlight + 1 } } := by
  unfold holdNativeCallback at held
  split at held
  · cases held
  next fence admitted =>
  obtain ⟨generation, rfl⟩ := BaresipCallbackFence.admitCallback_some admitted
  split at held
  · cases held
  · cases held
    exact ⟨generation, rfl⟩

/-- The end of the lease. -/
def release (lifecycle : BaresipCallbackLifecycle) : BaresipCallbackLifecycle :=
  { lifecycle with fence := lifecycle.fence.releaseOne }

/-- An operation of the ingress under a lease of the fence; without a lease it is refused. -/
def underLease {α : Type} (lifecycle : BaresipCallbackLifecycle) (captured : CapturedSession)
    (refused : α) (operation : BaresipCallbackIngress → α × BaresipCallbackIngress) :
    α × BaresipCallbackLifecycle :=
  match lifecycle.fence.admitCallback captured.fenceGeneration with
  | none => (refused, lifecycle)
  | some fence =>
      let (answer, ingress) := operation lifecycle.ingress
      (answer, { lifecycle with fence := fence.releaseOne, ingress := ingress })

def registration (lifecycle : BaresipCallbackLifecycle) (captured : CapturedSession)
    (event : BaresipEventKind) : Bool × BaresipCallbackLifecycle :=
  lifecycle.underLease captured false fun ingress =>
    ingress.registration captured.mailboxSession captured.accountIdentity event

def callStarted (lifecycle : BaresipCallbackLifecycle) (captured : CapturedSession)
    (nativeKey : UInt64) (event : BaresipEventKind) :
    Option UInt64 × BaresipCallbackLifecycle :=
  lifecycle.underLease captured none fun ingress =>
    ingress.callStarted captured.mailboxSession captured.accountIdentity nativeKey event

def callChanged (lifecycle : BaresipCallbackLifecycle) (captured : CapturedSession)
    (nativeKey : UInt64) (event : BaresipEventKind) : Bool × BaresipCallbackLifecycle :=
  lifecycle.underLease captured false fun ingress =>
    ingress.callChanged captured.mailboxSession captured.accountIdentity nativeKey event

def rejectCurrent (lifecycle : BaresipCallbackLifecycle) : BaresipCallbackLifecycle :=
  { lifecycle with fence := lifecycle.fence.close, ingress := lifecycle.ingress.revoke }

def isLive (lifecycle : BaresipCallbackLifecycle) (captured : CapturedSession) : Bool :=
  (lifecycle.fence.admitCallback captured.fenceGeneration).isSome &&
    lifecycle.ingress.session = captured.mailboxSession

def revokeAndWait (lifecycle : BaresipCallbackLifecycle) : BaresipCallbackLifecycle :=
  { fence := lifecycle.fence.close.wait, ingress := lifecycle.ingress.revoke, current := {} }

end BaresipCallbackLifecycle

end AxeVoice.Native
