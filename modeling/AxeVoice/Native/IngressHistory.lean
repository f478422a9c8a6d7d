import AxeVoice.Native.Ingress
import AxeVoice.Sip.Identity
import AxeVoice.Sip.MailboxHistory

/-!
# The call history that the ingress writes

Runs of the ingress under arbitrary callbacks, with a consumer that drains its
mailbox and with other users who begin or end mailbox sessions.  The events that
the ingress queues for one session are a well-formed call history: the calls are
numbered from one, at most one is open, and every change names the open one.
-/

namespace AxeVoice.Native

open AxeVoice.Sip
open AxeVoice.Foundation

/-- The number of the last call and the call that is open. -/
structure CallLog where
  last : UInt64 := 0
  current : Option UInt64 := none

def CallLog.after (log : CallLog) (event : BaresipNativeEvent) : CallLog :=
  if event.kind.opening then ⟨event.callId, some event.callId⟩
  else if event.kind = .callClosed ∨ event.kind = .transportLost then { log with current := none }
  else log

def callLog (events : List BaresipNativeEvent) : CallLog := events.foldl CallLog.after {}

/-- The call started last, unless it was closed or lost with the transport. -/
def openCall (events : List BaresipNativeEvent) : Option UInt64 := (callLog events).current

/-- The event continues a history that has come to this log. -/
structure CallLog.Fits (log : CallLog) (event : BaresipNativeEvent) : Prop where
  next : event.kind.opening = true → event.callId.toNat = log.last.toNat + 1
  alone : event.kind.opening = true → log.current = none
  ofOpen : event.kind.continuing = true → log.current = some event.callId
  others : event.kind.opening = false → event.kind.continuing = false → event.callId = 0

/-- The calls are numbered in order, and each change is about the one open call. -/
structure CallHistory (events : List BaresipNativeEvent) : Prop where
  numbered : Numbered BaresipNativeEvent.callId (events.filter fun event => event.kind.opening)
  last : (callLog events).last.toNat =
    (events.filter fun event => event.kind.opening).length
  alone : ∀ before event after, events = before ++ event :: after →
    event.kind.opening = true → openCall before = none
  ofOpen : ∀ before event after, events = before ++ event :: after →
    event.kind.continuing = true → openCall before = some event.callId
  others : ∀ event ∈ events, event.kind.opening = false → event.kind.continuing = false →
    event.callId = 0

theorem continuing_of_opening {kind : BaresipEventKind} (opening : kind.opening = true) :
    kind.continuing = false := by
  cases kind with
  | callIncoming => rfl
  | callOutgoing => rfl
  | _ => cases opening

theorem callHistory_nil : CallHistory [] := by
  constructor
  · exact numbered_nil
  · rfl
  · simp
  · simp
  · simp

theorem callLog_concat (events : List BaresipNativeEvent) (event : BaresipNativeEvent) :
    callLog (events ++ [event]) = (callLog events).after event := by
  simp [callLog]

theorem CallHistory.concat {events : List BaresipNativeEvent} (history : CallHistory events)
    {event : BaresipNativeEvent} (fits : (callLog events).Fits event) :
    CallHistory (events ++ [event]) := by
  obtain ⟨numbered, last, alone, ofOpen, others⟩ := history
  constructor
  · rw [List.filter_append]
    cases opening : event.kind.opening with
    | false => simpa [opening] using numbered
    | true =>
        simp only [List.filter_cons, opening, if_true, List.filter_nil]
        exact numbered_concat.mpr ⟨numbered, by rw [fits.next opening, last]⟩
  · rw [callLog_concat, List.filter_append, CallLog.after]
    cases opening : event.kind.opening with
    | false =>
        simp only [Bool.false_eq_true, if_false, List.filter_cons, opening, List.filter_nil,
          List.append_nil]
        split <;> exact last
    | true => simp [opening, fits.next opening, last]
  · intro before found after split opening
    rcases split_concat split with ⟨rfl, rfl⟩ | ⟨rest, eq⟩
    · exact fits.alone opening
    · exact alone before found rest eq opening
  · intro before found after split continuing
    rcases split_concat split with ⟨rfl, rfl⟩ | ⟨rest, eq⟩
    · exact fits.ofOpen continuing
    · exact ofOpen before found rest eq continuing
  · intro found member notOpening notContinuing
    rcases List.mem_append.mp member with earlier | newest
    · exact others found earlier notOpening notContinuing
    · rw [List.mem_singleton.mp newest] at notOpening notContinuing ⊢
      exact fits.others notOpening notContinuing

namespace BaresipCallbackIngress

/-- `call_started` with its out parameter: the answer and what is left in `*emitted_token`. -/
def callStartedInto (ingress : BaresipCallbackIngress) (callbackSession : UInt64)
    (callbackAccount : Address) (nativeCallKey : UInt64) (kind : BaresipEventKind) :
    (Bool × UInt64) × BaresipCallbackIngress :=
  (ingress.callStarted callbackSession callbackAccount nativeCallKey kind).map
    (fun token => (token.isSome, token.getD 0)) id

end BaresipCallbackIngress

inductive IngressCall where
  | beginSession (validatedAccount : Address)
  | revoke
  | registration (session : UInt64) (account : Address) (kind : BaresipEventKind)
  | callStarted (session : UInt64) (account : Address) (nativeKey : UInt64)
      (kind : BaresipEventKind)
  | callChanged (session : UInt64) (account : Address) (nativeKey : UInt64)
      (kind : BaresipEventKind)
  | drain
  | mailboxBegins
  | mailboxEnds

inductive IngressAnswer where
  | began (session : UInt64)
  | done
  | answered (accepted : Bool)
  | started (accepted : Bool) (emittedToken : UInt64)

def ingressStep (ingress : BaresipCallbackIngress) :
    IngressCall → IngressAnswer × BaresipCallbackIngress
  | .beginSession account =>
      let (session, after) := ingress.beginSession account
      (.began session, after)
  | .revoke => (.done, ingress.revoke)
  | .registration session account kind =>
      let (accepted, after) := ingress.registration session account kind
      (.answered accepted, after)
  | .callStarted session account nativeKey kind =>
      let ((accepted, token), after) := ingress.callStartedInto session account nativeKey kind
      (.started accepted token, after)
  | .callChanged session account nativeKey kind =>
      let (accepted, after) := ingress.callChanged session account nativeKey kind
      (.answered accepted, after)
  | .drain => (.done, { ingress with mailbox := ingress.mailbox.drain.2 })
  | .mailboxBegins => (.done, { ingress with mailbox := ingress.mailbox.beginSession.2 })
  | .mailboxEnds => (.done, { ingress with mailbox := ingress.mailbox.invalidateSession })

abbrev IngressStage := Stage BaresipCallbackIngress IngressCall IngressAnswer

/-- The events that this stage put behind those queued already. -/
def IngressStage.added (stage : IngressStage) : List BaresipNativeEvent :=
  stage.after.mailbox.queued.drop stage.before.mailbox.queued.length

/-- The events accepted into the mailbox for the session. -/
def ingressEvents (session : UInt64) (history : List IngressStage) : List BaresipNativeEvent :=
  (history.flatMap IngressStage.added).filter fun event => event.session = session

theorem ingressEvents_concat (session : UInt64) (history : List IngressStage)
    (stage : IngressStage) :
    ingressEvents session (history ++ [stage]) = ingressEvents session history ++
      stage.added.filter fun event => event.session = session := by
  simp [ingressEvents]

/-- The token that an accepted `call_started` of the session emitted. -/
def IngressStage.startedToken (session : UInt64) (stage : IngressStage) : Option UInt64 :=
  match stage.input, stage.output with
  | .callStarted callbackSession _ _ _, .started true token =>
      if callbackSession = session then some token else none
  | _, _ => none

/-- The tokens of the calls that were opened, in order. -/
def openedTokens (events : List BaresipNativeEvent) : List UInt64 :=
  (events.filter fun event => event.kind.opening).map BaresipNativeEvent.callId

theorem openedTokens_concat (events : List BaresipNativeEvent) (event : BaresipNativeEvent) :
    openedTokens (events ++ [event]) =
      openedTokens events ++ if event.kind.opening then [event.callId] else [] := by
  unfold openedTokens
  rw [List.filter_append, List.map_append]
  cases opening : event.kind.opening <;> simp [opening]

def IngressAnswer.Refused : IngressAnswer → Prop
  | .answered accepted => accepted = false
  | .started accepted emittedToken => accepted = false ∧ emittedToken = 0
  | _ => False

namespace BaresipCallbackIngress

/-- The session, the account and the keys are forgotten, and the mailbox is emptied. -/
structure Revoked (before after : BaresipCallbackIngress) : Prop where
  session : after.session = 0
  account : after.account = 0
  activeNativeKey : after.activeNativeKey = 0
  activeToken : after.activeToken = 0
  lastNativeKey : after.lastNativeKey = 0
  lastToken : after.lastToken = 0
  mailbox : after.mailbox.session = 0
  emptied : after.mailbox.queued = []
  generation : after.mailbox.generation = before.mailbox.generation

/-- The callback is not one of the selected account. -/
def WrongAccount (ingress : BaresipCallbackIngress) (account : Address) : Prop :=
  account = 0 ∨ account ≠ ingress.account

/-- The mailbox refuses the event that is to be published. -/
def Refuses (ingress : BaresipCallbackIngress) (kind : BaresipEventKind) (token : UInt64) : Prop :=
  (ingress.mailbox.enqueue { kind := kind, session := ingress.session, callId := token }).1 = false

/-- What is wrong with a callback of the current session: the account, the kind, the native
key, or an event that the mailbox refuses. -/
def Misfit (ingress : BaresipCallbackIngress) : IngressCall → Prop
  | .registration _ account kind =>
      ingress.WrongAccount account ∨ kind.opening = true ∨ kind.continuing = true ∨
        ingress.Refuses kind 0
  | .callStarted _ account nativeKey kind =>
      ingress.WrongAccount account ∨ kind.opening = false ∨ nativeKey = 0 ∨
        nativeKey ≤ ingress.lastNativeKey ∨ ingress.activeNativeKey ≠ 0 ∨
        ingress.lastToken = uint64Max ∨ ingress.Refuses kind (ingress.lastToken + 1)
  | .callChanged _ account nativeKey kind =>
      ingress.WrongAccount account ∨ kind.continuing = false ∨ nativeKey = 0 ∨
        nativeKey ≠ ingress.activeNativeKey ∨ ingress.activeToken = 0 ∨
        ingress.Refuses kind ingress.activeToken
  | _ => False

/-- The session that a callback was registered with. -/
def callbackSession : IngressCall → Option UInt64
  | .registration session _ _ => some session
  | .callStarted session _ _ _ => some session
  | .callChanged session _ _ _ => some session
  | _ => none

theorem revoked_revokeLocked (ingress : BaresipCallbackIngress) :
    ingress.Revoked ingress.revokeLocked :=
  ⟨rfl, rfl, rfl, rfl, rfl, rfl, rfl, BaresipEventMailbox.queued_eq_nil rfl, rfl⟩

/-- One event of the current session went behind those queued already. -/
structure Queued (before after : BaresipCallbackIngress) (event : BaresipNativeEvent) : Prop where
  live : before.mailbox.session ≠ 0
  ofSession : event.session = before.session
  mailbox : before.session = before.mailbox.session
  session : after.session = before.session
  current : after.mailbox.session = before.mailbox.session
  generation : after.mailbox.generation = before.mailbox.generation
  intact : after.mailbox.overflow = false
  grown : after.mailbox.queued = before.mailbox.queued ++ [event]

/-- An event is queued, and only the mailbox changes, or the session is revoked. -/
theorem enqueueLocked_cases (ingress : BaresipCallbackIngress) (kind : BaresipEventKind)
    (token : UInt64) :
    (¬ ingress.Refuses kind token ∧ ∃ mailbox,
      ingress.enqueueLocked kind token = (true, { ingress with mailbox := mailbox }) ∧
        ingress.Queued { ingress with mailbox := mailbox }
          { kind := kind, session := ingress.session, callId := token }) ∨
    (ingress.Refuses kind token ∧ ∃ after,
      ingress.enqueueLocked kind token = (false, after) ∧ ingress.Revoked after) := by
  unfold enqueueLocked Refuses
  rcases ingress.mailbox.enqueue_cases { kind, session := ingress.session, callId := token } with
    same | ⟨_, _, refused, _, _, generation, _⟩ |
      ⟨live, ofSession, _, queued, intact, session, generation, grown⟩
  · refine .inr ⟨by rw [same], ?_⟩
    rw [same]
    exact ⟨_, rfl, ingress.revoked_revokeLocked⟩
  · refine .inr ⟨refused, ?_⟩
    dsimp only
    rw [refused]
    exact ⟨_, rfl, rfl, rfl, rfl, rfl, rfl, rfl, rfl, BaresipEventMailbox.queued_eq_nil rfl,
      generation⟩
  · refine .inl ⟨by rw [queued]; decide, ?_⟩
    dsimp only
    rw [queued]
    exact ⟨_, rfl, live, rfl, ofSession, rfl, session, generation, intact, grown⟩

/-- The log that the ingress keeps of its current session. -/
def log (ingress : BaresipCallbackIngress) : CallLog :=
  ⟨ingress.lastToken, if ingress.activeToken = 0 then none else some ingress.activeToken⟩

/-- The key and the token of the open call are there together. -/
def Paired (ingress : BaresipCallbackIngress) : Prop :=
  ingress.activeNativeKey = 0 ↔ ingress.activeToken = 0

/-- Everything that a callback can do. -/
inductive CalledBack (before : BaresipCallbackIngress) :
    IngressCall → IngressAnswer → BaresipCallbackIngress → Prop where
  | inert (call : IngressCall) (answer : IngressAnswer) (session : UInt64)
      (callback : callbackSession call = some session)
      (other : before.session = 0 ∨ session ≠ before.session) (refused : answer.Refused) :
      CalledBack before call answer before
  | revoked (call : IngressCall) (answer : IngressAnswer) (after : BaresipCallbackIngress)
      (live : before.session ≠ 0) (callback : callbackSession call = some before.session)
      (misfit : before.Misfit call) (refused : answer.Refused) (revoked : before.Revoked after) :
      CalledBack before call answer after
  | published (call : IngressCall) (event : BaresipNativeEvent) (after : BaresipCallbackIngress)
      (callback : callbackSession call = some before.session) (fitting : ¬ before.Misfit call)
      (notOpening : event.kind.opening = false) (fits : before.log.Fits event)
      (queued : before.Queued after event) (log : after.log = before.log.after event)
      (paired : after.Paired) : CalledBack before call (.answered true) after
  | started (account : Address) (nativeKey : UInt64) (event : BaresipNativeEvent)
      (after : BaresipCallbackIngress)
      (fitting : ¬ before.Misfit (.callStarted before.session account nativeKey event.kind))
      (opening : event.kind.opening = true) (fits : before.log.Fits event)
      (whole : event = { kind := event.kind, session := before.session, callId := event.callId })
      (token : event.callId ≠ 0) (queued : before.Queued after event)
      (log : after.log = before.log.after event) (paired : after.Paired) :
      CalledBack before (.callStarted before.session account nativeKey event.kind)
        (.started true event.callId) after

/-- The three ways in which the admission of a callback can end. -/
theorem admitLocked_admission (ingress : BaresipCallbackIngress) (session : UInt64)
    (account : Address) :
    (ingress.admitLocked session account = (false, ingress) ∧
      (ingress.session = 0 ∨ session ≠ ingress.session)) ∨
    (ingress.admitLocked session account = (false, ingress.revokeLocked) ∧
      ingress.session ≠ 0 ∧ session = ingress.session ∧ ingress.WrongAccount account) ∨
    (ingress.admitLocked session account = (true, ingress) ∧
      ingress.session ≠ 0 ∧ session = ingress.session ∧ ¬ ingress.WrongAccount account) := by
  unfold admitLocked
  by_cases current : ingress.isCurrentLocked session = true
  · have both : ingress.session ≠ 0 ∧ session = ingress.session := by
      simpa [isCurrentLocked] using current
    rw [if_neg (not_not_intro current)]
    by_cases wrong : account = 0 ∨ account ≠ ingress.account
    · rw [if_pos wrong]
      exact .inr (.inl ⟨rfl, both.1, both.2, wrong⟩)
    · rw [if_neg wrong]
      exact .inr (.inr ⟨rfl, both.1, both.2, wrong⟩)
  · rw [if_pos current]
    refine .inl ⟨rfl, ?_⟩
    by_contra both
    simp only [not_or, not_not] at both
    exact current (by simp [isCurrentLocked, both.1, both.2])

/-- An event of the registration, published once the open call is settled. -/
theorem registers_calledBack {ingress : BaresipCallbackIngress} (base : BaresipCallbackIngress)
    {account : Address} {kind : BaresipEventKind} (live : ingress.session ≠ 0) (right : ¬ ingress.WrongAccount account)
    (notOpening : kind.opening = false) (notContinuing : kind.continuing = false)
    (mailbox : base.mailbox = ingress.mailbox) (session : base.session = ingress.session)
    (log : base.log = ingress.log.after { kind := kind, session := ingress.session, callId := 0 })
    (paired : base.Paired) :
    ingress.CalledBack (.registration ingress.session account kind)
      (.answered (base.enqueueLocked kind 0).1) (base.enqueueLocked kind 0).2 := by
  have refuses : base.Refuses kind 0 ↔ ingress.Refuses kind 0 := by
    unfold Refuses
    rw [mailbox, session]
  rcases base.enqueueLocked_cases kind 0 with ⟨accepts, after, eq, queued⟩ | ⟨refused, after, eq, revoked⟩
  · rw [eq]
    have fitting : ¬ ingress.Misfit (.registration ingress.session account kind) := by
      rintro (wrong | opening | continuing | refused)
      · exact right wrong
      · exact absurd (notOpening.symm.trans opening) (by decide)
      · exact absurd (notContinuing.symm.trans continuing) (by decide)
      · exact accepts (refuses.mpr refused)
    have fits : ingress.log.Fits { kind := kind, session := ingress.session, callId := 0 } := by
      refine ⟨?_, ?_, ?_, fun _ _ => rfl⟩
      · exact fun opening => absurd (notOpening.symm.trans opening) (by decide)
      · exact fun opening => absurd (notOpening.symm.trans opening) (by decide)
      · exact fun continuing => absurd (notContinuing.symm.trans continuing) (by decide)
    rw [session] at queued
    refine .published _ _ _ rfl fitting notOpening fits ?_ log paired
    obtain ⟨live, ofSession, of, kept, current, generation, intact, grown⟩ := queued
    rw [mailbox] at live of current generation grown
    exact ⟨live, rfl, session ▸ of, session ▸ kept, current, generation, intact, grown⟩
  · rw [eq]
    refine .revoked _ _ _ live rfl (.inr (.inr (.inr (refuses.mp refused)))) rfl ?_
    exact { revoked with generation := mailbox ▸ revoked.generation }

theorem registration_calledBack (ingress : BaresipCallbackIngress) (paired : ingress.Paired)
    (session : UInt64) (account : Address) (kind : BaresipEventKind) :
    ingress.CalledBack (.registration session account kind)
      (.answered (ingress.registration session account kind).1)
      (ingress.registration session account kind).2 := by
  unfold registration
  rcases ingress.admitLocked_admission session account with
    ⟨eq, other⟩ | ⟨eq, live, rfl, wrong⟩ | ⟨eq, live, rfl, right⟩
  · rw [eq]
    exact .inert _ _ session rfl other rfl
  · rw [eq]
    exact .revoked _ _ _ live rfl (.inl wrong) rfl ingress.revoked_revokeLocked
  rw [eq]
  cases kind with
  | registering => exact registers_calledBack ingress live right rfl rfl rfl rfl rfl paired
  | registerOk => exact registers_calledBack ingress live right rfl rfl rfl rfl rfl paired
  | registerFail => exact registers_calledBack ingress live right rfl rfl rfl rfl rfl paired
  | unregistering => exact registers_calledBack ingress live right rfl rfl rfl rfl rfl paired
  | transportLost =>
      exact registers_calledBack { ingress with activeNativeKey := 0, activeToken := 0 } live right
        rfl rfl rfl rfl rfl (iff_of_true rfl rfl)
  | callIncoming => exact .revoked _ _ _ live rfl (.inr (.inl rfl)) rfl ingress.revoked_revokeLocked
  | callOutgoing => exact .revoked _ _ _ live rfl (.inr (.inl rfl)) rfl ingress.revoked_revokeLocked
  | callEstablished =>
      exact .revoked _ _ _ live rfl (.inr (.inr (.inl rfl))) rfl ingress.revoked_revokeLocked
  | callClosed =>
      exact .revoked _ _ _ live rfl (.inr (.inr (.inl rfl))) rfl ingress.revoked_revokeLocked

theorem callStartedInto_calledBack (ingress : BaresipCallbackIngress) (paired : ingress.Paired)
    (session : UInt64) (account : Address) (nativeKey : UInt64) (kind : BaresipEventKind) :
    let called := ingress.callStartedInto session account nativeKey kind
    ingress.CalledBack (.callStarted session account nativeKey kind)
      (.started called.1.1 called.1.2) called.2 := by
  unfold callStartedInto callStarted
  rcases ingress.admitLocked_admission session account with
    ⟨eq, other⟩ | ⟨eq, live, rfl, wrong⟩ | ⟨eq, live, rfl, right⟩
  · rw [eq]
    exact .inert _ _ session rfl other ⟨rfl, rfl⟩
  · rw [eq]
    exact .revoked _ _ _ live rfl (.inl wrong) ⟨rfl, rfl⟩ ingress.revoked_revokeLocked
  rw [eq]
  dsimp only
  split
  · next misfit =>
      refine .revoked _ _ _ live rfl ?_ ⟨rfl, rfl⟩ ingress.revoked_revokeLocked
      rcases misfit with ⟨notIncoming, notOutgoing⟩ | zero | stale | busy | exhausted
      · exact .inr (.inl (by simp [BaresipEventKind.opening, notIncoming, notOutgoing]))
      · exact .inr (.inr (.inl zero))
      · exact .inr (.inr (.inr (.inl stale)))
      · exact .inr (.inr (.inr (.inr (.inl busy))))
      · exact .inr (.inr (.inr (.inr (.inr (.inl exhausted)))))
  next admitted =>
  simp only [not_or, not_and, not_not] at admitted
  obtain ⟨opening, nonzero, newer, free, room⟩ := admitted
  have kindOpens : kind.opening = true := by
    by_cases incoming : kind = .callIncoming
    · simp [BaresipEventKind.opening, incoming]
    · simp [BaresipEventKind.opening, opening incoming]
  have next := EventSource.toNat_succ room
  have token : ingress.lastToken + 1 ≠ 0 := by
    intro zero
    rw [zero] at next
    cases next
  rcases ingress.enqueueLocked_cases kind (ingress.lastToken + 1) with
    ⟨accepts, after, eq, queued⟩ | ⟨refused, after, eq, revoked⟩
  · rw [eq]
    have idle : ingress.activeToken = 0 := paired.mp free
    refine .started account nativeKey
      { kind := kind, session := ingress.session, callId := ingress.lastToken + 1 } _ ?_ kindOpens
      ⟨fun _ => next, fun _ => if_pos idle, ?_, ?_⟩ rfl token { queued with } ?_
      (iff_of_false nonzero token)
    · rintro (wrong | notOpening | zero | stale | busy | exhausted | refused)
      · exact right wrong
      · exact absurd (notOpening.symm.trans kindOpens) (by decide)
      · exact nonzero zero
      · exact newer stale
      · exact busy free
      · exact room exhausted
      · exact accepts refused
    · intro continuing
      exact absurd ((continuing_of_opening kindOpens).symm.trans continuing) (by decide)
    · intro notOpening
      exact absurd (notOpening.symm.trans kindOpens) (by decide)
    · simp [log, CallLog.after, kindOpens, token]
  · rw [eq]
    exact .revoked _ _ _ live rfl (.inr (.inr (.inr (.inr (.inr (.inr refused)))))) ⟨rfl, rfl⟩ revoked

/-- A change of the open call fits the log. -/
theorem fits_of_continuing {ingress : BaresipCallbackIngress} {kind : BaresipEventKind}
    (continuing : kind.continuing = true) (token : ingress.activeToken ≠ 0) :
    ingress.log.Fits
      { kind := kind, session := ingress.session, callId := ingress.activeToken } := by
  have notOpening : kind.opening = false := by
    by_contra opening
    have other := continuing_of_opening (by simpa using opening)
    exact absurd (other.symm.trans continuing) (by decide)
  constructor
  · exact fun opening => absurd (notOpening.symm.trans opening) (by decide)
  · exact fun opening => absurd (notOpening.symm.trans opening) (by decide)
  · exact fun _ => if_neg token
  · exact fun _ other => absurd (other.symm.trans continuing) (by decide)

theorem callChanged_calledBack (ingress : BaresipCallbackIngress) (paired : ingress.Paired)
    (session : UInt64) (account : Address) (nativeKey : UInt64) (kind : BaresipEventKind) :
    ingress.CalledBack (.callChanged session account nativeKey kind)
      (.answered (ingress.callChanged session account nativeKey kind).1)
      (ingress.callChanged session account nativeKey kind).2 := by
  unfold callChanged
  rcases ingress.admitLocked_admission session account with
    ⟨eq, other⟩ | ⟨eq, live, rfl, wrong⟩ | ⟨eq, live, rfl, right⟩
  · rw [eq]
    exact .inert _ _ session rfl other rfl
  · rw [eq]
    exact .revoked _ _ _ live rfl (.inl wrong) rfl ingress.revoked_revokeLocked
  rw [eq]
  dsimp only
  split
  · next misfit =>
      refine .revoked _ _ _ live rfl ?_ rfl ingress.revoked_revokeLocked
      rcases misfit with ⟨notEstablished, notClosed⟩ | zero | other | idle
      · exact .inr (.inl (by simp [BaresipEventKind.continuing, notEstablished, notClosed]))
      · exact .inr (.inr (.inl zero))
      · exact .inr (.inr (.inr (.inl other)))
      · exact .inr (.inr (.inr (.inr (.inl idle))))
  next admitted =>
  simp only [not_or, not_and, not_not] at admitted
  obtain ⟨continuing, nonzero, same, token⟩ := admitted
  rcases ingress.enqueueLocked_cases kind ingress.activeToken with
    ⟨accepts, after, eq, queued⟩ | ⟨refused, after, eq, revoked⟩
  · rw [eq]
    have fitting (kindContinues : kind.continuing = true) :
        ¬ ingress.Misfit (.callChanged ingress.session account nativeKey kind) := by
      rintro (wrong | notContinuing | zero | other | idle | refused)
      · exact right wrong
      · exact absurd (notContinuing.symm.trans kindContinues) (by decide)
      · exact nonzero zero
      · exact other same
      · exact token idle
      · exact accepts refused
    dsimp only
    by_cases closed : kind = .callClosed
    · subst closed
      rw [if_pos rfl]
      refine .published _ _ _ rfl (fitting rfl) rfl (fits_of_continuing rfl token)
        { queued with } ?_ (iff_of_true rfl rfl)
      simp [log, CallLog.after, BaresipEventKind.opening]
    · have established : kind = .callEstablished := by
        by_contra other
        exact closed (continuing other)
      subst established
      rw [if_neg closed]
      refine .published _ _ _ rfl (fitting rfl) rfl (fits_of_continuing rfl token) queued ?_ paired
      simp [log, CallLog.after, BaresipEventKind.opening]
  · rw [eq]
    exact .revoked _ _ _ live rfl (.inr (.inr (.inr (.inr (.inr refused))))) rfl revoked

end BaresipCallbackIngress

open BaresipCallbackIngress

theorem ingressStep_calledBack {ingress : BaresipCallbackIngress} (paired : ingress.Paired)
    {call : IngressCall} {session : UInt64} (callback : callbackSession call = some session) :
    ingress.CalledBack call (ingressStep ingress call).1 (ingressStep ingress call).2 := by
  cases call with
  | registration session account kind => exact ingress.registration_calledBack paired _ _ _
  | callStarted session account nativeKey kind =>
      exact ingress.callStartedInto_calledBack paired _ _ _ _
  | callChanged session account nativeKey kind => exact ingress.callChanged_calledBack paired _ _ _ _
  | _ => cases callback

/-! ## The log of a session -/

/-- The events of the session so far, against the ingress in which the history ends. -/
structure IngressLogged (session : UInt64) (history : List IngressStage)
    (ingress : BaresipCallbackIngress) : Prop where
  issued : ingress.session ≤ ingress.mailbox.generation
  paired : ingress.Paired
  unissued : ingress.mailbox.generation < session → ingressEvents session history = []
  current : session ≠ 0 → ingress.session = session →
    callLog (ingressEvents session history) = ingress.log
  wellFormed : CallHistory (ingressEvents session history)
  starts : history.filterMap (IngressStage.startedToken session) =
    openedTokens (ingressEvents session history)

theorem ingressLogged_initial (session : UInt64) : IngressLogged session [] {} where
  issued := UInt64.le_refl _
  paired := Iff.rfl
  unissued _ := rfl
  current nonzero current := absurd current.symm nonzero
  wellFormed := callHistory_nil
  starts := rfl

/-- A stage that queues nothing, and leaves the session as it is or ends it. -/
theorem IngressLogged.quiet {session : UInt64} {history : List IngressStage}
    {ingress : BaresipCallbackIngress} (logged : IngressLogged session history ingress)
    {stage : IngressStage} (added : stage.added = [])
    (unstarted : stage.startedToken session = none)
    (grows : ingress.mailbox.generation ≤ stage.after.mailbox.generation)
    (issued : stage.after.session ≤ stage.after.mailbox.generation) (paired : stage.after.Paired)
    (kept : session ≠ 0 → stage.after.session = session →
      (ingress.session = session ∧ stage.after.log = ingress.log) ∨
        (ingress.mailbox.generation < session ∧ stage.after.log = {})) :
    IngressLogged session (history ++ [stage]) stage.after := by
  have same : ingressEvents session (history ++ [stage]) = ingressEvents session history := by
    rw [ingressEvents_concat, added, List.filter_nil, List.append_nil]
  have starts : (history ++ [stage]).filterMap (IngressStage.startedToken session) =
      history.filterMap (IngressStage.startedToken session) := by
    simp [unstarted]
  refine ⟨issued, paired, ?_, ?_, same ▸ logged.wellFormed, by rw [starts, same]; exact logged.starts⟩
  · intro fresh
    rw [same]
    exact logged.unissued (UInt64.lt_of_le_of_lt grows fresh)
  · intro nonzero current
    rw [same]
    rcases kept nonzero current with ⟨before, log⟩ | ⟨fresh, log⟩
    · rw [log]
      exact logged.current nonzero before
    · rw [log, logged.unissued fresh]
      rfl

/-- A stage that queues an event which fits the log of the current session. -/
theorem IngressLogged.published {session : UInt64} {history : List IngressStage}
    {stage : IngressStage} (logged : IngressLogged session history stage.before)
    {event : BaresipNativeEvent} (fits : stage.before.log.Fits event)
    (queued : stage.before.Queued stage.after event)
    (log : stage.after.log = stage.before.log.after event) (paired : stage.after.Paired)
    (started : stage.startedToken session =
      if event.kind.opening = true ∧ stage.before.session = session then some event.callId
      else none) :
    IngressLogged session (history ++ [stage]) stage.after := by
  have added : stage.added = [event] := by
    unfold IngressStage.added
    rw [queued.grown]
    exact List.drop_left
  have issued : stage.after.session ≤ stage.after.mailbox.generation := by
    rw [queued.session, queued.generation]
    exact logged.issued
  by_cases ofSession : stage.before.session = session
  · have one : ingressEvents session (history ++ [stage]) = ingressEvents session history ++ [event] := by
      rw [ingressEvents_concat, added]
      simp [queued.ofSession, ofSession]
    have nonzero : session ≠ 0 := by
      rw [← ofSession, queued.mailbox]
      exact queued.live
    have known := logged.current nonzero ofSession
    refine ⟨issued, paired, fun fresh => ?_, fun _ _ => ?_, ?_, ?_⟩
    · have bound := logged.issued
      rw [ofSession, ← queued.generation] at bound
      exact absurd fresh (UInt64.not_lt.mpr bound)
    · rw [one, callLog_concat, known, log]
    · rw [one]
      exact logged.wellFormed.concat (known ▸ fits)
    · rw [one, openedTokens_concat, ← logged.starts, List.filterMap_append, List.filterMap_cons,
        started, List.filterMap_nil]
      cases opening : event.kind.opening <;> simp [ofSession]
  · have same : ingressEvents session (history ++ [stage]) = ingressEvents session history := by
      rw [ingressEvents_concat, added]
      simp [queued.ofSession, ofSession]
    refine ⟨issued, paired, fun fresh => ?_, fun _ current => ?_, same ▸ logged.wellFormed, ?_⟩
    · rw [same]
      exact logged.unissued (queued.generation ▸ fresh)
    · exact absurd (queued.session.symm.trans current) ofSession
    · rw [same, ← logged.starts, List.filterMap_append, List.filterMap_cons, started]
      simp [ofSession]

theorem added_eq_nil {stage : IngressStage} (emptied : stage.after.mailbox.queued = []) :
    stage.added = [] := by
  unfold IngressStage.added
  rw [emptied, List.drop_nil]

theorem startedToken_refused {session : UInt64} {stage : IngressStage}
    (refused : stage.output.Refused) : stage.startedToken session = none := by
  obtain ⟨before, input, output, after⟩ := stage
  unfold IngressStage.startedToken
  cases output with
  | started accepted token =>
      obtain ⟨rfl, rfl⟩ := refused
      cases input <;> rfl
  | _ => cases input <;> rfl

theorem startedToken_answered {session : UInt64} {stage : IngressStage} {accepted : Bool}
    (output : stage.output = .answered accepted) : stage.startedToken session = none := by
  unfold IngressStage.startedToken
  rw [output]
  cases stage.input <;> rfl

theorem ingressLogged_callback {session : UInt64} {history : List IngressStage}
    (stage : IngressStage) (logged : IngressLogged session history stage.before)
    (calledBack : stage.before.CalledBack stage.input stage.output stage.after) :
    IngressLogged session (history ++ [stage]) stage.after := by
  obtain ⟨before, input, output, after⟩ := stage
  dsimp only at logged calledBack ⊢
  cases calledBack with
  | inert _ _ _ _ _ refused =>
      refine logged.quiet (List.drop_length ..) (startedToken_refused refused) (UInt64.le_refl _)
        logged.issued logged.paired ?_
      exact fun _ current => .inl ⟨current, rfl⟩
  | revoked _ _ _ live callback misfit refused revoked =>
      refine logged.quiet (added_eq_nil revoked.emptied) (startedToken_refused refused) ?_ ?_ ?_ ?_
      · rw [revoked.generation]
        exact UInt64.le_refl _
      · rw [revoked.session]
        exact UInt64.zero_le
      · exact iff_of_true revoked.activeNativeKey revoked.activeToken
      · exact fun nonzero current => absurd (current.symm.trans revoked.session) nonzero
  | published _ event _ callback fitting notOpening fits queued log paired =>
      apply logged.published fits queued log paired
      rw [startedToken_answered rfl, if_neg (by simp [notOpening])]
  | started account nativeKey event _ fitting opening fits whole token queued log paired =>
      apply logged.published fits queued log paired
      simp [IngressStage.startedToken, opening]

/-- The calls of the ingress's owner and of the other users of its mailbox. -/
theorem ingressLogged_owner {session : UInt64} {history : List IngressStage}
    {ingress : BaresipCallbackIngress} (logged : IngressLogged session history ingress)
    {call : IngressCall} (owner : callbackSession call = none) :
    IngressLogged session (history ++ [stageOf ingressStep ingress call])
      (ingressStep ingress call).2 := by
  have none_ : IngressStage.startedToken session (stageOf ingressStep ingress call) = none := by
    cases call with
    | callStarted session account nativeKey kind => cases owner
    | _ => rfl
  cases call with
  | beginSession account =>
      unfold stageOf at none_ ⊢
      simp only [ingressStep, beginSession] at none_ ⊢
      split
      · refine logged.quiet (List.drop_length ..) rfl (UInt64.le_refl _) logged.issued logged.paired ?_
        exact fun _ current => .inl ⟨current, rfl⟩
      · have moved := BaresipEventMailbox.mailboxStep_moved ingress.mailbox .beginSession
        simp only [mailboxStep] at moved
        generalize ingress.mailbox.beginSession.1 = number at moved ⊢
        generalize ingress.mailbox.beginSession.2 = mailbox at moved ⊢
        have rises := moved.rises
        cases moved with
        | began _ room generation begun intact emptied =>
            refine logged.quiet (added_eq_nil emptied) rfl rises ?_ (iff_of_true rfl rfl) ?_
            · exact generation ▸ UInt64.le_refl _
            · rintro _ rfl
              exact .inr ⟨by grind, rfl⟩
        | exhausted _ full generation ended emptied =>
            refine logged.quiet (added_eq_nil emptied) rfl rises UInt64.zero_le
              (iff_of_true rfl rfl) ?_
            exact fun nonzero current => absurd current.symm nonzero
  | revoke =>
      have revoked := ingress.revoked_revokeLocked
      refine logged.quiet (added_eq_nil revoked.emptied) none_ (UInt64.le_refl _) UInt64.zero_le
        (iff_of_true rfl rfl) ?_
      exact fun nonzero current => absurd current.symm nonzero
  | drain =>
      refine logged.quiet (added_eq_nil ingress.mailbox.drain_queued) none_ (UInt64.le_refl _)
        logged.issued logged.paired ?_
      exact fun _ current => .inl ⟨current, rfl⟩
  | mailboxBegins =>
      have rises : ingress.mailbox.generation ≤ ingress.mailbox.beginSession.2.generation :=
        (BaresipEventMailbox.mailboxStep_moved ingress.mailbox .beginSession).rises
      have emptied : ingress.mailbox.beginSession.2.queued = [] := by
        unfold BaresipEventMailbox.beginSession
        split <;> exact BaresipEventMailbox.queued_eq_nil rfl
      refine logged.quiet (added_eq_nil emptied) none_ rises (UInt64.le_trans logged.issued rises)
        logged.paired ?_
      exact fun _ current => .inl ⟨current, rfl⟩
  | mailboxEnds =>
      refine logged.quiet (added_eq_nil (BaresipEventMailbox.queued_eq_nil rfl)) none_
        (UInt64.le_refl _) logged.issued logged.paired ?_
      exact fun _ current => .inl ⟨current, rfl⟩
  | _ => cases owner

theorem ingressLogged_step (session : UInt64) (history : List IngressStage)
    (ingress : BaresipCallbackIngress) (call : IngressCall)
    (logged : IngressLogged session history ingress) :
    IngressLogged session (history ++ [stageOf ingressStep ingress call])
      (ingressStep ingress call).2 := by
  cases callback : callbackSession call with
  | none => exact ingressLogged_owner logged callback
  | some session =>
      exact ingressLogged_callback (stageOf ingressStep ingress call) logged
        (ingressStep_calledBack logged.paired callback)

/-- What a callback of this stage did, if it was one. -/
structure CallbackEffect (stage : IngressStage) : Prop where
  emitted : ∀ accepted token, stage.output = .started accepted token →
    (accepted = true ↔ token ≠ 0)
  inert : ∀ session, callbackSession stage.input = some session →
    stage.before.session = 0 ∨ session ≠ stage.before.session →
      stage.output.Refused ∧ stage.after = stage.before
  refused : stage.before.session ≠ 0 →
    callbackSession stage.input = some stage.before.session →
      (stage.output.Refused ↔ stage.before.Misfit stage.input)
  revoked : stage.before.session ≠ 0 →
    callbackSession stage.input = some stage.before.session →
      stage.before.Misfit stage.input → stage.before.Revoked stage.after

theorem callbackEffect_of_calledBack {stage : IngressStage}
    (calledBack : stage.before.CalledBack stage.input stage.output stage.after) :
    CallbackEffect stage := by
  obtain ⟨before, input, output, after⟩ := stage
  dsimp only at calledBack
  cases calledBack with
  | inert _ _ session callback other refused =>
      refine ⟨?_, fun _ _ _ => ⟨refused, rfl⟩, fun live current => ?_, fun live current => ?_⟩
      · rintro accepted token rfl
        simp [refused.1, refused.2]
      · have same := Option.some.inj (callback.symm.trans current)
        exact absurd other (not_or.mpr ⟨live, not_not_intro same⟩)
      · have same := Option.some.inj (callback.symm.trans current)
        exact absurd other (not_or.mpr ⟨live, not_not_intro same⟩)
  | revoked _ _ _ live callback misfit refused revoked =>
      refine ⟨?_, fun session current other => ?_, fun _ _ => iff_of_true refused misfit,
        fun _ _ _ => revoked⟩
      · rintro accepted token rfl
        simp [refused.1, refused.2]
      · have same := Option.some.inj (callback.symm.trans current)
        exact absurd other (not_or.mpr ⟨live, not_not_intro same.symm⟩)
  | published _ event _ callback fitting notOpening fits queued =>
      refine ⟨nofun, fun session current other => ?_, fun _ _ => iff_of_false nofun fitting,
        fun _ _ misfit => absurd misfit fitting⟩
      have same := Option.some.inj (callback.symm.trans current)
      have live : before.session ≠ 0 := queued.mailbox ▸ queued.live
      exact absurd other (not_or.mpr ⟨live, not_not_intro same.symm⟩)
  | started account nativeKey event _ fitting opening fits whole token queued =>
      refine ⟨?_, fun session current other => ?_, fun _ _ => ?_,
        fun _ _ misfit => absurd misfit fitting⟩
      · rintro _ _ ⟨⟩
        exact iff_of_true rfl token
      · have same := Option.some.inj current
        have live : before.session ≠ 0 := queued.mailbox ▸ queued.live
        exact absurd other (not_or.mpr ⟨live, not_not_intro same.symm⟩)
      · exact iff_of_false (fun refused => by cases refused.1) fitting

/-- The calls that are no callbacks emit no token and are registered with no session. -/
theorem callbackEffect_of_owner (ingress : BaresipCallbackIngress) {call : IngressCall}
    (owner : callbackSession call = none) :
    CallbackEffect (stageOf ingressStep ingress call) := by
  have noToken : ∀ accepted token, (ingressStep ingress call).1 ≠ .started accepted token := by
    intro accepted token output
    cases call with
    | registration session account kind => cases owner
    | callStarted session account nativeKey kind => cases owner
    | callChanged session account nativeKey kind => cases owner
    | _ => cases output
  constructor
  · exact fun accepted token output => absurd output (noToken accepted token)
  · exact fun _ callback => absurd (owner.symm.trans callback) nofun
  · exact fun _ callback => absurd (owner.symm.trans callback) nofun
  · exact fun _ callback => absurd (owner.symm.trans callback) nofun

/--
What the ingress promises of every run: the events of each session are a call
history whose calls are those that `call_started` emitted, a stale callback does
nothing, and a callback that does not fit revokes the session.
-/
structure WritesCallHistory (history : List IngressStage) : Prop where
  wellFormed : ∀ session, CallHistory (ingressEvents session history)
  starts : ∀ session, history.filterMap (IngressStage.startedToken session) =
    openedTokens (ingressEvents session history)
  callbacks : ∀ stage ∈ history, CallbackEffect stage

theorem ingress_logged (session : UInt64) (calls : List IngressCall) :
    IngressLogged session (stages ingressStep {} calls) (finalState ingressStep {} calls) :=
  history_invariant (IngressLogged session) (fun _ => True)
    (fun history ingress call logged _ => ingressLogged_step session history ingress call logged)
    [] (ingressLogged_initial session) fun _ _ => trivial

theorem ingress_writes_call_history (calls : List IngressCall) :
    WritesCallHistory (stages ingressStep {} calls) where
  wellFormed session := (ingress_logged session calls).wellFormed
  starts session := (ingress_logged session calls).starts
  callbacks := by
    intro stage member
    obtain ⟨before, after, split⟩ := List.append_of_mem member
    obtain ⟨first, call, rest, rfl, rfl, rfl, rfl⟩ := stages_split split
    have logged := ingress_logged 0 first
    cases callback : callbackSession call with
    | none => exact callbackEffect_of_owner _ callback
    | some session => exact callbackEffect_of_calledBack (ingressStep_calledBack logged.paired callback)

end AxeVoice.Native
