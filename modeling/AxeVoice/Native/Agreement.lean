import AxeVoice.Foundation.Reactive
import AxeVoice.Native.Session
import AxeVoice.Native.SessionControl

/-!
# The adapter agrees with the projected call state

Runs that start, stop and drain one adapter while native events arrive.  The
adapter's flags run ahead of the projection by the queued events: folding the
queue into the projected call gives the call that the adapter holds.
-/

namespace AxeVoice.Native

open AxeVoice.Sip
open AxeVoice.Foundation

/-- The owner's adapter and its projection. -/
structure SdkRun where
  adapter : BaresipSdkEventAdapter := {}
  projection : SipEventProjection := {}

inductive SdkStep where
  | start (ownedUa : Address) (outcome : StartOutcome)
  | stop
  | deliver (delivery : Delivery) (context : Option Nat)
  | drain (uaIsregistered : Bool)
  | otherAdapterClaims
  | otherAdapterReleases

namespace BaresipSdkEventAdapter

/-- The mailbox that the ingress refers to, after another of its users changed it. -/
def withMailbox (adapter : BaresipSdkEventAdapter) (mailbox : BaresipEventMailbox) :
    BaresipSdkEventAdapter :=
  { adapter with lifecycle := { adapter.lifecycle with
      ingress := { adapter.lifecycle.ingress with mailbox := mailbox } } }

end BaresipSdkEventAdapter

/-- One step of the event loop, or of another adapter of the process; a drain shows what it
projects. -/
def sdkStep (run : SdkRun) : SdkStep → Option SipRuntimeObservation × SdkRun
  | .start ownedUa outcome =>
      (none, { run with adapter := (run.adapter.start ownedUa outcome).2 })
  | .stop => (none, { run with adapter := run.adapter.stop })
  | .deliver delivery context =>
      (none, { run with adapter :=
        run.adapter.callback delivery.type delivery.event context delivery.uaIsregistered })
  | .drain uaIsregistered =>
      let (batch, mailbox) := run.adapter.mailbox.drain
      let projected := projectNativeSdkBatch run.projection batch
        (run.adapter.nativeRegisterOkSeen uaIsregistered)
      (some projected.1, { adapter := run.adapter.withMailbox mailbox, projection := projected.2 })
  | .otherAdapterClaims =>
      (none, if run.adapter.processOwner = .free then
        { run with adapter := { run.adapter with processOwner := .other } } else run)
  | .otherAdapterReleases =>
      (none, if run.adapter.processOwner = .other then
        { run with adapter := { run.adapter with processOwner := .free } } else run)

/-- The call that the adapter holds. -/
def BaresipSdkEventAdapter.callView (adapter : BaresipSdkEventAdapter) : CallView :=
  if adapter.activeCall = 0 then .idle
  else if adapter.callEstablished then .inCall adapter.activeToken
  else if adapter.activeIncoming then .ringing adapter.activeToken
  else .calling adapter.activeToken

def SdkSession.callView (session : SdkSession) : CallView :=
  match session.call with
  | none => .idle
  | some call =>
      if call.established then .inCall call.token
      else if call.incoming then .ringing call.token
      else .calling call.token

theorem BaresipSdkEventAdapter.Represents.callView {adapter : BaresipSdkEventAdapter}
    {session : SdkSession} (represents : adapter.Represents session) :
    adapter.callView = session.callView := by
  have call := represents.call
  unfold BaresipSdkEventAdapter.callView SdkSession.callView
  cases held : session.call with
  | none =>
      rw [held] at call
      rw [if_pos call.1]
  | some active =>
      rw [held] at call
      obtain ⟨pointer, nonzero, token, _, incoming, established, _⟩ := call
      rw [if_neg (pointer ▸ nonzero), token, incoming, established]

/-- An event that the session publishes moves the call as the reducer will. -/
theorem SdkSession.Published.callView {session next : SdkSession} {kind : BaresipEventKind}
    {token : UInt64} (published : session.Published kind token next) :
    next.callView = session.callView.after kind token := by
  cases published with
  | opened incoming pointer registered free room =>
      cases incoming <;> simp [SdkSession.callView, CallView.after]
  | established call held => simp [SdkSession.callView, CallView.after]
  | closed call held => simp [SdkSession.callView, CallView.after]
  | _ => rfl

/-- The call after the queued events. -/
def callAfter (view : CallView) (events : List BaresipNativeEvent) : CallView :=
  events.foldl (fun current event => current.after event.kind event.callId) view

theorem callAfter_concat (view : CallView) (events : List BaresipNativeEvent)
    (event : BaresipNativeEvent) :
    callAfter view (events ++ [event]) = (callAfter view events).after event.kind event.callId := by
  simp [callAfter]

theorem consume_callView {registerConfirmed : Bool} {session : UInt64}
    {state next : SipRuntimeObservation} {event : BaresipNativeEvent}
    (consumed : consume registerConfirmed session state event = some next) :
    next.callView = state.callView.after event.kind event.callId := by
  unfold consume at consumed
  split at consumed
  · next skip =>
      cases consumed
      have kind : event.kind = .registerOk := by
        simp only [skipped, Bool.and_eq_true, decide_eq_true_eq] at skip
        exact skip.1.1.2
      rw [kind]
      rfl
  · split at consumed
    · next stepped =>
        cases consumed
        exact (applyBaresipEvent_callView stepped).2
    · cases consumed

/-- A batch that is not rejected moves the projected call through its events. -/
theorem foldlM_consume_callView {registerConfirmed : Bool} {session : UInt64}
    {events : List BaresipNativeEvent} {state next : SipRuntimeObservation}
    (consumed : events.foldlM (consume registerConfirmed session) state = some next) :
    next.callView = callAfter state.callView events := by
  induction events generalizing state with
  | nil =>
      cases consumed
      rfl
  | cons event rest ih =>
      simp only [List.foldlM_cons, Option.bind_eq_bind, Option.bind_eq_some_iff] at consumed
      obtain ⟨middle, first, later⟩ := consumed
      rw [ih later, consume_callView first]
      rfl

theorem sessionState_spec {issued : UInt64} {whole : SipEventProjection}
    (tracked : Tracked issued whole) {session : UInt64} {state : SipRuntimeObservation}
    (known : sessionState whole.legacy session = some state) :
    state.VerifiedFor session ∧ state.Coherent := by
  unfold sessionState at known
  split at known
  · cases known
  split at known
  · next verified =>
      cases known
      exact ⟨verified, tracked.coherent⟩
  · cases known
    exact ⟨⟨rfl, rfl⟩, coherent_opened _ _⟩

/-- A session that was never issued before starts without a call. -/
theorem sessionState_fresh {issued : UInt64} {whole : SipEventProjection}
    (tracked : Tracked issued whole) {session : UInt64} (fresh : issued < session) :
    sessionState whole.legacy session =
      some (.opened .running .verifiedNativeApi session) := by
  have state := tracked.state_le
  have rejected := tracked.rejected_le
  unfold sessionState
  rw [if_neg (by grind), if_neg (fun verified => by have := verified.2; grind)]

/-- Between two steps: folding the queue into the projected call gives the adapter's call,
unless the projection holds the session as rejected. -/
structure Coupled (run : SdkRun) : Prop where
  sound : run.adapter.Sound
  tracked : Tracked run.adapter.mailbox.generation run.projection
  agree : run.adapter.active = true → ∀ state,
    sessionState run.projection.legacy run.adapter.captured.mailboxSession = some state →
      callAfter state.callView run.adapter.mailbox.queued = run.adapter.callView

theorem coupled_initial : Coupled {} :=
  ⟨BaresipSdkEventAdapter.sound_initial, tracked_initial _, nofun⟩

/-- Nothing has to agree once the adapter is not active. -/
theorem coupled_inactive {run : SdkRun} (sound : run.adapter.Sound)
    (tracked : Tracked run.adapter.mailbox.generation run.projection)
    (inactive : run.adapter.active = false) : Coupled run :=
  ⟨sound, tracked, fun active => by rw [inactive] at active; cases active⟩

theorem coupled_start {run : SdkRun} (coupled : Coupled run) (ownedUa : Address)
    (outcome : StartOutcome) : Coupled (sdkStep run (.start ownedUa outcome)).2 := by
  have started := BaresipSdkEventAdapter.start_started coupled.sound ownedUa outcome
  simp only [sdkStep]
  generalize run.adapter.start ownedUa outcome = result at started
  obtain ⟨accepted, after⟩ := result
  cases started with
  | refused => exact coupled
  | failed stopped sound advances =>
      exact coupled_inactive sound (coupled.tracked.mono advances.issued)
        (BaresipSdkEventAdapter.inactive_of_unregistered stopped)
  | begun represents sound newSession issued queued =>
      refine ⟨sound, coupled.tracked.mono (issued ▸ UInt64.le_of_lt newSession), fun _ state known => ?_⟩
      rw [sessionState_fresh coupled.tracked newSession] at known
      cases known
      simp only [queued, represents.callView]
      rfl

theorem coupled_stop {run : SdkRun} (coupled : Coupled run) : Coupled (sdkStep run .stop).2 := by
  obtain ⟨sound, inactive, advances⟩ := BaresipSdkEventAdapter.stop_sound coupled.sound
  exact coupled_inactive sound (coupled.tracked.mono advances.issued) inactive

namespace BaresipSdkEventAdapter

variable {adapter : BaresipSdkEventAdapter}

/-- The event that was published last, and the mailbox session, in the mailbox that follows. -/
theorem Represents.enqueued {session : SdkSession} (represents : adapter.Represents session)
    (room : adapter.mailbox.pending ≠ kCapacity) (kind : BaresipEventKind) (token : UInt64) :
    let event := BaresipCallbackLifecycle.eventOf adapter.captured kind token
    (adapter.mailbox.enqueue event).2.queued = adapter.mailbox.queued ++ [event] ∧
      (adapter.mailbox.enqueue event).2.session = adapter.captured.mailboxSession := by
  intro event
  have intact : adapter.mailbox.overflow = false := represents.opened.intact
  have current : adapter.mailbox.session = adapter.captured.mailboxSession := represents.opened.mailbox
  have nonzero := (BaresipCallbackLifecycle.held_nonzero represents.opened.held).2.1
  rcases adapter.mailbox.enqueue_cases event with
    same | ⟨_, _, refused, lost, _⟩ | ⟨_, _, _, _, _, session, _, queued⟩
  · exfalso
    have accepted : (adapter.mailbox.enqueue event).1 = true := by
      simp [BaresipEventMailbox.enqueue, event, BaresipCallbackLifecycle.eventOf, current, nonzero,
        intact, room]
    rw [same] at accepted
    cases accepted
  · exfalso
    have kept : (adapter.mailbox.enqueue event).2.overflow = false := by
      simp [BaresipEventMailbox.enqueue, event, BaresipCallbackLifecycle.eventOf, current, nonzero,
        intact, room]
    rw [lost] at kept
    cases kept
  · exact ⟨queued, session.trans current⟩

/-- Active adapters with the same mailbox session captured the same one. -/
theorem Represents.captured_eq {after : BaresipSdkEventAdapter} {session next : SdkSession}
    (represents : adapter.Represents session) (nextRepresents : after.Represents next)
    (same : after.mailbox.session = adapter.mailbox.session) :
    after.captured.mailboxSession = adapter.captured.mailboxSession := by
  have before : adapter.mailbox.session = adapter.captured.mailboxSession := represents.opened.mailbox
  have current : after.mailbox.session = after.captured.mailboxSession := nextRepresents.opened.mailbox
  rw [← before, ← current, same]

theorem inactive_of_uncaptured (uncaptured : adapter.captured = {}) : adapter.active = false := by
  simp [active, uncaptured, CapturedSession.held]

/-- What a callback leaves between two steps. -/
theorem Sound.callback (sound : adapter.Sound) (delivery : Delivery) (context : Option Nat) :
    (adapter.callback delivery.type delivery.event context delivery.uaIsregistered).Sound := by
  obtain ⟨inFlight, generation, contexts, mailbox⟩ :=
    callback_keeps adapter delivery.type delivery.event context delivery.uaIsregistered
  refine ⟨inFlight.trans sound.quiet, ?_, ?_, ?_⟩
  · rw [contexts, generation]
    exact sound.epochs
  · rw [BaresipSdkEventAdapter.mailbox, mailbox.1]
    rcases mailbox.2 with same | ended
    · exact same ▸ sound.issued
    · exact ended ▸ UInt64.zero_le
  · intro active
    by_cases before : adapter.active = true
    · obtain ⟨session, represents⟩ := sound.kept before
      rcases callback_follows represents delivery context with same | follows
      · exact ⟨session, same.symm ▸ represents⟩
      · generalize session.react adapter.owner delivery = reaction at follows
        cases reaction with
        | closes =>
            rw [inactive_of_uncaptured follows] at active
            cases active
        | stays => exact ⟨session, follows.1⟩
        | publishes kind token next =>
            simp only [Follows] at follows
            split at follows
            · rw [inactive_of_uncaptured follows] at active
              cases active
            · exact ⟨next, follows.1⟩
    · rw [callback_inactive (by simpa using before)] at active
      exact absurd active before

end BaresipSdkEventAdapter

theorem coupled_deliver {run : SdkRun} (coupled : Coupled run) (delivery : Delivery)
    (context : Option Nat) : Coupled (sdkStep run (.deliver delivery context)).2 := by
  obtain ⟨sound, tracked, agree⟩ := coupled
  have keeps := BaresipSdkEventAdapter.callback_keeps run.adapter delivery.type delivery.event context
    delivery.uaIsregistered
  have nextSound := sound.callback delivery context
  simp only [sdkStep]
  by_cases active : run.adapter.active = true
  rotate_left
  · rw [BaresipSdkEventAdapter.callback_inactive (by simpa using active)]
    exact ⟨sound, tracked, agree⟩
  obtain ⟨session, represents⟩ := sound.kept active
  have follows := BaresipSdkEventAdapter.callback_follows represents delivery context
  generalize run.adapter.callback delivery.type delivery.event context delivery.uaIsregistered =
    after at keeps nextSound follows
  have nextTracked : Tracked after.mailbox.generation run.projection := by
    rw [BaresipSdkEventAdapter.mailbox, keeps.mailbox.1]
    exact tracked
  rcases follows with rfl | follows
  · exact ⟨sound, tracked, agree⟩
  cases reacted : session.react run.adapter.owner delivery with
  | closes =>
      rw [reacted] at follows
      exact coupled_inactive nextSound nextTracked
        (BaresipSdkEventAdapter.inactive_of_uncaptured follows)
  | stays =>
      rw [reacted] at follows
      obtain ⟨nextRepresents, lifecycle⟩ := follows
      have mailbox : after.mailbox = run.adapter.mailbox := by
        rw [BaresipSdkEventAdapter.mailbox, lifecycle]
        rfl
      refine ⟨nextSound, nextTracked, fun _ state known => ?_⟩
      simp only [represents.captured_eq nextRepresents (congrArg BaresipEventMailbox.session mailbox)]
        at known
      rw [mailbox, agree active state known, represents.callView, nextRepresents.callView]
  | publishes kind token next =>
      rw [reacted] at follows
      simp only [BaresipSdkEventAdapter.Follows] at follows
      split at follows
      · exact coupled_inactive nextSound nextTracked
          (BaresipSdkEventAdapter.inactive_of_uncaptured follows)
      · next room =>
          obtain ⟨nextRepresents, _, mailbox⟩ := follows
          obtain ⟨queued, current⟩ := represents.enqueued room kind token
          refine ⟨nextSound, nextTracked, fun _ state known => ?_⟩
          have sameMailbox : after.mailbox.session = run.adapter.mailbox.session := by
            rw [mailbox, current]
            exact represents.opened.mailbox.symm
          simp only [represents.captured_eq nextRepresents sameMailbox] at known
          have before := agree active state known
          have moved := (SdkSession.react_published reacted).callView
          simp only [mailbox, queued, callAfter_concat, before, represents.callView,
            nextRepresents.callView, moved]
          rfl

namespace BaresipSdkEventAdapter

variable {adapter : BaresipSdkEventAdapter}

theorem Represents.drained {session : SdkSession} (represents : adapter.Represents session) :
    (adapter.withMailbox adapter.mailbox.drain.2).Represents session :=
  { represents with opened := { represents.opened with } }

theorem Sound.drained (sound : adapter.Sound) :
    (adapter.withMailbox adapter.mailbox.drain.2).Sound where
  quiet := sound.quiet
  epochs := sound.epochs
  issued := sound.issued
  kept active := (sound.kept active).imp fun _ represents => represents.drained

end BaresipSdkEventAdapter

/-- What a drain of an active adapter shows and leaves. -/
theorem drain_active {run : SdkRun} (coupled : Coupled run) {session : SdkSession}
    (represents : run.adapter.Represents session) (uaIsregistered : Bool) :
    let confirmed := run.adapter.nativeRegisterOkSeen uaIsregistered
    let number := run.adapter.captured.mailboxSession
    let checked := livenessCheck confirmed
      ((sessionState run.projection.legacy number).bind fun start =>
        run.adapter.mailbox.queued.foldlM (consume confirmed number) start)
    (sdkStep run (.drain uaIsregistered)).1 = some checked.2 ∧
      sessionState (sdkStep run (.drain uaIsregistered)).2.projection.legacy number = checked.1 := by
  have intact : run.adapter.mailbox.overflow = false := represents.opened.intact
  have current : run.adapter.mailbox.drain.1.session = run.adapter.captured.mailboxSession := by
    rw [BaresipEventMailbox.drain_session]
    exact represents.opened.mailbox
  have nonzero := (BaresipCallbackLifecycle.held_nonzero represents.opened.held).2.1
  obtain ⟨shown, _, state⟩ := projectNativeSdkBatch_intact run.projection
    run.adapter.mailbox.drain.1 coupled.tracked.legacyMode (current ▸ nonzero)
    (by simpa using intact) run.adapter.mailbox.drain_size_le
    (run.adapter.nativeRegisterOkSeen uaIsregistered)
  rw [current, BaresipEventMailbox.drain_delivered intact] at shown state
  exact ⟨congrArg some shown, state⟩

/-- A batch that is not rejected leaves the projection at the adapter's call. -/
theorem drain_passed {run : SdkRun} (coupled : Coupled run) {session : SdkSession}
    (represents : run.adapter.Represents session) {confirmed : Bool}
    {passed : SipRuntimeObservation}
    (consumed : ((sessionState run.projection.legacy run.adapter.captured.mailboxSession).bind
      fun start => run.adapter.mailbox.queued.foldlM
        (consume confirmed run.adapter.captured.mailboxSession) start) = some passed) :
    passed.callView = run.adapter.callView := by
  obtain ⟨start, known, folded⟩ := Option.bind_eq_some_iff.mp consumed
  rw [foldlM_consume_callView folded, coupled.agree represents.active start known]

theorem coupled_drain {run : SdkRun} (coupled : Coupled run) (uaIsregistered : Bool) :
    Coupled (sdkStep run (.drain uaIsregistered)).2 := by
  have issued : run.adapter.mailbox.drain.1.session ≤ run.adapter.mailbox.generation := by
    rw [BaresipEventMailbox.drain_session]
    exact coupled.sound.issued
  refine ⟨coupled.sound.drained, projectNativeSdkBatch_tracked coupled.tracked issued _, ?_⟩
  intro active state known
  obtain ⟨session, represents⟩ := coupled.sound.kept active
  obtain ⟨_, after⟩ := drain_active coupled represents uaIsregistered
  exact drain_passed coupled represents (livenessCheck_passed (after.symm.trans known)).1

/-- What the other adapters of the process do is nothing to this one. -/
theorem coupled_processOwner {run : SdkRun} (coupled : Coupled run) (owner : ProcessOwner) :
    Coupled { run with adapter := { run.adapter with processOwner := owner } } :=
  ⟨⟨coupled.sound.quiet, coupled.sound.epochs, coupled.sound.issued, fun active =>
      (coupled.sound.kept active).imp fun _ represents => { represents with }⟩,
    coupled.tracked, coupled.agree⟩

theorem coupled_step (run : SdkRun) (step : SdkStep) (coupled : Coupled run) :
    Coupled (sdkStep run step).2 := by
  cases step with
  | start ownedUa outcome => exact coupled_start coupled ownedUa outcome
  | stop => exact coupled_stop coupled
  | deliver delivery context => exact coupled_deliver coupled delivery context
  | drain uaIsregistered => exact coupled_drain coupled uaIsregistered
  | otherAdapterClaims =>
      simp only [sdkStep]
      split
      · exact coupled_processOwner coupled .other
      · exact coupled
  | otherAdapterReleases =>
      simp only [sdkStep]
      split
      · exact coupled_processOwner coupled .free
      · exact coupled

/-- The observation shows the session and the call of the adapter. -/
structure ShowsCall (observation : SipRuntimeObservation) (adapter : BaresipSdkEventAdapter) :
    Prop where
  session : observation.session = adapter.session
  callId : observation.callId = adapter.activeToken
  token : adapter.activeToken = 0 ↔ adapter.activeCall = 0
  inCall : observation.sip = .inCall ↔ adapter.activeCall ≠ 0 ∧ adapter.callEstablished = true
  ringing : observation.sip = .ringing ↔
    adapter.activeCall ≠ 0 ∧ adapter.callEstablished = false ∧ adapter.activeIncoming = true
  calling : observation.sip = .calling ↔
    adapter.activeCall ≠ 0 ∧ adapter.callEstablished = false ∧ adapter.activeIncoming = false
  noCall : adapter.activeCall = 0 ↔
    observation.sip = .unavailable ∨ observation.sip = .registering ∨
      observation.sip = .registered ∨ observation.sip = .failed ∨ observation.sip = .disconnected

theorem showsCall_of_callView {observation : SipRuntimeObservation}
    {adapter : BaresipSdkEventAdapter} {session : SdkSession}
    (represents : adapter.Represents session)
    (verified : observation.VerifiedFor adapter.captured.mailboxSession)
    (coherent : observation.Coherent) (same : observation.callView = adapter.callView) :
    ShowsCall observation adapter := by
  have token : adapter.activeToken = 0 ↔ adapter.activeCall = 0 := by
    have call := represents.call
    cases held : session.call with
    | none =>
        rw [held] at call
        simp [call.1, call.2.1]
    | some active =>
        rw [held] at call
        simp [call.1, call.2.1, call.2.2.1, call.2.2.2.1]
  have number : observation.session = adapter.session := by
    simp [BaresipSdkEventAdapter.session, represents.active, verified.2]
  unfold BaresipSdkEventAdapter.callView at same
  by_cases free : adapter.activeCall = 0
  · rw [if_pos free] at same
    have status := SipRuntimeObservation.callView_idle.mp same
    have call : observation.callId = adapter.activeToken := by
      rw [coherent.idle same, token.mpr free]
    refine ⟨number, call, token, ?_, ?_, ?_, by simp [free, status]⟩
    all_goals rcases status with sip | sip | sip | sip | sip <;> simp [free, sip]
  rw [if_neg free] at same
  split at same
  · next established =>
      obtain ⟨sip, call⟩ := SipRuntimeObservation.callView_inCall.mp same
      exact ⟨number, call, token, by simp [sip, free, established], by simp [sip, established],
        by simp [sip, established], by simp [sip, free]⟩
  next opening =>
  split at same
  · next incoming =>
      obtain ⟨sip, call⟩ := SipRuntimeObservation.callView_ringing.mp same
      exact ⟨number, call, token, by simp [sip, opening], by simp [sip, free, opening, incoming],
        by simp [sip, incoming], by simp [sip, free]⟩
  · next outgoing =>
      obtain ⟨sip, call⟩ := SipRuntimeObservation.callView_calling.mp same
      exact ⟨number, call, token, by simp [sip, opening], by simp [sip, outgoing],
        by simp [sip, free, opening, outgoing], by simp [sip, free]⟩

/-- What a drain shows, where the adapter is active and the evidence verified. -/
theorem drain_shows {run : SdkRun} (coupled : Coupled run) (uaIsregistered : Bool)
    {observation : SipRuntimeObservation}
    (shown : (sdkStep run (.drain uaIsregistered)).1 = some observation) :
    (sdkStep run (.drain uaIsregistered)).2.adapter.active = false ∨
      observation.evidence ≠ .verifiedNativeApi ∨
        ShowsCall observation (sdkStep run (.drain uaIsregistered)).2.adapter := by
  by_cases active : run.adapter.active = true
  · obtain ⟨session, represents⟩ := coupled.sound.kept active
    obtain ⟨output, after⟩ := drain_active coupled represents uaIsregistered
    have same := Option.some.inj (output.symm.trans shown)
    refine .inr ?_
    cases check : (livenessCheck (run.adapter.nativeRegisterOkSeen uaIsregistered)
        ((sessionState run.projection.legacy run.adapter.captured.mailboxSession).bind fun start =>
          run.adapter.mailbox.queued.foldlM
            (consume (run.adapter.nativeRegisterOkSeen uaIsregistered)
              run.adapter.captured.mailboxSession) start)).1 with
    | none =>
        refine .inl ?_
        rw [← same, livenessCheck_failed check]
        decide
    | some passed =>
        obtain ⟨consumed, returned⟩ := livenessCheck_passed check
        have spec := sessionState_spec (coupled_drain coupled uaIsregistered).tracked
          (after.trans check)
        rw [returned] at same
        subst same
        exact .inr (showsCall_of_callView represents.drained spec.1 spec.2
          (drain_passed coupled represents consumed))
  · have inactive : run.adapter.active = false := by simpa using active
    exact .inl inactive

/--
After every drain of every run the adapter is not active, or the observation carries
no verified evidence, or it shows the session and the call that the adapter holds.
-/
theorem adapter_agrees_with_projection (steps : List SdkStep) :
    ∀ stage ∈ stages sdkStep {} steps, ∀ observation, stage.output = some observation →
      stage.after.adapter.active = false ∨ observation.evidence ≠ .verifiedNativeApi ∨
        ShowsCall observation stage.after.adapter := by
  refine stages_forall coupled_step ?_ coupled_initial steps
  intro run step coupled observation shown
  cases step with
  | drain uaIsregistered => exact drain_shows coupled uaIsregistered shown
  | _ => cases shown

/-- A user agent registers and is called, before the first drain. -/
def incomingCall : List SdkStep :=
  let deliver (type : BeventEv) (call : Address) : SdkStep :=
    .deliver ⟨type, some ⟨5, call⟩, fun _ => true⟩ (some 0)
  [.start 5 ⟨true, true⟩, deliver .registering 0, deliver .registerOk 0, deliver .callIncoming 9]

theorem adapter_agrees_with_projection_incomingCall :
    let run := finalState sdkStep {} incomingCall
    let drained : Stage SdkRun SdkStep (Option SipRuntimeObservation) :=
      stageOf sdkStep run (.drain true)
    let shown : SipRuntimeObservation :=
      ⟨.running, .ringing, .verifiedNativeApi, 1, 1, 1⟩
    drained.output = some shown ∧ (drained.after.adapter.active = false ∨
      shown.evidence ≠ .verifiedNativeApi ∨ ShowsCall shown drained.after.adapter) := by
  have output : (stageOf sdkStep (finalState sdkStep {} incomingCall) (.drain true)).output =
      some ⟨.running, .ringing, .verifiedNativeApi, 1, 1, 1⟩ := by decide
  exact ⟨output, adapter_agrees_with_projection (incomingCall ++ [.drain true]) _
    (by rw [stages_append]; exact List.mem_append_right _ List.mem_cons_self) _ output⟩

end AxeVoice.Native
