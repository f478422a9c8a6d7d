import AxeVoice.Sip.LegacyProjection

/-!
# The call that an observation shows

An observation is coherent when its call number and its status agree.  The
reducer keeps it so, and moves the call that it shows by the kind and the call
number of the event alone.
-/

namespace AxeVoice.Sip

/-- The call as a user sees it. -/
inductive CallView where
  | idle
  | ringing (call : UInt64)
  | calling (call : UInt64)
  | inCall (call : UInt64)
  deriving DecidableEq, Repr

def SipRuntimeObservation.callView (observation : SipRuntimeObservation) : CallView :=
  match observation.sip with
  | .ringing => .ringing observation.callId
  | .calling => .calling observation.callId
  | .inCall => .inCall observation.callId
  | _ => .idle

theorem SipRuntimeObservation.callView_ringing {observation : SipRuntimeObservation} {call : UInt64} :
    observation.callView = .ringing call ↔ observation.sip = .ringing ∧ observation.callId = call := by
  unfold SipRuntimeObservation.callView
  cases observation.sip <;> simp

theorem SipRuntimeObservation.callView_calling {observation : SipRuntimeObservation} {call : UInt64} :
    observation.callView = .calling call ↔ observation.sip = .calling ∧ observation.callId = call := by
  unfold SipRuntimeObservation.callView
  cases observation.sip <;> simp

theorem SipRuntimeObservation.callView_inCall {observation : SipRuntimeObservation} {call : UInt64} :
    observation.callView = .inCall call ↔ observation.sip = .inCall ∧ observation.callId = call := by
  unfold SipRuntimeObservation.callView
  cases observation.sip <;> simp

theorem SipRuntimeObservation.callView_idle {observation : SipRuntimeObservation} :
    observation.callView = .idle ↔ observation.sip = .unavailable ∨ observation.sip = .registering ∨
      observation.sip = .registered ∨ observation.sip = .failed ∨
      observation.sip = .disconnected := by
  unfold SipRuntimeObservation.callView
  cases observation.sip <;> simp

/-- The call after an event of this kind about this call. -/
def CallView.after (view : CallView) (kind : BaresipEventKind) (call : UInt64) : CallView :=
  match kind with
  | .callIncoming => .ringing call
  | .callOutgoing => .calling call
  | .callEstablished => .inCall call
  | .callClosed | .transportLost => .idle
  | .registering | .registerOk | .registerFail | .unregistering => view

/-- The call number is there exactly while the status is one of a call. -/
structure SipRuntimeObservation.Coherent (observation : SipRuntimeObservation) : Prop where
  call : observation.callId ≠ 0 ↔
    observation.sip = .calling ∨ observation.sip = .ringing ∨ observation.sip = .inCall
  running : observation.evidence = .verifiedNativeApi → observation.process = .running

theorem coherent_dropped (process : RuntimeProcess) :
    (SipRuntimeObservation.dropped process).Coherent :=
  ⟨by simp [SipRuntimeObservation.dropped], nofun⟩

theorem coherent_opened (evidence : SipEvidence) (session : UInt64) :
    (SipRuntimeObservation.opened .running evidence session).Coherent :=
  ⟨by simp [SipRuntimeObservation.opened], fun _ => rfl⟩

/-- An idle observation shows no call number. -/
theorem SipRuntimeObservation.Coherent.idle {observation : SipRuntimeObservation}
    (coherent : observation.Coherent) (idle : observation.callView = .idle) :
    observation.callId = 0 := by
  by_contra shown
  have status := SipRuntimeObservation.callView_idle.mp idle
  rcases coherent.call.mp shown with sip | sip | sip <;> simp [sip] at status

theorem Switched.coherent {state : SipRuntimeObservation} {event : BaresipNativeEvent}
    {fields : CallFields} (switched : Switched state event fields) (coherent : state.Coherent) :
    ({ state with sip := fields.next, callId := fields.nextCallId, lastCallId := fields.lastCallId } :
      SipRuntimeObservation).Coherent := by
  obtain ⟨call, running⟩ := coherent
  refine ⟨?_, running⟩
  cases switched with
  | registering kind noCall idle => rcases idle with h | h | h | h <;> simp_all
  | registerOk kind noCall asked => simp_all
  | registerFail kind noCall asked => simp_all
  | unregistering kind noCall known => rcases known with h | h <;> simp_all
  | incoming kind registered token free fresh => simp [token]
  | outgoing kind registered token free fresh => simp [token]
  | established kind opening token same => simp [← same, token]
  | closed kind ongoing token same => simp
  | transportLost kind noCall => simp

theorem Switched.callView {state : SipRuntimeObservation} {event : BaresipNativeEvent}
    {fields : CallFields} (switched : Switched state event fields) :
    ({ state with sip := fields.next, callId := fields.nextCallId, lastCallId := fields.lastCallId } :
      SipRuntimeObservation).callView = state.callView.after event.kind event.callId := by
  cases switched with
  | registering kind noCall idle =>
      rcases idle with h | h | h | h <;> simp [SipRuntimeObservation.callView, CallView.after, kind, h]
  | registerOk kind noCall asked =>
      simp [SipRuntimeObservation.callView, CallView.after, kind, asked]
  | registerFail kind noCall asked =>
      simp [SipRuntimeObservation.callView, CallView.after, kind, asked]
  | unregistering kind noCall known =>
      rcases known with h | h <;> simp [SipRuntimeObservation.callView, CallView.after, kind, h]
  | established kind opening token same =>
      simp [SipRuntimeObservation.callView, CallView.after, kind, same]
  | incoming kind | outgoing kind | closed kind | transportLost kind =>
      simp [SipRuntimeObservation.callView, CallView.after, kind]

/-- What an applied event does to a coherent observation. -/
theorem applyBaresipEvent_callView {state next : SipRuntimeObservation} {session : UInt64}
    {event : BaresipNativeEvent}
    (applied : applyBaresipEvent state session event = (.applied, next)) :
    (state.Coherent → next.Coherent) ∧
      next.callView = state.callView.after event.kind event.callId := by
  obtain ⟨_, _, fields, accepted, rfl⟩ := applyBaresipEvent_applied applied
  have switched := nextCallFields_ok accepted
  exact ⟨switched.coherent, switched.callView⟩

theorem applyBaresipEvents_coherent {session : UInt64} {events : List BaresipNativeEvent}
    {state next : SipRuntimeObservation} (coherent : state.Coherent)
    (applied : applyBaresipEvents session state events = some next) : next.Coherent := by
  induction events generalizing state with
  | nil =>
      cases applied
      exact coherent
  | cons event rest ih =>
      simp only [applyBaresipEvents] at applied
      split at applied
      · next middle stepped => exact ih ((applyBaresipEvent_callView stepped).1 coherent) applied
      · cases applied

/-- The observation that the legacy projection holds stays coherent. -/
theorem LegacySipEventProjection.observe_coherent {projection : LegacySipEventProjection}
    (coherent : projection.state.Coherent) (process : RuntimeProcess) (evidence : SipEvidence)
    (batch : Batch) : (projection.observe process evidence batch).state.Coherent := by
  unfold LegacySipEventProjection.observe
  split
  · exact coherent_dropped process
  next running =>
  obtain rfl : process = .running := not_not.mp (not_or.mp running).1
  split
  · exact coherent_dropped _
  split
  · exact coherent_dropped _
  split
  · exact coherent_dropped _
  dsimp only
  split
  · next next folded =>
      refine applyBaresipEvents_coherent ?_ folded
      split
      · exact coherent_opened _ _
      · exact coherent
  · exact coherent_dropped _

end AxeVoice.Sip
