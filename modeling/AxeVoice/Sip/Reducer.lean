import AxeVoice.Sip.Observation

/-!
# The native event reducer

One native event applied to one observation.  The reducer refuses an event of
another session, an unproved observation, an event out of order and an event of
a call that is not the active one; a refused event leaves the observation as it
was.
-/

namespace AxeVoice.Sip

inductive BaresipEventKind where
  | registering
  | registerOk
  | registerFail
  | unregistering
  | callIncoming
  | callOutgoing
  | callEstablished
  | callClosed
  | transportLost
  deriving DecidableEq, Repr, Inhabited

structure BaresipNativeEvent where
  kind : BaresipEventKind
  session : UInt64
  callId : UInt64 := 0
  accountToken : UInt64 := 0
  callToken : UInt64 := 0
  deriving DecidableEq, Repr

instance : Inhabited BaresipNativeEvent := ⟨{ kind := .registering, session := 0 }⟩

inductive EventTransition where
  | applied
  | staleSession
  | unverifiedSource
  | invalidOrder
  | staleCall
  deriving DecidableEq, Repr

/-- The part of the observation that an applied event changes. -/
structure CallFields where
  next : SipStatus
  nextCallId : UInt64
  lastCallId : UInt64
  deriving DecidableEq, Repr

/-- The switch over the event kinds: the new fields, or the reason of the refusal. -/
def nextCallFields (state : SipRuntimeObservation) (event : BaresipNativeEvent) :
    Except EventTransition CallFields :=
  let current := state.sip
  let keep (next : SipStatus) : CallFields := ⟨next, state.callId, state.lastCallId⟩
  match event.kind with
  | .registering =>
      if event.callId ≠ 0 ∨ (current ≠ .unavailable ∧ current ≠ .disconnected ∧
          current ≠ .failed ∧ current ≠ .registered) then .error .invalidOrder
      else .ok (keep .registering)
  | .registerOk =>
      if event.callId ≠ 0 ∨ current ≠ .registering then .error .invalidOrder
      else .ok (keep .registered)
  | .registerFail =>
      if event.callId ≠ 0 ∨ current ≠ .registering then .error .invalidOrder
      else .ok (keep .failed)
  | .unregistering =>
      if event.callId ≠ 0 ∨ (current ≠ .registering ∧ current ≠ .registered) then
        .error .invalidOrder
      else .ok (keep .disconnected)
  | .callIncoming | .callOutgoing =>
      if current ≠ .registered then .error .invalidOrder
      else if event.callId = 0 ∨ state.callId ≠ 0 ∨ event.callId ≤ state.lastCallId then
        .error .staleCall
      else
        let next := if event.kind = .callIncoming then SipStatus.ringing else SipStatus.calling
        .ok ⟨next, event.callId, event.callId⟩
  | .callEstablished =>
      if current ≠ .calling ∧ current ≠ .ringing then .error .invalidOrder
      else if event.callId = 0 ∨ event.callId ≠ state.callId then .error .staleCall
      else .ok (keep .inCall)
  | .callClosed =>
      if current ≠ .calling ∧ current ≠ .ringing ∧ current ≠ .inCall then .error .invalidOrder
      else if event.callId = 0 ∨ event.callId ≠ state.callId then .error .staleCall
      else .ok ⟨.registered, 0, state.lastCallId⟩
  | .transportLost =>
      if event.callId ≠ 0 then .error .invalidOrder
      else .ok ⟨.disconnected, 0, state.lastCallId⟩

def applyBaresipEvent (state : SipRuntimeObservation) (activeSession : UInt64)
    (event : BaresipNativeEvent) : EventTransition × SipRuntimeObservation :=
  if isStaleSession event.session activeSession ∨ state.session ≠ activeSession then
    (.staleSession, state)
  else if ¬ sipProofIsCurrent state activeSession then (.unverifiedSource, state)
  else
    match nextCallFields state event with
    | .error refusal => (refusal, state)
    | .ok fields =>
        (.applied, { state with
          sip := fields.next, callId := fields.nextCallId, lastCallId := fields.lastCallId })

/-- The cases in which the switch accepts an event, with the fields that follow. -/
inductive Switched (state : SipRuntimeObservation) (event : BaresipNativeEvent) :
    CallFields → Prop where
  | registering (kind : event.kind = .registering) (noCall : event.callId = 0)
      (idle : state.sip = .unavailable ∨ state.sip = .disconnected ∨ state.sip = .failed ∨
        state.sip = .registered) :
      Switched state event ⟨.registering, state.callId, state.lastCallId⟩
  | registerOk (kind : event.kind = .registerOk) (noCall : event.callId = 0)
      (asked : state.sip = .registering) :
      Switched state event ⟨.registered, state.callId, state.lastCallId⟩
  | registerFail (kind : event.kind = .registerFail) (noCall : event.callId = 0)
      (asked : state.sip = .registering) :
      Switched state event ⟨.failed, state.callId, state.lastCallId⟩
  | unregistering (kind : event.kind = .unregistering) (noCall : event.callId = 0)
      (known : state.sip = .registering ∨ state.sip = .registered) :
      Switched state event ⟨.disconnected, state.callId, state.lastCallId⟩
  | incoming (kind : event.kind = .callIncoming) (registered : state.sip = .registered)
      (token : event.callId ≠ 0) (free : state.callId = 0) (fresh : state.lastCallId < event.callId) :
      Switched state event ⟨.ringing, event.callId, event.callId⟩
  | outgoing (kind : event.kind = .callOutgoing) (registered : state.sip = .registered)
      (token : event.callId ≠ 0) (free : state.callId = 0) (fresh : state.lastCallId < event.callId) :
      Switched state event ⟨.calling, event.callId, event.callId⟩
  | established (kind : event.kind = .callEstablished)
      (opening : state.sip = .calling ∨ state.sip = .ringing)
      (token : event.callId ≠ 0) (same : event.callId = state.callId) :
      Switched state event ⟨.inCall, state.callId, state.lastCallId⟩
  | closed (kind : event.kind = .callClosed)
      (ongoing : state.sip = .calling ∨ state.sip = .ringing ∨ state.sip = .inCall)
      (token : event.callId ≠ 0) (same : event.callId = state.callId) :
      Switched state event ⟨.registered, 0, state.lastCallId⟩
  | transportLost (kind : event.kind = .transportLost) (noCall : event.callId = 0) :
      Switched state event ⟨.disconnected, 0, state.lastCallId⟩

theorem nextCallFields_ok {state : SipRuntimeObservation} {event : BaresipNativeEvent}
    {fields : CallFields} (accepted : nextCallFields state event = .ok fields) :
    Switched state event fields := by
  unfold nextCallFields at accepted
  cases kind : event.kind with
  | registering =>
      simp only [kind] at accepted
      split at accepted
      · cases accepted
      next allowed =>
      cases accepted
      exact .registering kind (by grind) (by grind)
  | registerOk =>
      simp only [kind] at accepted
      split at accepted
      · cases accepted
      next allowed =>
      cases accepted
      exact .registerOk kind (by grind) (by grind)
  | registerFail =>
      simp only [kind] at accepted
      split at accepted
      · cases accepted
      next allowed =>
      cases accepted
      exact .registerFail kind (by grind) (by grind)
  | unregistering =>
      simp only [kind] at accepted
      split at accepted
      · cases accepted
      next allowed =>
      cases accepted
      exact .unregistering kind (by grind) (by grind)
  | callIncoming =>
      simp only [kind] at accepted
      split at accepted
      · cases accepted
      next registered =>
      split at accepted
      · cases accepted
      next allowed =>
      cases accepted
      exact .incoming kind (by grind) (by grind) (by grind) (by grind)
  | callOutgoing =>
      simp only [kind] at accepted
      split at accepted
      · cases accepted
      next registered =>
      split at accepted
      · cases accepted
      next allowed =>
      cases accepted
      exact .outgoing kind (by grind) (by grind) (by grind) (by grind)
  | callEstablished =>
      simp only [kind] at accepted
      split at accepted
      · cases accepted
      next opening =>
      split at accepted
      · cases accepted
      next allowed =>
      cases accepted
      exact .established kind (by grind) (by grind) (by grind)
  | callClosed =>
      simp only [kind] at accepted
      split at accepted
      · cases accepted
      next opening =>
      split at accepted
      · cases accepted
      next allowed =>
      cases accepted
      exact .closed kind (by grind) (by grind) (by grind)
  | transportLost =>
      simp only [kind] at accepted
      split at accepted
      · cases accepted
      next allowed =>
      cases accepted
      exact .transportLost kind (by grind)

theorem Switched.accepted {state : SipRuntimeObservation} {event : BaresipNativeEvent}
    {fields : CallFields} (switched : Switched state event fields) :
    nextCallFields state event = .ok fields := by
  unfold nextCallFields
  cases switched with
  | registering kind noCall idle => rcases idle with h | h | h | h <;> simp [kind, noCall, h]
  | registerOk kind noCall asked => simp [kind, noCall, asked]
  | registerFail kind noCall asked => simp [kind, noCall, asked]
  | unregistering kind noCall known => rcases known with h | h <;> simp [kind, noCall, h]
  | incoming kind registered token free fresh => simp [kind, registered, token, free, fresh]
  | outgoing kind registered token free fresh => simp [kind, registered, token, free, fresh]
  | established kind opening token same =>
      rw [same] at token
      rcases opening with h | h <;> simp [kind, h, same, token]
  | closed kind ongoing token same =>
      rw [same] at token
      rcases ongoing with h | h | h <;> simp [kind, h, same, token]
  | transportLost kind noCall => simp [kind, noCall]

theorem nextCallFields_error_ne_applied {state : SipRuntimeObservation}
    {event : BaresipNativeEvent} {refusal : EventTransition}
    (refused : nextCallFields state event = .error refusal) : refusal ≠ .applied := by
  intro impossible
  subst impossible
  unfold nextCallFields at refused
  cases kind : event.kind <;> simp only [kind] at refused <;>
    split at refused <;> first | cases refused | (split at refused <;> cases refused)

/--
Everything the reducer can do: refuse and leave the observation as it was, or
apply the fields which the switch returned for an event of the proved session.
-/
theorem applyBaresipEvent_cases (state : SipRuntimeObservation) (activeSession : UInt64)
    (event : BaresipNativeEvent) :
    (∃ refusal, refusal ≠ .applied ∧
      applyBaresipEvent state activeSession event = (refusal, state)) ∨
    (event.session = activeSession ∧ sipProofIsCurrent state activeSession = true ∧
      ∃ fields, nextCallFields state event = .ok fields ∧
        applyBaresipEvent state activeSession event = (.applied, { state with
          sip := fields.next, callId := fields.nextCallId, lastCallId := fields.lastCallId })) := by
  unfold applyBaresipEvent
  by_cases stale : isStaleSession event.session activeSession ∨ state.session ≠ activeSession
  · exact .inl ⟨.staleSession, by decide, by rw [if_pos stale]⟩
  rw [if_neg stale]
  by_cases current : sipProofIsCurrent state activeSession = true
  · rw [if_neg (not_not_intro current)]
    cases switched : nextCallFields state event with
    | error refusal =>
        exact .inl ⟨refusal, nextCallFields_error_ne_applied switched, rfl⟩
    | ok fields =>
        have fresh : event.session = activeSession := by
          simp only [isStaleSession, not_or, Bool.not_eq_true, Bool.or_eq_false_iff,
            decide_eq_false_iff_not, not_not] at stale
          exact stale.1.2
        exact .inr ⟨fresh, current, fields, rfl, rfl⟩
  · exact .inl ⟨.unverifiedSource, by decide, by rw [if_pos current]⟩

/-- A refused event changes nothing. -/
theorem applyBaresipEvent_refused {state : SipRuntimeObservation} {activeSession : UInt64}
    {event : BaresipNativeEvent}
    (refused : (applyBaresipEvent state activeSession event).1 ≠ .applied) :
    (applyBaresipEvent state activeSession event).2 = state := by
  rcases applyBaresipEvent_cases state activeSession event with
    ⟨refusal, _, eq⟩ | ⟨_, _, fields, _, eq⟩
  · rw [eq]
  · rw [eq] at refused
    exact absurd rfl refused

/-- What an applied event needs and all that it changes. -/
theorem applyBaresipEvent_applied {state next : SipRuntimeObservation}
    {activeSession : UInt64} {event : BaresipNativeEvent}
    (applied : applyBaresipEvent state activeSession event = (.applied, next)) :
    event.session = activeSession ∧ sipProofIsCurrent state activeSession = true ∧
      ∃ fields, nextCallFields state event = .ok fields ∧
        next = { state with
          sip := fields.next, callId := fields.nextCallId, lastCallId := fields.lastCallId } := by
  rcases applyBaresipEvent_cases state activeSession event with
    ⟨refusal, refused, eq⟩ | ⟨fresh, current, fields, switched, eq⟩
  · rw [eq] at applied
    exact absurd (congrArg Prod.fst applied) refused
  · rw [eq] at applied
    exact ⟨fresh, current, fields, switched, (congrArg Prod.snd applied).symm⟩

end AxeVoice.Sip
