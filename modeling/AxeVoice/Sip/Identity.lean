import AxeVoice.Sip.LegacyProjection

/-!
# Account-bound events

The identity layer in front of the reducer: one selected account and one active
call, each known by an opaque token.
-/

namespace AxeVoice.Sip

structure BoundBaresipState where
  observation : SipRuntimeObservation := {}
  expectedAccountToken : UInt64 := 0
  activeCallToken : UInt64 := 0
  lastCallToken : UInt64 := 0
  deriving DecidableEq

inductive IdentityResult where
  | applied
  | staleSession
  | unverifiedSource
  | wrongAccount
  | missingCall
  | concurrentCall
  | wrongCall
  | replayedCall
  | unexpectedCall
  | invalidOrder
  deriving DecidableEq, Repr

def BaresipEventKind.opening (kind : BaresipEventKind) : Bool :=
  kind = .callIncoming || kind = .callOutgoing

def BaresipEventKind.continuing (kind : BaresipEventKind) : Bool :=
  kind = .callEstablished || kind = .callClosed

/-- The checks on the call token, before the reducer sees the event. -/
def callTokenRefusal (bound : BoundBaresipState) (event : BaresipNativeEvent) :
    Option IdentityResult :=
  if event.kind.opening then
    if event.callToken = 0 then some .missingCall
    else if bound.activeCallToken ≠ 0 then some .concurrentCall
    else if event.callToken ≤ bound.lastCallToken then some .replayedCall
    else none
  else if event.kind.continuing then
    if event.callToken = 0 then some .missingCall
    else if event.callToken ≠ bound.activeCallToken then some .wrongCall
    else none
  else if event.callToken ≠ 0 then some .unexpectedCall
  else none

/-- The tokens after an applied event. -/
def boundAfter (bound : BoundBaresipState) (event : BaresipNativeEvent)
    (observation : SipRuntimeObservation) : BoundBaresipState :=
  if event.kind.opening then
    { bound with
      observation := observation
      activeCallToken := event.callToken, lastCallToken := event.callToken }
  else if event.kind = .callClosed ∨ event.kind = .transportLost then
    { bound with observation := observation, activeCallToken := 0 }
  else { bound with observation := observation }

def applyIdentifiedEvent (bound : BoundBaresipState) (activeSession : UInt64)
    (event : BaresipNativeEvent) : IdentityResult × BoundBaresipState :=
  if isStaleSession event.session activeSession ∨ bound.observation.session ≠ activeSession then
    (.staleSession, bound)
  else if ¬ sipProofIsCurrent bound.observation activeSession then (.unverifiedSource, bound)
  else if bound.expectedAccountToken = 0 ∨ event.accountToken ≠ bound.expectedAccountToken then
    (.wrongAccount, bound)
  else
    match callTokenRefusal bound event with
    | some refusal => (refusal, bound)
    | none =>
        let identified := { event with callId := event.callToken }
        match applyBaresipEvent bound.observation activeSession identified with
        | (.applied, observation) => (.applied, boundAfter bound event observation)
        | _ => (.invalidOrder, bound)

@[simp] theorem boundAfter_observation (bound : BoundBaresipState) (event : BaresipNativeEvent)
    (observation : SipRuntimeObservation) :
    (boundAfter bound event observation).observation = observation := by
  unfold boundAfter
  split
  · rfl
  · split <;> rfl

@[simp] theorem boundAfter_expectedAccountToken (bound : BoundBaresipState)
    (event : BaresipNativeEvent) (observation : SipRuntimeObservation) :
    (boundAfter bound event observation).expectedAccountToken = bound.expectedAccountToken := by
  unfold boundAfter
  split
  · rfl
  · split <;> rfl

theorem callTokenRefusal_ne_applied {bound : BoundBaresipState} {event : BaresipNativeEvent}
    {refusal : IdentityResult} (refused : callTokenRefusal bound event = some refusal) :
    refusal ≠ .applied := by
  intro impossible
  subst impossible
  unfold callTokenRefusal at refused
  grind

/-- The reducer's refusal of the identified event is the identity layer's refusal. -/
theorem applyIdentifiedEvent_refused {bound : BoundBaresipState} {activeSession : UInt64}
    {event : BaresipNativeEvent}
    (refused : (applyBaresipEvent bound.observation activeSession
      { event with callId := event.callToken }).1 ≠ .applied) :
    (applyIdentifiedEvent bound activeSession event).1 ≠ .applied := by
  unfold applyIdentifiedEvent
  split
  · simp
  split
  · simp
  split
  · simp
  split
  · next tokenRefused => exact callTokenRefusal_ne_applied tokenRefused
  · dsimp only
    split
    · next applied => exact absurd (congrArg Prod.fst applied) refused
    · simp

/-- What an applied event of the account does: the reducer's step and the new tokens. -/
theorem applyIdentifiedEvent_applied {bound next : BoundBaresipState} {activeSession : UInt64}
    {event : BaresipNativeEvent}
    (applied : applyIdentifiedEvent bound activeSession event = (.applied, next)) :
    ∃ observation, applyBaresipEvent bound.observation activeSession
        { event with callId := event.callToken } = (.applied, observation) ∧
      next = boundAfter bound event observation := by
  unfold applyIdentifiedEvent at applied
  split at applied
  · cases applied
  split at applied
  · cases applied
  split at applied
  · cases applied
  split at applied
  · next tokenRefused =>
      exact absurd (congrArg Prod.fst applied) (callTokenRefusal_ne_applied tokenRefused)
  · dsimp only at applied
    split at applied
    · next observation reduced => exact ⟨observation, reduced, (congrArg Prod.snd applied).symm⟩
    · cases applied

end AxeVoice.Sip
