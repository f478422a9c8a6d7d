import AxeVoice.Foundation.Reactive
import AxeVoice.Sip.Projection

/-!
# The account-bound projection refines the legacy one

On batches whose events name one account, and the same call in both of their
call fields, the checks of the identity layer decide nothing that the reducer
does not decide: the two projections stay coupled and return equal observations.
-/

namespace AxeVoice.Sip

open AxeVoice.Foundation

/-- The arguments of one `observe` call. -/
structure ObserveCall where
  process : RuntimeProcess
  evidence : SipEvidence
  batch : Batch
  deriving DecidableEq

/-- The legacy projection as a reactive system; the output is the observation returned. -/
def legacyObserveStep (projection : LegacySipEventProjection) (call : ObserveCall) :
    SipRuntimeObservation × LegacySipEventProjection :=
  let next := projection.observe call.process call.evidence call.batch
  (next.snapshot, next)

/-- The account-token overload, always called with `token`. -/
def accountObserveStep (token : UInt64) (projection : SipEventProjection) (call : ObserveCall) :
    SipRuntimeObservation × SipEventProjection :=
  let next := projection.observeAccount call.process call.evidence call.batch token
  (next.snapshot, next)

/-- Every event delivered names `token` and the same call in both call fields. -/
def ObserveCall.NamesOneAccount (token : UInt64) (call : ObserveCall) : Prop :=
  ∀ event ∈ call.batch.delivered, event.callId = event.callToken ∧ event.accountToken = token

instance (token : UInt64) (call : ObserveCall) : Decidable (call.NamesOneAccount token) :=
  inferInstanceAs (Decidable (∀ event ∈ call.batch.delivered, _))

/-- The identity layer's copy of the call tokens agrees with the observation. -/
def BoundBaresipState.TokensAgree (bound : BoundBaresipState) : Prop :=
  bound.activeCallToken = bound.observation.callId ∧
    bound.lastCallToken = bound.observation.lastCallId

/-- An event that the reducer accepts passes the checks on its call token. -/
theorem callTokenRefusal_eq_none {bound : BoundBaresipState} {event : BaresipNativeEvent}
    {fields : CallFields} (agree : bound.TokensAgree) (sameCall : event.callId = event.callToken)
    (switched : Switched bound.observation event fields) : callTokenRefusal bound event = none := by
  obtain ⟨active, last⟩ := agree
  unfold callTokenRefusal
  cases switched with
  | incoming kind registered token free fresh =>
      simp [BaresipEventKind.opening, kind, ← sameCall, token, active, free, last, fresh]
  | outgoing kind registered token free fresh =>
      simp [BaresipEventKind.opening, kind, ← sameCall, token, active, free, last, fresh]
  | established kind opening token same =>
      rw [same] at token
      simp [BaresipEventKind.opening, BaresipEventKind.continuing, kind, ← sameCall, token,
        active, same]
  | closed kind ongoing token same =>
      rw [same] at token
      simp [BaresipEventKind.opening, BaresipEventKind.continuing, kind, ← sameCall, token,
        active, same]
  | _ =>
      simp_all [BaresipEventKind.opening, BaresipEventKind.continuing]

/-- The tokens kept after an accepted event agree with the new observation. -/
theorem boundAfter_tokensAgree {bound : BoundBaresipState} {event : BaresipNativeEvent}
    {fields : CallFields} (agree : bound.TokensAgree) (sameCall : event.callId = event.callToken)
    (switched : Switched bound.observation event fields) :
    (boundAfter bound event { bound.observation with
      sip := fields.next, callId := fields.nextCallId, lastCallId := fields.lastCallId }).TokensAgree := by
  obtain ⟨active, last⟩ := agree
  unfold boundAfter BoundBaresipState.TokensAgree
  cases switched <;> simp_all [BaresipEventKind.opening]

/-- On an event of the expected account the identity layer only mirrors the reducer. -/
theorem applyIdentifiedEvent_mirrors {bound : BoundBaresipState} (session : UInt64)
    {event : BaresipNativeEvent} (agree : bound.TokensAgree)
    (expected : bound.expectedAccountToken ≠ 0)
    (sameCall : event.callId = event.callToken)
    (sameAccount : event.accountToken = bound.expectedAccountToken) :
    (∃ fields, Switched bound.observation event fields ∧
      applyBaresipEvent bound.observation session event = (.applied, { bound.observation with
        sip := fields.next, callId := fields.nextCallId, lastCallId := fields.lastCallId }) ∧
      applyIdentifiedEvent bound session event = (.applied, boundAfter bound event
        { bound.observation with
          sip := fields.next, callId := fields.nextCallId, lastCallId := fields.lastCallId })) ∨
    ((applyBaresipEvent bound.observation session event).1 ≠ .applied ∧
      (applyIdentifiedEvent bound session event).1 ≠ .applied) := by
  have identified : { event with callId := event.callToken } = event := by
    cases event
    simp only [BaresipNativeEvent.mk.injEq, true_and, and_true]
    exact sameCall.symm
  rcases applyBaresipEvent_cases bound.observation session event with
    ⟨refusal, refused, eq⟩ | ⟨fresh, current, fields, accepted, eq⟩
  · have reducerRefused : (applyBaresipEvent bound.observation session event).1 ≠ .applied := by
      rw [eq]
      exact refused
    refine .inr ⟨reducerRefused, applyIdentifiedEvent_refused ?_⟩
    rw [identified]
    exact reducerRefused
  · have switched := nextCallFields_ok accepted
    have verified := (sipProofIsCurrent_iff _ _).mp current
    refine .inl ⟨fields, switched, eq, ?_⟩
    unfold applyIdentifiedEvent
    rw [if_neg (by simp [isStaleSession, fresh, verified.2.2.1, verified.2.2.2]),
      if_neg (by simp [current]), if_neg (by simp [expected, sameAccount]),
      callTokenRefusal_eq_none agree sameCall switched]
    simp only [identified, eq]

/-- The loops over a batch stop together, or end in agreeing states. -/
theorem applyIdentifiedEvents_mirrors (session : UInt64) {events : List BaresipNativeEvent}
    {bound : BoundBaresipState} (agree : bound.TokensAgree)
    (expected : bound.expectedAccountToken ≠ 0)
    (named : ∀ event ∈ events,
      event.callId = event.callToken ∧ event.accountToken = bound.expectedAccountToken) :
    (applyIdentifiedEvents session bound events).map BoundBaresipState.observation =
        applyBaresipEvents session bound.observation events ∧
      ∀ next, applyIdentifiedEvents session bound events = some next →
        next.TokensAgree ∧ next.expectedAccountToken = bound.expectedAccountToken := by
  induction events generalizing bound with
  | nil =>
      refine ⟨rfl, ?_⟩
      intro next same
      cases same
      exact ⟨agree, rfl⟩
  | cons event rest ih =>
      obtain ⟨sameCall, sameAccount⟩ := named event List.mem_cons_self
      rcases applyIdentifiedEvent_mirrors session agree expected sameCall sameAccount
        with ⟨fields, switched, reduced, mirrored⟩ | ⟨reducerRefused, identityRefused⟩
      · have stepped := boundAfter_tokensAgree agree sameCall switched
        have tail := ih stepped (by simpa using expected)
          (fun later member => by simpa using named later (List.mem_cons_of_mem _ member))
        simp only [applyIdentifiedEvents, mirrored, applyBaresipEvents, reduced]
        simpa using tail
      · have identityStops : applyIdentifiedEvents session bound (event :: rest) = none := by
          simp only [applyIdentifiedEvents]
          split
          · next applied => exact absurd (congrArg Prod.fst applied) identityRefused
          · rfl
        have reducerStops : applyBaresipEvents session bound.observation (event :: rest) = none := by
          simp only [applyBaresipEvents]
          split
          · next applied => exact absurd (congrArg Prod.fst applied) reducerRefused
          · rfl
        rw [identityStops, reducerStops]
        refine ⟨rfl, fun next impossible => ?_⟩
        cases impossible

/-- The two projections after the same calls. -/
structure Coupled (token : UInt64) (account : SipEventProjection)
    (legacy : LegacySipEventProjection) : Prop where
  observation : account.bound.observation = legacy.state
  rejected : account.rejectedSession = legacy.rejectedSession
  tokens : account.bound.TokensAgree
  expected : account.bound.observation.evidence = .verifiedNativeApi →
    account.bound.expectedAccountToken = token

theorem coupled_initial (token : UInt64) : Coupled token {} {} :=
  ⟨rfl, rfl, ⟨rfl, rfl⟩, nofun⟩

/-- Both projections dropped their proof and remember the same rejection. -/
theorem coupled_dropped {token : UInt64} {account : SipEventProjection}
    {legacy : LegacySipEventProjection} (process : RuntimeProcess)
    (bound : account.bound = SipEventProjection.droppedBound process)
    (state : legacy.state = .dropped process)
    (rejected : account.rejectedSession = legacy.rejectedSession) :
    Coupled token account legacy := by
  refine ⟨?_, rejected, ?_, ?_⟩
  · rw [bound, state]
    rfl
  · rw [bound]
    exact ⟨rfl, rfl⟩
  · rw [bound]
    exact nofun

/-- The two projections start a batch from equal observations and agreeing tokens. -/
theorem boundFor_coupled {token : UInt64} {account : SipEventProjection}
    {legacy : LegacySipEventProjection} (process : RuntimeProcess) (session : UInt64)
    (coupled : Coupled token account legacy) :
    let bound := account.boundFor process .verifiedNativeApi session token
    bound.observation = (if legacy.state.session ≠ session ∨
        legacy.state.evidence ≠ .verifiedNativeApi then
      .opened process .verifiedNativeApi session else legacy.state) ∧
      bound.TokensAgree ∧ bound.expectedAccountToken = token := by
  obtain ⟨observation, _, tokens, expected⟩ := coupled
  unfold SipEventProjection.boundFor
  rw [observation]
  by_cases fresh : legacy.state.session ≠ session ∨ legacy.state.evidence ≠ .verifiedNativeApi
  · rw [if_pos fresh, if_pos fresh]
    exact ⟨rfl, ⟨rfl, rfl⟩, rfl⟩
  · rw [if_neg fresh, if_neg fresh]
    simp only [not_or, not_not] at fresh
    exact ⟨observation, tokens, expected (observation ▸ fresh.2)⟩

theorem coupled_step {token : UInt64} (nonzero : token ≠ 0) {account : SipEventProjection}
    {legacy : LegacySipEventProjection} {call : ObserveCall}
    (coupled : Coupled token account legacy) (named : call.NamesOneAccount token) :
    Coupled token (accountObserveStep token account call).2 (legacyObserveStep legacy call).2 := by
  obtain ⟨process, evidence, batch⟩ := call
  have observation := coupled.observation
  have rejected := coupled.rejected
  simp only [accountObserveStep, legacyObserveStep]
  unfold SipEventProjection.observeAccount LegacySipEventProjection.observe
  dsimp only
  by_cases stopped : process ≠ .running ∨ batch.session = 0
  · simp only [if_pos stopped]
    exact coupled_dropped process rfl rfl (by simp only [observation, rejected])
  simp only [if_neg stopped, rejected]
  by_cases remembered : batch.session = legacy.rejectedSession
  · simp only [if_pos remembered]
    exact coupled_dropped process rfl rfl rfl
  simp only [if_neg remembered]
  by_cases lost : batch.overflow = true ∨ batch.size > kCapacity
  · simp only [if_pos lost]
    exact coupled_dropped process rfl rfl rfl
  simp only [if_neg lost]
  by_cases withdrawn : evidence ≠ .verifiedNativeApi
  · simp only [if_pos withdrawn, if_pos (Or.inl withdrawn)]
    exact coupled_dropped process rfl rfl (by simp only [observation])
  have withdrawn' : ¬ (evidence ≠ .verifiedNativeApi ∨ token = 0) := by
    simp [not_not.mp withdrawn, nonzero]
  simp only [if_neg withdrawn, if_neg withdrawn']
  obtain rfl := not_not.mp withdrawn
  obtain ⟨sameStart, agree, bound⟩ := boundFor_coupled process batch.session coupled
  have same : SipEventProjection.boundFor { account with
      identityMode := true, rejectedSession := legacy.rejectedSession } process .verifiedNativeApi
        batch.session token =
      account.boundFor process .verifiedNativeApi batch.session token := rfl
  rw [same, ← sameStart]
  generalize account.boundFor process .verifiedNativeApi batch.session token = start at agree bound
  rw [if_neg (not_not_intro bound)]
  obtain ⟨mirrored, agreeing⟩ := applyIdentifiedEvents_mirrors batch.session agree
    (bound ▸ nonzero) (bound.symm ▸ named)
  rw [← mirrored]
  cases folded : applyIdentifiedEvents batch.session start batch.delivered with
  | none => exact coupled_dropped process rfl rfl rfl
  | some next =>
      obtain ⟨tokens, expected⟩ := agreeing next folded
      exact ⟨rfl, rfl, tokens, fun _ => expected.trans bound⟩

/-- Coupled projections show the same observation. -/
theorem Coupled.sameOutput {token : UInt64} {account : SipEventProjection}
    {legacy : LegacySipEventProjection} {call : ObserveCall}
    (coupled : Coupled token (accountObserveStep token account call).2
      (legacyObserveStep legacy call).2) :
    (accountObserveStep token account call).1 = (legacyObserveStep legacy call).1 := by
  have observation := coupled.observation
  simp only [accountObserveStep, legacyObserveStep] at observation ⊢
  rw [SipEventProjection.snapshot, SipEventProjection.observeAccount_identityMode, if_pos rfl, observation]
  rfl

/--
The account-bound projection refines the legacy one: on any sequence of calls
whose events name one nonzero account, both return equal observations after
every batch.  In every state reached the two copies of the call tokens agree.
-/
theorem account_projection_refines_legacy {token : UInt64} (nonzero : token ≠ 0)
    {calls : List ObserveCall} (named : ∀ call ∈ calls, call.NamesOneAccount token) :
    outputs (accountObserveStep token) {} calls = outputs legacyObserveStep {} calls ∧
      ∀ stage ∈ stages (accountObserveStep token) {} calls,
        stage.after.bound.activeCallToken = stage.after.bound.observation.callId ∧
          stage.after.bound.lastCallToken = stage.after.bound.observation.lastCallId := by
  constructor
  · have lockstep : ∀ account legacy call, Coupled token account legacy →
        call.NamesOneAccount token →
        (accountObserveStep token account call).1 = (legacyObserveStep legacy call).1 ∧
          Coupled token (accountObserveStep token account call).2
            (legacyObserveStep legacy call).2 := by
      intro account legacy call coupled sameAccount
      have next := coupled_step nonzero coupled sameAccount
      exact ⟨next.sameOutput, next⟩
    exact (outputs_eq_of_lockstep lockstep (coupled_initial token) named).1
  · refine stages_forall_of_admitted (fun account => ∃ legacy, Coupled token account legacy)
      (fun stage => stage.input.NamesOneAccount token) _ ?_ ?_
      ⟨{}, coupled_initial token⟩ fun stage member => named _ (input_mem_of_mem_stages member)
    · rintro account call ⟨legacy, coupled⟩ sameAccount
      exact ⟨_, coupled_step nonzero coupled sameAccount⟩
    · rintro account call ⟨legacy, coupled⟩ sameAccount
      exact (coupled_step nonzero coupled sameAccount).tokens

/-- Two batches of one account: a call arrives and is answered, then the transport is lost. -/
def answeredThenLost : List ObserveCall :=
  let event (kind : BaresipEventKind) (call : UInt64) : BaresipNativeEvent :=
    { kind := kind, session := 1, callId := call, accountToken := 7, callToken := call }
  let batch (events : List BaresipNativeEvent) (fits : events.length ≤ kCapacity) : Batch :=
    { events := ⟨(events ++ List.replicate (kCapacity - events.length) default).toArray, by simp [fits]⟩
      size := events.length, session := 1 }
  [⟨.running, .verifiedNativeApi, batch [event .registering 0, event .registerOk 0,
      event .callIncoming 3, event .callEstablished 3] (by decide)⟩,
    ⟨.running, .verifiedNativeApi, batch [event .transportLost 0, event .callClosed 3] (by decide)⟩]

theorem account_projection_refines_legacy_answeredThenLost :
    outputs (accountObserveStep 7) {} answeredThenLost = outputs legacyObserveStep {} answeredThenLost ∧
      ∀ stage ∈ stages (accountObserveStep 7) {} answeredThenLost,
        stage.after.bound.activeCallToken = stage.after.bound.observation.callId ∧
          stage.after.bound.lastCallToken = stage.after.bound.observation.lastCallId :=
  account_projection_refines_legacy (by decide) (by decide)

end AxeVoice.Sip
