import AxeVoice.Sip.CallView
import AxeVoice.Sip.ProjectionGate

/-!
# The projection of a native batch

The owner of the SDK projects one drained batch event by event.  It skips a
`REGISTER_OK` that arrives while the account is live, and it withdraws the proof
when the account looks live without a confirmed registration.
-/

namespace AxeVoice.Native

open AxeVoice.Sip

/-- The status of an account that is registered or in a call. -/
def live (status : SipStatus) : Bool :=
  status = .registered || status = .calling || status = .ringing || status = .inCall

/-- The batch of one event. -/
def oneEventBatch (empty : Batch) (event : BaresipNativeEvent) : Batch :=
  { empty with events := empty.events.set 0 event (by decide), size := 1 }

/-- A refresh of the registration, which does not enter the projection. -/
def skipped (registerConfirmed : Bool) (session : UInt64) (state : SipRuntimeObservation)
    (event : BaresipNativeEvent) : Bool :=
  registerConfirmed && live state.sip && sipProofIsCurrent state session &&
    event.kind = .registerOk && event.session = session && event.callId = 0

/-- The loop over the events of a batch. -/
def projectNativeSdkEvents (registerConfirmed : Bool) (empty : Batch) :
    SipEventProjection → List BaresipNativeEvent → SipEventProjection
  | projection, [] => projection
  | projection, event :: rest =>
      if skipped registerConfirmed empty.session projection.snapshot event then
        projectNativeSdkEvents registerConfirmed empty projection rest
      else
        projectNativeSdkEvents registerConfirmed empty
          (projection.observe .running .verifiedNativeApi (oneEventBatch empty event)) rest

def projectNativeSdkBatch (projection : SipEventProjection) (batch : Batch)
    (registerConfirmed : Bool) : SipRuntimeObservation × SipEventProjection :=
  let empty := { batch with size := 0 }
  let projection := projection.observe .running .verifiedNativeApi empty
  if batch.overflow ∨ batch.size > kCapacity then
    let projection := projection.observe .running .verifiedNativeApi batch
    (projection.snapshot, projection)
  else
    let projection := projectNativeSdkEvents registerConfirmed empty projection batch.delivered
    if live projection.snapshot.sip ∧ ¬ registerConfirmed then
      let projection := projection.observe .failed .none {}
      (projection.snapshot, projection)
    else (projection.snapshot, projection)

/-- The observation with which the projection meets a verified batch of this session, or
`none` when it holds the session as rejected. -/
def sessionState (projection : LegacySipEventProjection) (session : UInt64) :
    Option SipRuntimeObservation :=
  if projection.rejectedSession = session then none
  else if projection.state.VerifiedFor session then some projection.state
  else some (.opened .running .verifiedNativeApi session)

/-- What one event makes of the observation of a session; `none` is a rejection. -/
def consume (registerConfirmed : Bool) (session : UInt64) (state : SipRuntimeObservation)
    (event : BaresipNativeEvent) : Option SipRuntimeObservation :=
  if skipped registerConfirmed session state event then some state
  else
    match applyBaresipEvent state session event with
    | (.applied, next) => some next
    | _ => none

/-- The projection has processed a verified batch of this session with this result. -/
inductive Settled (session : UInt64) (projection : LegacySipEventProjection) :
    Option SipRuntimeObservation → Prop where
  | rejected (remembered : projection.rejectedSession = session)
      (dropped : projection.state = .dropped .running) : Settled session projection none
  | trusted (unrejected : projection.rejectedSession ≠ session)
      (verified : projection.state.VerifiedFor session) :
      Settled session projection (some projection.state)

variable {session : UInt64} {projection : LegacySipEventProjection}
  {state : Option SipRuntimeObservation}

theorem Settled.sessionState (settled : Settled session projection state) :
    sessionState projection session = state := by
  unfold Native.sessionState
  cases settled with
  | rejected remembered dropped => rw [if_pos remembered]
  | trusted unrejected verified => rw [if_neg unrejected, if_pos verified]

/-- A whole verified batch, seen from the session. -/
theorem observe_settles (projection : LegacySipEventProjection) (nonzero : session ≠ 0)
    (batch : Batch) (same : batch.session = session)
    (intact : batch.overflow = false) (fits : batch.size ≤ kCapacity) :
    Settled session (projection.observe .running .verifiedNativeApi batch)
      ((sessionState projection session).bind
        fun start => applyBaresipEvents session start batch.delivered) := by
  subst same
  unfold LegacySipEventProjection.observe sessionState
  rw [if_neg (by simp [nonzero])]
  by_cases remembered : projection.rejectedSession = batch.session
  · rw [if_pos remembered.symm, if_pos remembered]
    exact .rejected remembered rfl
  rw [if_neg (Ne.symm remembered), if_neg remembered, if_neg (by simpa [intact] using fits),
    if_neg (by simp)]
  have started : (if projection.state.session ≠ batch.session ∨
        projection.state.evidence ≠ .verifiedNativeApi then
      SipRuntimeObservation.opened .running .verifiedNativeApi batch.session
      else projection.state) =
      if projection.state.VerifiedFor batch.session then projection.state
      else .opened .running .verifiedNativeApi batch.session := by
    by_cases known : projection.state.VerifiedFor batch.session
    · rw [if_pos known, if_neg (by simp [known.1, known.2])]
    · rw [if_neg known, if_pos (by rw [or_comm]; exact not_and_or.mp known)]
  rw [← apply_ite some]
  simp only [started, Option.bind_some]
  generalize begun : (if projection.state.VerifiedFor batch.session then projection.state
      else SipRuntimeObservation.opened .running .verifiedNativeApi batch.session) = start
  have verified : start.VerifiedFor batch.session := by
    rw [← begun]
    split
    · next known => exact known
    · exact ⟨rfl, rfl⟩
  cases folded : applyBaresipEvents batch.session start batch.delivered with
  | none => exact .rejected rfl rfl
  | some next =>
      obtain ⟨evidence, session, _⟩ := applyBaresipEvents_keeps folded
      have kept : next.VerifiedFor batch.session :=
        ⟨evidence.trans verified.1, session.trans verified.2⟩
      exact Settled.trusted (by exact remembered) kept

/-- A session that is already settled takes a batch of one event. -/
theorem Settled.observe_one (settled : Settled session projection state) (nonzero : session ≠ 0)
    {empty : Batch} (same : empty.session = session) (intact : empty.overflow = false)
    (event : BaresipNativeEvent) :
    Settled session (projection.observe .running .verifiedNativeApi (oneEventBatch empty event))
      (state.bind fun start => applyBaresipEvents session start [event]) := by
  have one : (oneEventBatch empty event).delivered = [event] := by
    obtain ⟨events, size, session, overflow⟩ := empty
    obtain ⟨⟨entries⟩, length⟩ := events
    cases entries with
    | nil => cases length
    | cons first rest => rfl
  have observed := observe_settles projection nonzero (oneEventBatch empty event) same intact
    (by simp [oneEventBatch, kCapacity])
  rwa [settled.sessionState, one] at observed

theorem consume_eq (registerConfirmed : Bool) (start : SipRuntimeObservation)
    (event : BaresipNativeEvent) :
    consume registerConfirmed session start event =
      if skipped registerConfirmed session start event then some start
      else applyBaresipEvents session start [event] := by
  unfold consume
  cases stepped : applyBaresipEvent start session event with
  | mk transition next => cases transition <;> simp [applyBaresipEvents, stepped]

/-- The loop folds the events of the batch into the observation of the session. -/
theorem projectNativeSdkEvents_settles (nonzero : session ≠ 0) (registerConfirmed : Bool)
    (empty : Batch) (same : empty.session = session) (intact : empty.overflow = false)
    (whole : SipEventProjection) (legacyMode : whole.identityMode = false)
    (settled : Settled session whole.legacy state) (events : List BaresipNativeEvent) :
    let after := projectNativeSdkEvents registerConfirmed empty whole events
    after.identityMode = false ∧ Settled session after.legacy
      (state.bind fun start => events.foldlM (consume registerConfirmed session) start) := by
  induction events generalizing whole state with
  | nil => cases state <;> exact ⟨legacyMode, settled⟩
  | cons event rest ih =>
      have shown : whole.snapshot = whole.legacy.state := by
        simp [SipEventProjection.snapshot, legacyMode, LegacySipEventProjection.snapshot]
      let one := whole.legacy.observe .running .verifiedNativeApi (oneEventBatch empty event)
      have observed : whole.observe .running .verifiedNativeApi (oneEventBatch empty event) =
          { whole with legacy := one } := by
        simp [SipEventProjection.observe, legacyMode, one]
      simp only [projectNativeSdkEvents, shown, same]
      have stepped : (state.bind fun start =>
            (event :: rest).foldlM (consume registerConfirmed session) start) =
          (state.bind fun start => consume registerConfirmed session start event).bind
            fun start => rest.foldlM (consume registerConfirmed session) start := by
        cases state <;> rfl
      rw [stepped]
      split
      · next skip =>
          have kept : (state.bind fun start => consume registerConfirmed session start event) =
              state := by
            cases settled with
            | rejected => rfl
            | trusted => simp [consume_eq, skip]
          rw [kept]
          exact ih whole legacyMode settled
      · next keep =>
          have taken : (state.bind fun start => consume registerConfirmed session start event) =
              state.bind fun start => applyBaresipEvents session start [event] := by
            cases settled with
            | rejected => rfl
            | trusted => simp [consume_eq, keep]
          rw [taken, observed]
          exact ih { whole with legacy := one } legacyMode
            (settled.observe_one nonzero same intact event)

/-- What the liveness check at the end of a batch leaves: the observation of the session,
and the one that is returned. -/
def livenessCheck (registerConfirmed : Bool) :
    Option SipRuntimeObservation → Option SipRuntimeObservation × SipRuntimeObservation
  | none => (none, .dropped .running)
  | some state =>
      if live state.sip ∧ ¬ registerConfirmed then (none, .dropped .failed) else (some state, state)

/-- A check that is passed returns the observation of the session. -/
theorem livenessCheck_passed {registerConfirmed : Bool} {result : Option SipRuntimeObservation}
    {passed : SipRuntimeObservation}
    (check : (livenessCheck registerConfirmed result).1 = some passed) :
    result = some passed ∧ (livenessCheck registerConfirmed result).2 = passed := by
  cases result with
  | none => cases check
  | some state =>
      simp only [livenessCheck] at check ⊢
      split at check
      · cases check
      · next kept =>
          cases check
          rw [if_neg kept]
          exact ⟨rfl, rfl⟩

/-- A check that is not passed returns no evidence. -/
theorem livenessCheck_failed {registerConfirmed : Bool} {result : Option SipRuntimeObservation}
    (check : (livenessCheck registerConfirmed result).1 = none) :
    (livenessCheck registerConfirmed result).2.evidence = .none := by
  cases result with
  | none => rfl
  | some state =>
      simp only [livenessCheck] at check ⊢
      split at check
      · next revoked =>
          rw [if_pos revoked]
          rfl
      · cases check

/-- One drained batch of an intact session. -/
theorem projectNativeSdkBatch_intact (whole : SipEventProjection) (batch : Batch)
    (legacyMode : whole.identityMode = false) (nonzero : batch.session ≠ 0)
    (intact : batch.overflow = false) (fits : batch.size ≤ kCapacity) (registerConfirmed : Bool) :
    let checked := livenessCheck registerConfirmed
      ((sessionState whole.legacy batch.session).bind fun start =>
        batch.delivered.foldlM (consume registerConfirmed batch.session) start)
    let projected := projectNativeSdkBatch whole batch registerConfirmed
    projected.1 = checked.2 ∧ projected.2.identityMode = false ∧
      sessionState projected.2.legacy batch.session = checked.1 := by
  let empty := { batch with size := 0 }
  let opened := whole.legacy.observe .running .verifiedNativeApi empty
  have observed : whole.observe .running .verifiedNativeApi empty = { whole with legacy := opened } := by
    simp [SipEventProjection.observe, legacyMode, opened]
  have started : Settled batch.session opened (sessionState whole.legacy batch.session) := by
    have settled := observe_settles whole.legacy nonzero empty rfl intact (Nat.zero_le _)
    cases begun : sessionState whole.legacy batch.session <;> rw [begun] at settled <;> exact settled
  obtain ⟨mode, settled⟩ := projectNativeSdkEvents_settles nonzero registerConfirmed
    empty rfl intact { whole with legacy := opened } legacyMode started batch.delivered
  unfold projectNativeSdkBatch
  dsimp only
  rw [observed, if_neg (by simpa [intact] using fits)]
  generalize ((sessionState whole.legacy batch.session).bind fun start =>
    batch.delivered.foldlM (consume registerConfirmed batch.session) start) = result at settled ⊢
  generalize projectNativeSdkEvents registerConfirmed empty { whole with legacy := opened }
    batch.delivered = after at mode settled ⊢
  have shown : after.snapshot = after.legacy.state := by
    simp [SipEventProjection.snapshot, mode, LegacySipEventProjection.snapshot]
  rw [shown]
  have remembered := settled.sessionState
  cases settled with
  | rejected same dropped =>
      rw [if_neg (by simp [dropped, live, SipRuntimeObservation.dropped])]
      exact ⟨dropped, mode, remembered⟩
  | trusted unrejected verified =>
      by_cases revoked : live after.legacy.state.sip = true ∧ ¬ registerConfirmed = true
      · have withdrawn : after.observe .failed .none {} = { after with
            legacy := { state := .dropped .failed, rejectedSession := batch.session } } := by
          simp [SipEventProjection.observe, mode, LegacySipEventProjection.observe, verified.2, nonzero]
        simp only [livenessCheck, if_pos revoked, withdrawn]
        exact ⟨by simp [SipEventProjection.snapshot, mode, LegacySipEventProjection.snapshot], mode,
          by simp [sessionState]⟩
      · simp only [livenessCheck, if_neg revoked]
        exact ⟨trivial, mode, remembered⟩

/-- The projection of a native run: never account-bound, coherent, and without a number that
the mailbox did not issue. -/
structure Tracked (issued : UInt64) (whole : SipEventProjection) : Prop where
  legacyMode : whole.identityMode = false
  consistent : whole.legacy.Consistent
  coherent : whole.legacy.state.Coherent
  state_le : whole.legacy.state.session ≤ issued
  rejected_le : whole.legacy.rejectedSession ≤ issued

theorem tracked_initial (issued : UInt64) : Tracked issued {} :=
  ⟨rfl, by simp [LegacySipEventProjection.Consistent], coherent_dropped .stopped, UInt64.zero_le,
    UInt64.zero_le⟩

theorem Tracked.mono {issued later : UInt64} {whole : SipEventProjection}
    (tracked : Tracked issued whole) (grows : issued ≤ later) : Tracked later whole :=
  { tracked with
    state_le := UInt64.le_trans tracked.state_le grows
    rejected_le := UInt64.le_trans tracked.rejected_le grows }

theorem Tracked.observe {issued : UInt64} {whole : SipEventProjection}
    (tracked : Tracked issued whole) (process : RuntimeProcess) (evidence : SipEvidence)
    (batch : Batch) (known : batch.session ≤ issued) :
    Tracked issued (whole.observe process evidence batch) := by
  obtain ⟨legacyMode, consistent, coherent, state_le, rejected_le⟩ := tracked
  obtain ⟨consistent, call⟩ :=
    LegacySipEventProjection.observe_call consistent process evidence batch
  have coherent := LegacySipEventProjection.observe_coherent coherent process evidence batch
  have bounded : (whole.legacy.observe process evidence batch).gate.trusted ≤ issued ∧
      (whole.legacy.observe process evidence batch).gate.rejected ≤ issued := by
    generalize (whole.legacy.observe process evidence batch).gate = next at call
    cases call with
    | idle => exact ⟨UInt64.zero_le, rejected_le⟩
    | stopped => exact ⟨UInt64.zero_le, state_le⟩
    | remembered => exact ⟨UInt64.zero_le, rejected_le⟩
    | turnedAway => exact ⟨UInt64.zero_le, known⟩
    | accepted => exact ⟨known, rejected_le⟩
  have observed : whole.observe process evidence batch =
      { whole with legacy := whole.legacy.observe process evidence batch } := by
    simp [SipEventProjection.observe, legacyMode]
  rw [observed]
  exact ⟨legacyMode, consistent, coherent, bounded.1, bounded.2⟩

theorem projectNativeSdkEvents_tracked {issued : UInt64} {whole : SipEventProjection}
    (tracked : Tracked issued whole) (registerConfirmed : Bool) (empty : Batch)
    (known : empty.session ≤ issued) (events : List BaresipNativeEvent) :
    Tracked issued (projectNativeSdkEvents registerConfirmed empty whole events) := by
  induction events generalizing whole with
  | nil => exact tracked
  | cons event rest ih =>
      simp only [projectNativeSdkEvents]
      split
      · exact ih tracked
      · exact ih (tracked.observe _ _ (oneEventBatch empty event) known)

theorem projectNativeSdkBatch_tracked {issued : UInt64} {whole : SipEventProjection}
    (tracked : Tracked issued whole) {batch : Batch} (known : batch.session ≤ issued)
    (registerConfirmed : Bool) :
    Tracked issued (projectNativeSdkBatch whole batch registerConfirmed).2 := by
  have opened := tracked.observe .running .verifiedNativeApi
    { batch with size := 0 } known
  unfold projectNativeSdkBatch
  dsimp only
  split
  · exact opened.observe _ _ batch known
  have projected := projectNativeSdkEvents_tracked opened registerConfirmed
    { batch with size := 0 } known batch.delivered
  split
  · exact projected.observe _ _ {} UInt64.zero_le
  · exact projected

end AxeVoice.Native
