import AxeVoice.Foundation.RevocationGate
import AxeVoice.Sip.Projection

/-!
# The gates of the projections

Each of the two sub-projections is a revocation gate over the mailbox
generations: it trusts the session of its observation and remembers the last
session that it rejected.
-/

namespace AxeVoice.Sip

open AxeVoice.Foundation

namespace LegacySipEventProjection

/-- The generation trusted and the one remembered as rejected. -/
def gate (projection : LegacySipEventProjection) : Gate UInt64 :=
  ⟨projection.state.session, projection.rejectedSession⟩

/-- A session number is shown exactly together with verified evidence. -/
def Consistent (projection : LegacySipEventProjection) : Prop :=
  projection.state.evidence = .verifiedNativeApi ↔ projection.state.session ≠ 0

end LegacySipEventProjection

theorem applyBaresipEvents_keeps {session : UInt64} {events : List BaresipNativeEvent}
    {state next : SipRuntimeObservation}
    (applied : applyBaresipEvents session state events = some next) :
    next.evidence = state.evidence ∧ next.session = state.session ∧
      next.process = state.process := by
  induction events generalizing state with
  | nil =>
      cases applied
      exact ⟨rfl, rfl, rfl⟩
  | cons event rest ih =>
      simp only [applyBaresipEvents] at applied
      split at applied
      · next middle stepped =>
          obtain ⟨_, _, fields, _, same⟩ := applyBaresipEvent_applied stepped
          have tail := ih applied
          rw [same] at tail
          exact tail
      · cases applied

/-- One call of the legacy projection is one call of its gate. -/
theorem LegacySipEventProjection.observe_call {projection : LegacySipEventProjection}
    (consistent : projection.Consistent) (process : RuntimeProcess) (evidence : SipEvidence)
    (batch : Batch) :
    (projection.observe process evidence batch).Consistent ∧
      Gate.Call batch.session (batch.overflow = false) projection.gate
        (projection.observe process evidence batch).gate := by
  unfold LegacySipEventProjection.observe
  by_cases stopped : process ≠ .running ∨ batch.session = 0
  · rw [if_pos stopped]
    refine ⟨by simp [Consistent], ?_⟩
    by_cases trusted : projection.state.session = 0
    · have call : Gate.Call batch.session (batch.overflow = false) projection.gate _ := .idle trusted
      simpa [gate, trusted] using call
    · have call : Gate.Call batch.session (batch.overflow = false) projection.gate _ := .stopped trusted
      simpa [gate, trusted] using call
  rw [if_neg stopped]
  have nonzero : batch.session ≠ 0 := (not_or.mp stopped).2
  by_cases remembered : batch.session = projection.rejectedSession
  · rw [if_pos remembered]
    exact ⟨by simp [Consistent], .remembered remembered nonzero⟩
  rw [if_neg remembered]
  by_cases lost : batch.overflow = true ∨ batch.size > kCapacity
  · rw [if_pos lost]
    exact ⟨by simp [Consistent, reject], .turnedAway nonzero⟩
  rw [if_neg lost]
  by_cases withdrawn : evidence ≠ .verifiedNativeApi
  · rw [if_pos withdrawn]
    refine ⟨by simp [Consistent], ?_⟩
    by_cases trusted : projection.state.evidence = .verifiedNativeApi
    · have call : Gate.Call batch.session (batch.overflow = false) projection.gate _ :=
        .turnedAway nonzero
      simpa [gate, trusted] using call
    · have untrusted : projection.state.session = 0 :=
        not_not.mp fun known => trusted (consistent.mpr known)
      have call : Gate.Call batch.session (batch.overflow = false) projection.gate _ := .idle untrusted
      simpa [gate, trusted] using call
  rw [if_neg withdrawn]
  obtain rfl := not_not.mp withdrawn
  have intact : batch.overflow = false := by simpa using (not_or.mp lost).1
  have started : ∀ start, start = (if projection.state.session ≠ batch.session ∨
        projection.state.evidence ≠ .verifiedNativeApi then
      SipRuntimeObservation.opened process .verifiedNativeApi batch.session
      else projection.state) →
      start.evidence = .verifiedNativeApi ∧ start.session = batch.session := by
    rintro start rfl
    split
    · exact ⟨rfl, rfl⟩
    · next same => simpa [and_comm] using same
  dsimp only
  obtain ⟨evidence, session⟩ := started _ rfl
  split
  · next next folded =>
      obtain ⟨keptEvidence, keptSession, _⟩ := applyBaresipEvents_keeps folded
      rw [evidence] at keptEvidence
      rw [session] at keptSession
      refine ⟨by simp [Consistent, keptEvidence, keptSession, nonzero], ?_⟩
      have accepted : Gate.Call batch.session (batch.overflow = false) projection.gate _ :=
        .accepted nonzero remembered intact
      simpa [gate, keptSession] using accepted
  · exact ⟨by simp [Consistent, reject], .turnedAway nonzero⟩

namespace SipEventProjection

/-- The generation that the account-bound projection trusts, and its rejected one. -/
def accountGate (projection : SipEventProjection) : Gate UInt64 :=
  ⟨projection.bound.observation.session, projection.rejectedSession⟩

/-- A session number is shown exactly together with verified evidence. -/
def AccountConsistent (projection : SipEventProjection) : Prop :=
  projection.bound.observation.evidence = .verifiedNativeApi ↔
    projection.bound.observation.session ≠ 0

theorem consistent_droppedBound (process : RuntimeProcess) :
    (droppedBound process).observation.evidence = .verifiedNativeApi ↔
      (droppedBound process).observation.session ≠ 0 := by
  simp [droppedBound]

end SipEventProjection

theorem applyIdentifiedEvents_keeps {session : UInt64} {events : List BaresipNativeEvent}
    {bound next : BoundBaresipState}
    (applied : applyIdentifiedEvents session bound events = some next) :
    next.observation.evidence = bound.observation.evidence ∧
      next.observation.session = bound.observation.session := by
  induction events generalizing bound with
  | nil =>
      cases applied
      exact ⟨rfl, rfl⟩
  | cons event rest ih =>
      simp only [applyIdentifiedEvents] at applied
      split at applied
      · next middle stepped =>
          obtain ⟨observation, reduced, same⟩ := applyIdentifiedEvent_applied stepped
          obtain ⟨_, _, fields, _, after⟩ := applyBaresipEvent_applied reduced
          have tail := ih applied
          rw [same, boundAfter_observation, after] at tail
          exact tail
      · cases applied

namespace SipEventProjection

theorem boundFor_verified (projection : SipEventProjection) (process : RuntimeProcess)
    (session token : UInt64) :
    (projection.boundFor process .verifiedNativeApi session token).observation.evidence =
        .verifiedNativeApi ∧
      (projection.boundFor process .verifiedNativeApi session token).observation.session =
        session := by
  unfold boundFor
  split
  · exact ⟨rfl, rfl⟩
  · next same => simpa [and_comm] using same

/-- One call of the account-bound projection is one call of its gate. -/
theorem observeAccount_call {projection : SipEventProjection}
    (consistent : projection.AccountConsistent) (process : RuntimeProcess)
    (evidence : SipEvidence) (batch : Batch) (token : UInt64) :
    (projection.observeAccount process evidence batch token).AccountConsistent ∧
      Gate.Call batch.session (batch.overflow = false) projection.accountGate
        (projection.observeAccount process evidence batch token).accountGate := by
  unfold observeAccount
  dsimp only
  by_cases stopped : process ≠ .running ∨ batch.session = 0
  · rw [if_pos stopped]
    refine ⟨consistent_droppedBound process, ?_⟩
    by_cases trusted : projection.bound.observation.session = 0
    · have call : Gate.Call batch.session (batch.overflow = false) projection.accountGate _ :=
        .idle trusted
      simpa [accountGate, droppedBound, trusted] using call
    · have call : Gate.Call batch.session (batch.overflow = false) projection.accountGate _ :=
        .stopped trusted
      simpa [accountGate, droppedBound, trusted] using call
  rw [if_neg stopped]
  have nonzero : batch.session ≠ 0 := (not_or.mp stopped).2
  by_cases remembered : batch.session = projection.rejectedSession
  · rw [if_pos remembered]
    exact ⟨consistent_droppedBound process, .remembered remembered nonzero⟩
  rw [if_neg remembered]
  by_cases lost : batch.overflow = true ∨ batch.size > kCapacity
  · rw [if_pos lost]
    exact ⟨consistent_droppedBound process, .turnedAway nonzero⟩
  rw [if_neg lost]
  by_cases withdrawn : evidence ≠ .verifiedNativeApi ∨ token = 0
  · rw [if_pos withdrawn]
    refine ⟨consistent_droppedBound process, ?_⟩
    by_cases trusted : projection.bound.observation.evidence = .verifiedNativeApi
    · have call : Gate.Call batch.session (batch.overflow = false) projection.accountGate _ :=
        .turnedAway nonzero
      simpa [accountGate, droppedBound, trusted] using call
    · have untrusted : projection.bound.observation.session = 0 :=
        not_not.mp fun known => trusted (consistent.mpr known)
      have call : Gate.Call batch.session (batch.overflow = false) projection.accountGate _ :=
        .idle untrusted
      simpa [accountGate, droppedBound, trusted] using call
  rw [if_neg withdrawn]
  obtain rfl : evidence = .verifiedNativeApi := not_not.mp (not_or.mp withdrawn).1
  have intact : batch.overflow = false := by simpa using (not_or.mp lost).1
  have start := boundFor_verified { projection with identityMode := true } process batch.session token
  split
  · exact ⟨consistent_droppedBound process, .turnedAway nonzero⟩
  split
  · next next folded =>
      obtain ⟨keptEvidence, keptSession⟩ := applyIdentifiedEvents_keeps folded
      rw [start.1] at keptEvidence
      rw [start.2] at keptSession
      refine ⟨by simp [AccountConsistent, keptEvidence, keptSession, nonzero], ?_⟩
      have accepted : Gate.Call batch.session (batch.overflow = false) projection.accountGate _ :=
        .accepted nonzero remembered intact
      simpa [accountGate, keptSession] using accepted
  · exact ⟨consistent_droppedBound process, .turnedAway nonzero⟩

/-- A verified call on a fresh account-bound projection trusts the session or rejects it. -/
theorem observeAccount_fresh {projection : SipEventProjection} {batch : Batch} {token : UInt64}
    (unused : projection.rejectedSession = 0) (nonzero : batch.session ≠ 0) (account : token ≠ 0) :
    let next := projection.observeAccount .running .verifiedNativeApi batch token
    next.bound.observation.session = batch.session ∨ next.rejectedSession = batch.session := by
  have start := boundFor_verified { projection with identityMode := true } .running batch.session token
  unfold observeAccount
  dsimp only
  rw [if_neg (by simpa using nonzero), if_neg (by rw [unused]; exact nonzero)]
  split
  · exact .inr rfl
  rw [if_neg (by simpa using account)]
  split
  · exact .inr rfl
  split
  · next next folded => exact .inl ((applyIdentifiedEvents_keeps folded).2.trans start.2)
  · exact .inr rfl

end SipEventProjection

end AxeVoice.Sip
