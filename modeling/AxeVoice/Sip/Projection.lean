import AxeVoice.Sip.Identity

/-!
# The event projection

The projection that the user interface owns.  Its first call with an account
token moves it, for good, from the legacy projection to the account-bound one.
-/

namespace AxeVoice.Sip

/-- The loop over the events of a batch; it stops at the first refusal. -/
def applyIdentifiedEvents (session : UInt64) :
    BoundBaresipState → List BaresipNativeEvent → Option BoundBaresipState
  | bound, [] => some bound
  | bound, event :: rest =>
      match applyIdentifiedEvent bound session event with
      | (.applied, next) => applyIdentifiedEvents session next rest
      | _ => none

structure SipEventProjection where
  identityMode : Bool := false
  legacy : LegacySipEventProjection := {}
  bound : BoundBaresipState := {}
  rejectedSession : UInt64 := 0
  deriving DecidableEq

namespace SipEventProjection

/-- `invalidate_identity` followed by the assignment of the process. -/
def droppedBound (process : RuntimeProcess) : BoundBaresipState :=
  { observation := { process := process } }

def reject (projection : SipEventProjection) (session : UInt64) (process : RuntimeProcess) :
    SipEventProjection :=
  { projection with rejectedSession := session, bound := droppedBound process }

/-- The bound state with which a batch of this session and evidence is processed. -/
def boundFor (projection : SipEventProjection) (process : RuntimeProcess)
    (evidence : SipEvidence) (session expectedAccountToken : UInt64) : BoundBaresipState :=
  if projection.bound.observation.session ≠ session ∨
      projection.bound.observation.evidence ≠ evidence then
    { observation := .opened process evidence session
      expectedAccountToken := expectedAccountToken }
  else projection.bound

/-- The overload of `observe` with an account token. -/
def observeAccount (projection : SipEventProjection) (process : RuntimeProcess)
    (evidence : SipEvidence) (batch : Batch) (expectedAccountToken : UInt64) :
    SipEventProjection :=
  let projection := { projection with identityMode := true }
  if process ≠ .running ∨ batch.session = 0 then
    { projection with
      bound := droppedBound process
      rejectedSession :=
        if projection.bound.observation.session ≠ 0 then projection.bound.observation.session
        else projection.rejectedSession }
  else if batch.session = projection.rejectedSession then
    { projection with bound := droppedBound process }
  else if batch.overflow ∨ batch.size > kCapacity then
    projection.reject batch.session process
  else if evidence ≠ .verifiedNativeApi ∨ expectedAccountToken = 0 then
    { projection with
      bound := droppedBound process
      rejectedSession :=
        if projection.bound.observation.evidence = .verifiedNativeApi then batch.session
        else projection.rejectedSession }
  else
    let bound := projection.boundFor process evidence batch.session expectedAccountToken
    if bound.expectedAccountToken ≠ expectedAccountToken then
      projection.reject batch.session process
    else
      match applyIdentifiedEvents batch.session bound batch.delivered with
      | some next => { projection with bound := next }
      | none => projection.reject batch.session process

def observe (projection : SipEventProjection) (process : RuntimeProcess)
    (evidence : SipEvidence) (batch : Batch) : SipEventProjection :=
  if projection.identityMode then
    projection.observeAccount process evidence batch projection.bound.expectedAccountToken
  else { projection with legacy := projection.legacy.observe process evidence batch }

/-- The observation that either overload returns. -/
def snapshot (projection : SipEventProjection) : SipRuntimeObservation :=
  if projection.identityMode then projection.bound.observation else projection.legacy.snapshot

@[simp] theorem observeAccount_legacy (projection : SipEventProjection) (process : RuntimeProcess)
    (evidence : SipEvidence) (batch : Batch) (token : UInt64) :
    (projection.observeAccount process evidence batch token).legacy = projection.legacy := by
  unfold observeAccount
  dsimp only
  repeat' split
  all_goals rfl

@[simp] theorem observeAccount_identityMode (projection : SipEventProjection) (process : RuntimeProcess)
    (evidence : SipEvidence) (batch : Batch) (token : UInt64) :
    (projection.observeAccount process evidence batch token).identityMode = true := by
  unfold observeAccount
  dsimp only
  repeat' split
  all_goals rfl

end SipEventProjection

end AxeVoice.Sip
