import AxeVoice.Sip.Mailbox

/-!
# The legacy projection

Folds the batches of an authenticated event stream into one observation.  A
session that was rejected stays rejected: its number is remembered until a later
rejection takes its place.
-/

namespace AxeVoice.Sip

/-- The loop over the events of a batch; it stops at the first refusal. -/
def applyBaresipEvents (session : UInt64) :
    SipRuntimeObservation → List BaresipNativeEvent → Option SipRuntimeObservation
  | state, [] => some state
  | state, event :: rest =>
      match applyBaresipEvent state session event with
      | (.applied, next) => applyBaresipEvents session next rest
      | _ => none

theorem applyBaresipEvents_cons (session : UInt64) (state : SipRuntimeObservation)
    (event : BaresipNativeEvent) (rest : List BaresipNativeEvent) :
    applyBaresipEvents session state (event :: rest) =
      (applyBaresipEvents session state [event]).bind
        fun next => applyBaresipEvents session next rest := by
  simp only [applyBaresipEvents]
  cases applyBaresipEvent state session event with
  | mk transition next => cases transition <;> rfl

structure LegacySipEventProjection where
  state : SipRuntimeObservation := {}
  rejectedSession : UInt64 := 0
  deriving DecidableEq

namespace LegacySipEventProjection

def reject (_projection : LegacySipEventProjection) (session : UInt64)
    (process : RuntimeProcess) : LegacySipEventProjection :=
  { state := .dropped process, rejectedSession := session }

def observe (projection : LegacySipEventProjection) (process : RuntimeProcess)
    (evidence : SipEvidence) (batch : Batch) : LegacySipEventProjection :=
  if process ≠ .running ∨ batch.session = 0 then
    { state := .dropped process
      rejectedSession :=
        if projection.state.session ≠ 0 then projection.state.session
        else projection.rejectedSession }
  else if batch.session = projection.rejectedSession then
    { projection with state := .dropped process }
  else if batch.overflow ∨ batch.size > kCapacity then
    projection.reject batch.session process
  else if evidence ≠ .verifiedNativeApi then
    { state := .dropped process
      rejectedSession :=
        if projection.state.evidence = .verifiedNativeApi then batch.session
        else projection.rejectedSession }
  else
    let state :=
      if projection.state.session ≠ batch.session ∨ projection.state.evidence ≠ evidence then
        .opened process evidence batch.session
      else projection.state
    match applyBaresipEvents batch.session state batch.delivered with
    | some next => { projection with state := next }
    | none => projection.reject batch.session process

def snapshot (projection : LegacySipEventProjection) : SipRuntimeObservation :=
  projection.state

end LegacySipEventProjection

end AxeVoice.Sip
