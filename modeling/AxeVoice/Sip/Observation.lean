import Mathlib.Data.List.Basic

/-!
# Runtime observations

The SIP status, the evidence behind it and the runtime process, as the user
interface sees them together.  A status counts only while its proof is current:
a running process, natively verified evidence and the session asked about.
-/

namespace AxeVoice.Sip

inductive SipStatus where
  | unavailable
  | disconnected
  | registering
  | registered
  | calling
  | ringing
  | inCall
  | failed
  deriving DecidableEq, Repr

inductive SipEvidence where
  | none
  | verifiedNativeApi
  deriving DecidableEq, Repr

inductive RuntimeProcess where
  | stopped
  | running
  | stopping
  | failed
  deriving DecidableEq, Repr

structure SipRuntimeObservation where
  process : RuntimeProcess := .stopped
  sip : SipStatus := .unavailable
  evidence : SipEvidence := .none
  session : UInt64 := 0
  callId : UInt64 := 0
  lastCallId : UInt64 := 0
  deriving DecidableEq, Repr

inductive CallAction where
  | dial
  | answer
  | hangup
  deriving DecidableEq, Repr

def canApplyCallAction (status : SipStatus) : CallAction → Bool
  | .dial => status = .registered
  | .answer => status = .ringing
  | .hangup => status = .calling || status = .ringing || status = .inCall

def sipProofIsCurrent (observation : SipRuntimeObservation) (currentSession : UInt64) : Bool :=
  observation.process = .running && observation.evidence = .verifiedNativeApi &&
    currentSession ≠ 0 && observation.session = currentSession

def effectiveSipStatus (observation : SipRuntimeObservation) (currentSession : UInt64) :
    SipStatus :=
  if sipProofIsCurrent observation currentSession then observation.sip else .unavailable

def mayUseCallControl (observation : SipRuntimeObservation) (currentSession : UInt64)
    (action : CallAction) : Bool :=
  canApplyCallAction (effectiveSipStatus observation currentSession) action

def isStaleSession (eventSession currentSession : UInt64) : Bool :=
  eventSession = 0 || eventSession ≠ currentSession

/-- The largest value of the 64-bit counters. -/
abbrev uint64Max : UInt64 := 0xFFFFFFFFFFFFFFFF

theorem sipProofIsCurrent_iff (observation : SipRuntimeObservation) (currentSession : UInt64) :
    sipProofIsCurrent observation currentSession = true ↔
      observation.process = .running ∧ observation.evidence = .verifiedNativeApi ∧
        currentSession ≠ 0 ∧ observation.session = currentSession := by
  simp [sipProofIsCurrent, and_assoc]

/-- The observation carries natively verified evidence for this session. -/
def SipRuntimeObservation.VerifiedFor (observation : SipRuntimeObservation)
    (session : UInt64) : Prop :=
  observation.evidence = .verifiedNativeApi ∧ observation.session = session

instance (observation : SipRuntimeObservation) (session : UInt64) :
    Decidable (observation.VerifiedFor session) :=
  inferInstanceAs (Decidable (_ ∧ _))

/-- What is left of an observation once its proof is dropped. -/
def SipRuntimeObservation.dropped (process : RuntimeProcess) : SipRuntimeObservation :=
  { process := process, sip := .unavailable, evidence := .none, session := 0 }

/-- The observation with which a verified session starts. -/
def SipRuntimeObservation.opened (process : RuntimeProcess) (evidence : SipEvidence)
    (session : UInt64) : SipRuntimeObservation :=
  { process := process, sip := .unavailable, evidence := evidence, session := session }

@[simp] theorem dropped_evidence (process : RuntimeProcess) :
    (SipRuntimeObservation.dropped process).evidence = .none := rfl

@[simp] theorem dropped_session (process : RuntimeProcess) :
    (SipRuntimeObservation.dropped process).session = 0 := rfl

theorem not_verifiedFor_dropped (process : RuntimeProcess) (session : UInt64) :
    ¬ (SipRuntimeObservation.dropped process).VerifiedFor session := by
  intro verified
  cases verified.1

end AxeVoice.Sip
