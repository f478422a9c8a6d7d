import AxeVoice.Sip.Address
import AxeVoice.Sip.Observation

/-!
# Call command authorization

The snapshot level policies in front of a native call command: the dial policy,
shared with the dial button, and the command policy of the SIP worker.
-/

namespace AxeVoice.Command

open Foundation Sip

variable {width : WCharWidth} (ctype : WideCtype width)

inductive EngineKind where
  | unavailable
  | baresip
  deriving DecidableEq, Repr

/-- The selected engine: its kind, and the status it reports when there is one. -/
structure EngineSelection where
  engine : Option SipStatus := none
  kind : EngineKind := .unavailable
  deriving DecidableEq, Repr

inductive DialDenied where
  | none
  | emptyDestination
  | invalidDestination
  | unverifiedSession
  | engineUnavailable
  | engineNotRegistered
  deriving DecidableEq, Repr

structure DialAuthorization (width : WCharWidth) where
  reason : DialDenied := .unverifiedSession
  normalizedDestination : WString width := []
  deriving DecidableEq, Repr

def authorizeDial (observed : SipRuntimeObservation) (currentSession : UInt64)
    (selected : EngineSelection) (typedDestination : WString width) : DialAuthorization width :=
  if typedDestination.isEmpty then ⟨.emptyDestination, []⟩
  else
    let address := validateAddress ctype typedDestination
    if !address.valid then ⟨.invalidDestination, []⟩
    else if !mayUseCallControl observed currentSession .dial then ⟨.unverifiedSession, []⟩
    else
      match selected.kind, selected.engine with
      | .baresip, some status =>
          if status ≠ .registered then ⟨.engineNotRegistered, []⟩
          else ⟨.none, address.normalized⟩
      | _, _ => ⟨.engineUnavailable, []⟩

inductive CallCommandDenied where
  | none
  | unverifiedSession
  | engineUnavailable
  | invalidDestination
  | unsupportedState
  | staleCall
  | engineStateMismatch
  deriving DecidableEq, Repr

structure CallCommandPermit (width : WCharWidth) where
  reason : CallCommandDenied := .unverifiedSession
  destination : WString width := []
  deriving DecidableEq, Repr

def CallCommandPermit.allowed (permit : CallCommandPermit width) : Bool := permit.reason = .none

/-- The refusal a dial denial is reported as. -/
def DialDenied.asCommandDenied : DialDenied → CallCommandDenied
  | .emptyDestination | .invalidDestination => .invalidDestination
  | .unverifiedSession => .unverifiedSession
  | .engineUnavailable => .engineUnavailable
  | .none | .engineNotRegistered => .engineStateMismatch

def authorizeDialCommand (state : SipRuntimeObservation) (activeSession : UInt64)
    (selected : EngineSelection) (expectedCallId : UInt64) (destination : WString width) :
    CallCommandPermit width :=
  if expectedCallId ≠ 0 || state.callId ≠ 0 then ⟨.staleCall, []⟩
  else
    let dial := authorizeDial ctype state activeSession selected destination
    if dial.reason = .none then ⟨.none, dial.normalizedDestination⟩
    else ⟨dial.reason.asCommandDenied, []⟩

/-- The branch of answer and hangup, which target the tracked call. -/
def authorizeCallControl (state : SipRuntimeObservation) (activeSession : UInt64)
    (selected : EngineSelection) (action : CallAction) (expectedCallId : UInt64) :
    CallCommandPermit width :=
  if !sipProofIsCurrent state activeSession then ⟨.unverifiedSession, []⟩
  else
    match selected.kind, selected.engine with
    | .baresip, some status =>
        if !mayUseCallControl state activeSession action then ⟨.unsupportedState, []⟩
        else if expectedCallId = 0 || state.callId = 0 || state.callId ≠ expectedCallId ||
            state.lastCallId ≠ expectedCallId then ⟨.staleCall, []⟩
        else if status ≠ state.sip then ⟨.engineStateMismatch, []⟩
        else ⟨.none, []⟩
    | _, _ => ⟨.engineUnavailable, []⟩

def authorizeCallCommand (state : SipRuntimeObservation) (activeSession : UInt64)
    (selected : EngineSelection) (action : CallAction) (expectedCallId : UInt64)
    (destination : WString width) : CallCommandPermit width :=
  match action with
  | .dial => authorizeDialCommand ctype state activeSession selected expectedCallId destination
  | .answer | .hangup =>
      authorizeCallControl state activeSession selected action expectedCallId

end AxeVoice.Command
