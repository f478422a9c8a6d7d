import AxeVoice.Command.Authorization
import AxeVoice.Foundation.Reactive

/-!
# The SIP command executor

The worker side state machine between call requests and the native port.  It
consumes request sequences, remembers the last command of each kind, waits for
the progress of a submitted command and fences the session where native side
effects or the clock can no longer be trusted.
-/

namespace AxeVoice.Command

open Foundation Sip

variable {width : WCharWidth} (ctype : WideCtype width)

/-- A call request from the trusted worker ingress. -/
structure SipCommandRequest (width : WCharWidth) where
  session : UInt64 := 0
  sequence : UInt64 := 0
  action : CallAction := .dial
  callId : UInt64 := 0
  destination : WString width := []

/-- A call of the native port. -/
inductive NativeCommand (width : WCharWidth) where
  | originate (destination : WString width)
  | answer (callId : UInt64)
  | hangup (callId : UInt64)
  deriving DecidableEq, Repr

/-- How a call of the native port ends: it returns its answer, or it throws. -/
inductive PortReply where
  | returned (accepted : Bool)
  | threw
  deriving DecidableEq, Repr

/-- The native port as one dispatch finds it. -/
abbrev SipNativeCommandPort (width : WCharWidth) := NativeCommand width → PortReply

inductive SipCommandDisposition where
  | idle
  | progressObserved
  | submitted
  | invalidRequest
  | staleSession
  | duplicateRequest
  | pendingTransition
  | duplicateCallAction
  | denied
  | nativeRejected
  | commandTimedOut
  | clockRollback
  | fenced
  deriving DecidableEq, Repr

structure SipCommandResult where
  disposition : SipCommandDisposition := .invalidRequest
  denial : CallCommandDenied := .none
  deriving DecidableEq, Repr

structure SipCommandExecutor where
  session : UInt64 := 0
  lastSequence : UInt64 := 0
  lastAnswerId : UInt64 := 0
  lastHangupId : UInt64 := 0
  lastDialCall : UInt64 := 0
  pendingCall : UInt64 := 0
  pendingLastCall : UInt64 := 0
  pendingStartedMs : UInt64 := 0
  lastNowMs : UInt64 := 0
  pendingStatus : SipStatus := .unavailable
  pending : Bool := false
  sentDial : Bool := false
  fenced : Bool := false
  deriving DecidableEq, Repr

namespace SipCommandExecutor

def pendingTimeoutMs : UInt64 := 10000

/-- The fields a new session starts from. -/
def beginNewSession (id : UInt64) : SipCommandExecutor := { session := id }

def fence (executor : SipCommandExecutor) : SipCommandExecutor := { executor with fenced := true }

/-- The observation is still the one the pending command was submitted under. -/
def awaiting (executor : SipCommandExecutor) (live : SipRuntimeObservation) : Bool :=
  live.sip = executor.pendingStatus && live.callId = executor.pendingCall &&
    live.lastCallId = executor.pendingLastCall

def rolledBack (executor : SipCommandExecutor) (nowMs : UInt64) : Bool :=
  executor.lastNowMs ≠ 0 && nowMs < executor.lastNowMs

def overdue (executor : SipCommandExecutor) (nowMs : UInt64) : Bool :=
  nowMs - executor.pendingStartedMs ≥ pendingTimeoutMs

/-- What one entry of the executor did: its result, and the command that reached the port. -/
structure Outcome (width : WCharWidth) where
  result : SipCommandResult
  command : Option (NativeCommand width) := none
  deriving DecidableEq, Repr

/-- An entry that ends before the port. -/
def quiet (disposition : SipCommandDisposition) : Outcome width := ⟨⟨disposition, .none⟩, none⟩

def watchdog (executor : SipCommandExecutor) (live : SipRuntimeObservation)
    (activeSession nowMs : UInt64) : SipCommandDisposition × SipCommandExecutor :=
  if executor.fenced then (.fenced, executor)
  else if executor.session = 0 || !executor.pending then (.idle, executor)
  else if nowMs = 0 || !sipProofIsCurrent live activeSession ||
      activeSession ≠ executor.session then (.staleSession, executor.fence)
  else if executor.rolledBack nowMs then (.clockRollback, executor.fence)
  else
    let timed := { executor with lastNowMs := nowMs }
    if !timed.awaiting live then (.progressObserved, { timed with pending := false })
    else if timed.overdue nowMs then (.commandTimedOut, timed.fence)
    else (.pendingTransition, timed)

/-- The action was already submitted for this call, or for this point of the call history. -/
def alreadySent (executor : SipCommandExecutor) (request : SipCommandRequest width)
    (live : SipRuntimeObservation) : Bool :=
  match request.action with
  | .dial => executor.sentDial && live.lastCallId ≤ executor.lastDialCall
  | .answer => request.callId ≤ executor.lastAnswerId
  | .hangup => request.callId ≤ executor.lastHangupId

def nativeCommand (request : SipCommandRequest width) (destination : WString width) :
    NativeCommand width :=
  match request.action with
  | .dial => .originate destination
  | .answer => .answer request.callId
  | .hangup => .hangup request.callId

/-- The last command of the action's kind. -/
def recordSent (executor : SipCommandExecutor) (request : SipCommandRequest width)
    (live : SipRuntimeObservation) : SipCommandExecutor :=
  match request.action with
  | .dial => { executor with sentDial := true, lastDialCall := live.lastCallId }
  | .answer => { executor with lastAnswerId := request.callId }
  | .hangup => { executor with lastHangupId := request.callId }

def startPending (executor : SipCommandExecutor) (live : SipRuntimeObservation)
    (nowMs : UInt64) : SipCommandExecutor :=
  { executor with
    pending := true
    pendingStartedMs := nowMs
    pendingStatus := live.sip
    pendingCall := live.callId
    pendingLastCall := live.lastCallId }

/-- The part of `dispatch` from the authorization on. -/
def dispatchPermitted (executor : SipCommandExecutor) (request : SipCommandRequest width)
    (live : SipRuntimeObservation) (activeSession : UInt64) (selected : EngineSelection)
    (native : SipNativeCommandPort width) (nowMs : UInt64) :
    Outcome width × SipCommandExecutor :=
  let permission := authorizeCallCommand ctype live activeSession selected request.action
    request.callId request.destination
  if !permission.allowed then (⟨⟨.denied, permission.reason⟩, none⟩, executor)
  else if executor.alreadySent request live then (quiet .duplicateCallAction, executor)
  else
    let command := nativeCommand request permission.destination
    -- a native call that throws counts as not accepted
    if native command = .returned true then
      (⟨⟨.submitted, .none⟩, some command⟩,
        (executor.recordSent request live).startPending live nowMs)
    else (⟨⟨.nativeRejected, .none⟩, some command⟩, executor.fence)

/-- The part of `dispatch` after the session is admitted. -/
def dispatchAdmitted (executor : SipCommandExecutor) (request : SipCommandRequest width)
    (live : SipRuntimeObservation) (activeSession : UInt64) (selected : EngineSelection)
    (native : SipNativeCommandPort width) (nowMs : UInt64) :
    Outcome width × SipCommandExecutor :=
  if executor.rolledBack nowMs then (quiet .clockRollback, executor.fence)
  else if request.sequence ≤ executor.lastSequence then
    (quiet .duplicateRequest, { executor with lastNowMs := nowMs })
  else
    let consumed := { executor with lastNowMs := nowMs, lastSequence := request.sequence }
    if consumed.pending then
      if consumed.awaiting live then
        if consumed.overdue nowMs then (quiet .commandTimedOut, consumed.fence)
        else (quiet .pendingTransition, consumed)
      else
        { consumed with pending := false }.dispatchPermitted ctype request live activeSession
          selected native nowMs
    else consumed.dispatchPermitted ctype request live activeSession selected native nowMs

/-- The state in which an admitted request is served. -/
def admitSession (executor : SipCommandExecutor) (session : UInt64) : SipCommandExecutor :=
  if session > executor.session then beginNewSession session else executor

def dispatch (executor : SipCommandExecutor) (request : SipCommandRequest width)
    (live : SipRuntimeObservation) (activeSession : UInt64) (selected : EngineSelection)
    (native : SipNativeCommandPort width) (nowMs : UInt64) :
    Outcome width × SipCommandExecutor :=
  if request.session = 0 || request.sequence = 0 || nowMs = 0 then (quiet .invalidRequest, executor)
  else if request.session < executor.session then (quiet .staleSession, executor)
  else if executor.session ≠ 0 && request.session = executor.session && executor.fenced then
    (quiet .fenced, executor)
  else if request.session ≠ activeSession || !sipProofIsCurrent live activeSession then
    (quiet .staleSession, if request.session = executor.session then executor.fence else executor)
  else
    (executor.admitSession request.session).dispatchAdmitted ctype request live activeSession
      selected native nowMs

end SipCommandExecutor

/-- The two entries of the executor, with all they are given. -/
inductive ExecutorCall (width : WCharWidth) where
  | dispatch (request : SipCommandRequest width) (live : SipRuntimeObservation)
      (activeSession : UInt64) (selected : EngineSelection)
      (native : SipNativeCommandPort width) (nowMs : UInt64)
  | watchdog (live : SipRuntimeObservation) (activeSession nowMs : UInt64)

def ExecutorCall.live : ExecutorCall width → SipRuntimeObservation
  | .dispatch _ live _ _ _ _ => live
  | .watchdog live _ _ => live

def ExecutorCall.request : ExecutorCall width → Option (SipCommandRequest width)
  | .dispatch request _ _ _ _ _ => some request
  | .watchdog _ _ _ => none

def executorStep (executor : SipCommandExecutor) :
    ExecutorCall width → SipCommandExecutor.Outcome width × SipCommandExecutor
  | .dispatch request live activeSession selected native nowMs =>
      executor.dispatch ctype request live activeSession selected native nowMs
  | .watchdog live activeSession nowMs =>
      let (disposition, next) := executor.watchdog live activeSession nowMs
      (SipCommandExecutor.quiet disposition, next)

end AxeVoice.Command
