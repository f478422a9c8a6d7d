import AxeVoice.Foundation.Reactive
import AxeVoice.Native.Destinations
import AxeVoice.Sip.Observation

/-!
# The account of the native engine

The thread of the user interface configures the engine, registers the account
and stops; the reactor's own thread starts the SDK up, hands it the password and
ends it again.  A step of the host is what either thread does up to the next
point at which the other one may act, and every step that can fail takes its
outcome as an argument.
-/

namespace AxeVoice.Native

open Foundation Sip

variable {width : WCharWidth}

inductive NativeCallAction where
  | none
  | dial
  | answer
  | hangup
  | setMute
  | setHold
  | transfer
  | dtmf
  deriving DecidableEq, Repr

structure NativeCallCommand where
  action : NativeCallAction := .none
  session : UInt64 := 0
  callId : UInt64 := 0
  destination : Bytes := []
  desired : Bool := false
  deriving DecidableEq

inductive NativeTransferState where
  | none
  | submitted
  | failed
  deriving DecidableEq, Repr

structure NativeCallMediaState where
  session : UInt64 := 0
  callId : UInt64 := 0
  available : Bool := false
  muted : Bool := false
  localHold : Bool := false
  holdRequestError : Int32 := 0
  transfer : NativeTransferState := .none
  deriving DecidableEq

inductive NativeAudioRouteStatus where
  | ready
  | invalidSelection
  | inventoryFailed
  | missingCapture
  | missingPlayback
  deriving DecidableEq, Repr

structure NativeDestinationFeedback where
  error : NativeDestinationError := .none
  session : UInt64 := 0
  call : UInt64 := 0
  deriving DecidableEq

namespace NativeDestinationFeedback

def clear (feedback : NativeDestinationFeedback) : NativeDestinationFeedback :=
  { feedback with error := .none }

def synchronize (feedback : NativeDestinationFeedback) (view : SipRuntimeObservation) :
    NativeDestinationFeedback :=
  if view.session ≠ feedback.session || view.callId ≠ feedback.call then feedback.clear
  else feedback

end NativeDestinationFeedback

/-- The state of `BaresipSipEngine::Impl` beside its reactor, its adapter and its projection. -/
structure BaresipSipEngine (width : WCharWidth) where
  account : SipAccount width := { server := [], username := [] }
  policySelected : Bool := false
  tlsRequired : Bool := false
  config : NativeAccountConfig := {}
  audioRoute : NativeAudioRoute width := {}
  audioIssue : NativeAudioRouteStatus := .ready
  password : Bytes := []
  command : NativeCallCommand := {}
  media : NativeCallMediaState := {}
  lastHoldError : Int32 := 0
  muteRejected : Bool := false
  dtmfRejected : Bool := false
  view : SipRuntimeObservation := { process := .stopped, sip := .disconnected }
  sdkError : Int32 := 0
  destinationFeedback : NativeDestinationFeedback := {}
  startRejected : Bool := false
  configureRejected : Bool := false
  registrationTimedOut : Bool := false
  sdkStage : String := ""
  configured : Bool := false
  core : Bool := false
  uaInitialized : Bool := false
  claimed : Bool := false
  failed : Bool := false
  timeoutMs : UInt32 := 15000
  deadline : UInt64 := 0
  /-- Whether there is a user agent. -/
  owned : Bool := false

/-- The arguments of `configure_authenticated`. -/
structure ConfigureRequest (width : WCharWidth) where
  account : SipAccount width
  ca : WString width
  password : Bytes
  timeout : UInt32 := 15000
  audio : NativeAudioRoute width := {}

def ConfigureRequest.config (request : ConfigureRequest width) : NativeAccountConfig :=
  nativeAccountConfig request.account request.ca request.audio

def ConfigureRequest.acceptable (request : ConfigureRequest width) : Bool :=
  !(!request.config.valid || request.password.isEmpty || request.password.length > 1024 ||
    request.password.contains 0 || request.timeout < 100 || request.timeout > 60000)

/-- The native steps of `begin`, in their order. -/
inductive StartStep where
  | claim
  | config
  | baresipInit
  | uaInit
  | g711
  | wasapi
  | uaAlloc
  | auth
  | regint
  | uaUpdate
  | adapter
  | uaRegister
  deriving DecidableEq, Repr

namespace StartStep

def next : StartStep → Option StartStep
  | claim => some config
  | config => some baresipInit
  | baresipInit => some uaInit
  | uaInit => some g711
  | g711 => some wasapi
  | wasapi => some uaAlloc
  | uaAlloc => some auth
  | auth => some regint
  | regint => some uaUpdate
  | uaUpdate => some adapter
  | adapter => some uaRegister
  | uaRegister => none

/-- The text by which `checked` names the step; two of them fail without one. -/
def stage : StartStep → Option String
  | claim | adapter => none
  | config => some "config"
  | baresipInit => some "baresip_init"
  | uaInit => some "ua_init"
  | g711 => some "g711"
  | wasapi => some "wasapi"
  | uaAlloc => some "ua_alloc"
  | auth => some "auth"
  | regint => some "regint"
  | uaUpdate => some "ua_update"
  | uaRegister => some "ua_register"

end StartStep

/-- What a tick reads from the SDK before it takes the pending command. -/
structure TickReading where
  observed : SipRuntimeObservation
  active : Bool
  /-- `native_register_ok_seen` -/
  confirmed : Bool
  now : UInt64
  media : NativeCallMediaState

inductive TickOutcome where
  | skipped
  | failed
  | taken
  deriving DecidableEq, Repr

/-- What the call port does with an admitted command. -/
inductive CallEffect where
  | applied
  /-- The SDK refuses to dial, to answer or to hang up. -/
  | lost
  | dtmf (error : Int32)
  | muted (applied : Bool)
  | held (error : Int32)

/-- What becomes of the command that a tick has taken. -/
inductive CommandFate where
  | ignored
  | audioRefused (audio : NativeAudioRouteStatus)
  | dispatched (audio : NativeAudioRouteStatus) (effect : CallEffect) (media : NativeCallMediaState)

inductive LibreReactorFault where
  | none
  | initRejected
  | queueRejected
  | hookFailed
  | mainLoopFailed
  deriving DecidableEq, Repr

namespace BaresipSipEngine

/-- The credentials go first. -/
def fail (engine : BaresipSipEngine width) : BaresipSipEngine width :=
  { engine with
    password := []
    failed := true
    owned := false
    view := { process := .failed, sip := .failed }
    destinationFeedback := engine.destinationFeedback.clear
    command := {}
    media := {}
    lastHoldError := 0
    muteRejected := false
    dtmfRejected := false
    audioIssue := .ready }

def publishMedia (engine : BaresipSipEngine width) (observed : SipRuntimeObservation)
    (reading : NativeCallMediaState) : BaresipSipEngine width :=
  let current := if observed.sip = .inCall then reading else {}
  let other :=
    engine.media.session ≠ current.session || engine.media.callId ≠ current.callId
  let holdError := if other then 0 else engine.lastHoldError
  { engine with
    destinationFeedback := engine.destinationFeedback.synchronize observed
    dtmfRejected := if other then false else engine.dtmfRejected
    lastHoldError := holdError
    muteRejected := if other then false else engine.muteRejected
    audioIssue := if other then .ready else engine.audioIssue
    media := { current with holdRequestError := holdError } }

/-- What a successful step of `begin` leaves behind. -/
def passed (engine : BaresipSipEngine width) (now : UInt64) : StartStep → BaresipSipEngine width
  | .claim => { engine with claimed := true }
  | .config => { engine with core := true }
  | .baresipInit => { engine with uaInitialized := true }
  | .uaAlloc => { engine with owned := true }
  | .adapter => { engine with deadline := now + engine.timeoutMs.toUInt64 }
  | _ => engine

/-- `tick`, up to the point where it has taken the pending command. -/
def tick (engine : BaresipSipEngine width) (reading : TickReading) :
    TickOutcome × BaresipSipEngine width :=
  if engine.failed || !engine.owned then (.skipped, engine)
  else
    let timedOut := !reading.confirmed && reading.now ≥ engine.deadline && reading.active &&
      reading.observed.sip ≠ .failed
    let engine := if timedOut then { engine with registrationTimedOut := true } else engine
    if !reading.active || reading.observed.evidence ≠ .verifiedNativeApi ||
        reading.observed.sip = .failed || timedOut then (.failed, engine.fail)
    else
      let deadline :=
        if reading.confirmed then uint64Max
        else if engine.deadline = uint64Max then reading.now + engine.timeoutMs.toUInt64
        else engine.deadline
      let engine := { engine with deadline := deadline }.publishMedia reading.observed reading.media
      (.taken, { engine with view := reading.observed, command := {} })

def affected (engine : BaresipSipEngine width) : CallEffect → BaresipSipEngine width
  | .applied => engine
  | .lost => engine.fail
  | .dtmf error => { engine with dtmfRejected := error ≠ 0 }
  | .muted applied => { engine with muteRejected := !applied }
  | .held error => { engine with lastHoldError := error }

/-- The rest of `tick`. -/
def carryOut (engine : BaresipSipEngine width) (observed : SipRuntimeObservation) :
    CommandFate → BaresipSipEngine width
  | .ignored => engine
  | .audioRefused audio => { engine with audioIssue := audio }
  | .dispatched audio effect media =>
      ({ engine with audioIssue := audio }.affected effect).publishMedia observed media

def rejectConfiguration (engine : BaresipSipEngine width) : BaresipSipEngine width :=
  { engine with
    password := []
    configured := false
    view := { process := .failed, sip := .failed }
    command := {}
    media := {}
    policySelected := false
    tlsRequired := false
    audioRoute := {}
    destinationFeedback := engine.destinationFeedback.clear
    sdkError := 0
    sdkStage := ""
    startRejected := false
    configureRejected := true
    registrationTimedOut := false }

/-- The `end` of the owner's thread, which reads the fault of the reactor. -/
def ended (engine : BaresipSipEngine width) (fault : LibreReactorFault) : BaresipSipEngine width :=
  { engine with
    uaInitialized := false
    owned := false
    core := if engine.claimed then false else engine.core
    claimed := false
    password := []
    view :=
      if (engine.failed || fault ≠ .none) && engine.view.process ≠ .stopping then
        { process := .failed, sip := .failed }
      else { process := .stopped, sip := .disconnected }
    destinationFeedback := engine.destinationFeedback.clear
    command := {}
    media := {}
    lastHoldError := 0
    muteRejected := false
    dtmfRejected := false
    audioIssue := .ready }

/-- What `configure_authenticated` does once the password has been copied. -/
def committed (engine : BaresipSipEngine width) (request : ConfigureRequest width) :
    BaresipSipEngine width :=
  { engine with
    password := request.password
    account := request.account
    config := request.config
    audioRoute := request.audio
    audioIssue := .ready
    policySelected := true
    tlsRequired := request.account.useTls
    destinationFeedback := engine.destinationFeedback.clear
    startRejected := false
    configureRejected := false
    sdkError := 0
    sdkStage := ""
    registrationTimedOut := false
    view := { process := .stopped, sip := .disconnected }
    configured := true
    timeoutMs := request.timeout }

/-- `register_account`, before it starts the reactor. -/
def registering (engine : BaresipSipEngine width) : BaresipSipEngine width :=
  { engine with
    configured := false
    failed := false
    sdkError := 0
    sdkStage := ""
    registrationTimedOut := false
    destinationFeedback := engine.destinationFeedback.clear
    startRejected := false
    configureRejected := false
    view := { process := .running, sip := .registering } }

/-- `register_account`, once a reactor that did not start has been joined. -/
def startFailed (engine : BaresipSipEngine width) : BaresipSipEngine width :=
  { engine with
    password := []
    view := { process := .failed, sip := .failed }
    command := {}
    media := {}
    startRejected := true }

def stopping (engine : BaresipSipEngine width) : BaresipSipEngine width :=
  { engine with view := { process := .stopping, sip := .disconnected }, command := {} }

/-- `stop`, once the reactor has been joined. -/
def stopped (engine : BaresipSipEngine width) : BaresipSipEngine width :=
  { engine with
    configured := false
    password := []
    view := { process := .stopped, sip := .disconnected }
    media := {}
    lastHoldError := 0
    muteRejected := false
    dtmfRejected := false
    audioRoute := {}
    audioIssue := .ready
    policySelected := false
    tlsRequired := false
    destinationFeedback := engine.destinationFeedback.clear
    startRejected := false
    configureRejected := false
    sdkError := 0
    sdkStage := ""
    registrationTimedOut := false }

/-- The argument tells whether the controls that the action needs are current. -/
def submit (engine : BaresipSipEngine width) (command : NativeCallCommand) (current : Bool) :
    Bool × BaresipSipEngine width :=
  if engine.view.process ≠ .running || engine.command.action ≠ .none || !current then
    (false, engine)
  else
    (true, { engine with
      destinationFeedback := engine.destinationFeedback.clear
      command := { command with session := engine.view.session, callId := engine.view.callId } })

end BaresipSipEngine

structure LibreReactorSnapshot where
  running : Bool := false
  generation : UInt64 := 0
  ticks : UInt64 := 0
  fault : LibreReactorFault := .none
  deriving DecidableEq, Repr

/-- Where the thread of the reactor stands. -/
inductive OwnerPoint where
  /-- There is no thread to join. -/
  | absent
  | initializing
  | queueing
  | calling (step : StartStep)
  /-- The native call of this step has returned its error. -/
  | checking (step : StartStep) (error : Int32)
  | began
  | threw
  | looping
  /-- A tick has taken the pending command. -/
  | commanding (observed : SipRuntimeObservation)
  | leaving
  | closing
  | finished

structure BaresipNativeLibreReactor where
  status : LibreReactorSnapshot := {}
  ready : Bool := false
  ending : Bool := true
  worker : OwnerPoint := .absent

namespace BaresipNativeLibreReactor

def publishReady (reactor : BaresipNativeLibreReactor) (running : Bool)
    (fault : LibreReactorFault) : BaresipNativeLibreReactor :=
  let generation := reactor.status.generation
  { reactor with
    ready := true
    status := { reactor.status with
      running := running
      fault := fault
      generation := if running && generation ≠ uint64Max then generation + 1 else generation } }

/-- Only the first fault is kept. -/
def faulted (reactor : BaresipNativeLibreReactor) (fault : LibreReactorFault) :
    BaresipNativeLibreReactor :=
  if reactor.status.fault = .none then
    { reactor with status := { reactor.status with fault := fault } }
  else reactor

def moved (reactor : BaresipNativeLibreReactor) (point : OwnerPoint) : BaresipNativeLibreReactor :=
  { reactor with worker := point }

/-- The end of `tick_on_owner`. -/
def ticked (reactor : BaresipNativeLibreReactor) : BaresipNativeLibreReactor :=
  { reactor with
    status := { reactor.status with ticks := reactor.status.ticks + 1 }
    worker := .looping }

/-- A tick that throws cancels the loop. -/
def hookFailed (reactor : BaresipNativeLibreReactor) : BaresipNativeLibreReactor :=
  { reactor.faulted .hookFailed with ending := true, worker := .looping }

/-- `start`, up to the wait for the thread; the argument tells whether one can be created. -/
def start (reactor : BaresipNativeLibreReactor) (created : Bool) :
    Bool × BaresipNativeLibreReactor :=
  match reactor.worker with
  | .absent =>
      let status := { reactor.status with running := false, ticks := 0, fault := .none }
      (created, { status := status, ready := false, ending := false
                  worker := if created then .initializing else .absent })
  | _ => (false, reactor)

end BaresipNativeLibreReactor

/-! ## The host -/

inductive StopPurpose where
  /-- A registration whose reactor did not start. -/
  | startFailed
  | stop
  deriving DecidableEq, Repr

/-- Where the thread of the user interface stands. -/
inductive CallerPoint (width : WCharWidth) where
  | idle
  | preparing (request : ConfigureRequest width)
  | rejecting
  | starting
  | waiting
  | stopping (purpose : StopPurpose)
  | joining (purpose : StopPurpose)
  | joined (purpose : StopPurpose)

structure EngineHost (width : WCharWidth) where
  engine : BaresipSipEngine width := {}
  reactor : BaresipNativeLibreReactor := {}
  caller : CallerPoint width := .idle

/-- What a native call of `begin` comes to. -/
inductive NativeAnswer where
  | returned (error : Int32)
  | threw

/-- What the thread of the reactor does next. -/
inductive OwnerMove where
  | initialized (error : Int32)
  | queued (error : Int32)
  | answered (answer : NativeAnswer)
  /-- Whether the text of a failed step can be stored, and the time. -/
  | checked (stored : Bool) (now : UInt64)
  | published
  /-- Nothing where the tick throws. -/
  | ticked (reading : Option TickReading)
  | commanded (fate : Option CommandFate)
  | left (error : Int32)
  | ended
  | closed

inductive EngineMove (width : WCharWidth) where
  | configure (account : SipAccount width)
  | configureAuthenticated (request : ConfigureRequest width)
  | registerAccount
  | stop
  | submit (command : NativeCallCommand) (current : Bool)
  /-- A call goes on; its allocations may fail, the copy of the password or the thread. -/
  | resume (prepared copied created : Bool)
  | owner (move : OwnerMove)

/-- A configuration that is not accepted was answered with false. -/
inductive ConfigureAnswer where
  | accepted
  | rejected
  | running
  deriving DecidableEq, Repr

/-- A registration that is not accepted was answered with false. -/
inductive RegisterAnswer where
  | accepted
  | refused
  | failed
  deriving DecidableEq, Repr

inductive EngineObserved where
  | nothing
  | configured (answer : ConfigureAnswer)
  /-- `register_account` has found a configuration and used it up. -/
  | registering
  /-- `start` of the reactor has been called. -/
  | started
  | registered (answer : RegisterAnswer)
  | stopped
  | submitted (accepted : Bool)
  /-- The password has been handed to the SDK. -/
  | handed
  /-- The engine has failed. -/
  | failed
  /-- The thread of the reactor has ended the SDK. -/
  | ended
  deriving DecidableEq, Repr

namespace EngineHost

def configure (host : EngineHost width) : EngineObserved × EngineHost width :=
  if host.reactor.status.running then (.configured .running, host)
  else (.nothing, { host with caller := .rejecting })

def configureAuthenticated (host : EngineHost width) (request : ConfigureRequest width) :
    EngineObserved × EngineHost width :=
  if host.reactor.status.running then (.configured .running, host)
  else (.nothing, { host with caller := .preparing request })

/-- `configure_authenticated`, past its first check. -/
def prepared (host : EngineHost width) (request : ConfigureRequest width)
    (prepared copied : Bool) : EngineObserved × EngineHost width :=
  if !prepared || !request.acceptable then (.nothing, { host with caller := .rejecting })
  else if !copied then
    -- The old password is gone before the new one is copied.
    (.nothing, { host with engine := { host.engine with password := [] }, caller := .rejecting })
  else
    (.configured .accepted, { host with engine := host.engine.committed request, caller := .idle })

def registerAccount (host : EngineHost width) : EngineObserved × EngineHost width :=
  if !host.engine.configured || host.reactor.status.running then (.registered .refused, host)
  else (.registering, { host with engine := host.engine.registering, caller := .starting })

def started (host : EngineHost width) (created : Bool) : EngineObserved × EngineHost width :=
  let (launched, reactor) := host.reactor.start created
  (.started, { host with
    reactor := reactor
    caller := if launched then .waiting else .stopping .startFailed })

/-- The wait of `start` for its thread. -/
def awaited (host : EngineHost width) : EngineObserved × EngineHost width :=
  if !host.reactor.ready then (.nothing, host)
  else if host.reactor.status.running then
    (.registered .accepted, { host with caller := .idle })
  else (.nothing, { host with caller := .stopping .startFailed })

/-- `stop` of the reactor, which has nothing to join where there is no thread. -/
def reactorStopping (host : EngineHost width) (purpose : StopPurpose) :
    EngineObserved × EngineHost width :=
  match host.reactor.worker with
  | .absent => (.nothing, { host with caller := .joined purpose })
  | _ => (.nothing,
      { host with reactor := { host.reactor with ending := true }, caller := .joining purpose })

def joining (host : EngineHost width) (purpose : StopPurpose) :
    EngineObserved × EngineHost width :=
  match host.reactor.worker with
  | .finished =>
      (.nothing, { host with reactor := host.reactor.moved .absent, caller := .joined purpose })
  | _ => (.nothing, host)

def joined (host : EngineHost width) : StopPurpose → EngineObserved × EngineHost width
  | .startFailed =>
      (.registered .failed, { host with engine := host.engine.startFailed, caller := .idle })
  | .stop => (.stopped, { host with engine := host.engine.stopped, caller := .idle })

/-- The calling thread goes on from where it stands. -/
def resume (host : EngineHost width) (prepared copied created : Bool) :
    EngineObserved × EngineHost width :=
  match host.caller with
  | .idle => (.nothing, host)
  | .preparing request => host.prepared request prepared copied
  | .rejecting =>
      (.configured .rejected,
        { host with engine := host.engine.rejectConfiguration, caller := .idle })
  | .starting => host.started created
  | .waiting => host.awaited
  | .stopping purpose => host.reactorStopping purpose
  | .joining purpose => host.joining purpose
  | .joined purpose => host.joined purpose

/-- A native call of `begin` returns; the password is erased once the SDK has it. -/
def answered (host : EngineHost width) (step : StartStep) :
    NativeAnswer → EngineObserved × EngineHost width
  | .threw => (.nothing, { host with reactor := (host.reactor.faulted .hookFailed).moved .threw })
  | .returned error =>
      let reactor := host.reactor.moved (.checking step error)
      if step = .auth then
        (.handed, { host with engine := { host.engine with password := [] }, reactor := reactor })
      else (.nothing, { host with reactor := reactor })

/-- `checked`, which may throw before it comes to `fail`. -/
def checked (host : EngineHost width) (step : StartStep) (error : Int32) (stored : Bool)
    (now : UInt64) : EngineObserved × EngineHost width :=
  if error = 0 then
    let point := match step.next with
      | some next => .calling next
      | none => .began
    (.nothing,
      { host with engine := host.engine.passed now step, reactor := host.reactor.moved point })
  else
    let failing := host.reactor.moved .began
    match step.stage with
    | none => (.failed, { host with engine := host.engine.fail, reactor := failing })
    | some stage =>
        let engine := { host.engine with sdkError := error }
        if stored then
          (.failed,
            { host with engine := { engine with sdkStage := stage }.fail, reactor := failing })
        else
          (.nothing,
            { host with
              engine := engine
              reactor := (host.reactor.faulted .hookFailed).moved .threw })

def ticked (host : EngineHost width) : Option TickReading → EngineObserved × EngineHost width
  | none => (.nothing, { host with reactor := host.reactor.hookFailed })
  | some reading =>
      let (outcome, engine) := host.engine.tick reading
      match outcome with
      | .skipped => (.nothing, { host with engine := engine, reactor := host.reactor.ticked })
      | .failed => (.failed, { host with engine := engine, reactor := host.reactor.ticked })
      | .taken =>
          (.nothing, { host with
            engine := engine
            reactor := host.reactor.moved (.commanding reading.observed) })

def commanded (host : EngineHost width) (observed : SipRuntimeObservation) :
    Option CommandFate → EngineObserved × EngineHost width
  | none => (.nothing, { host with reactor := host.reactor.hookFailed })
  | some fate =>
      let seen := match fate with
        | .dispatched _ .lost _ => .failed
        | _ => .nothing
      (seen,
        { host with engine := host.engine.carryOut observed fate, reactor := host.reactor.ticked })

/-- The main loop returns, with an error or after it was cancelled. -/
def left (host : EngineHost width) (error : Int32) : EngineObserved × EngineHost width :=
  let reactor := if error = 0 then host.reactor else host.reactor.faulted .mainLoopFailed
  (.nothing, { host with reactor := reactor.moved .leaving })

def ended (host : EngineHost width) : EngineObserved × EngineHost width :=
  (.ended, { host with
    engine := host.engine.ended host.reactor.status.fault
    reactor := { host.reactor with ending := true, worker := .closing } })

/-- The thread of the reactor, from its start to its end. -/
def run (host : EngineHost width) (move : OwnerMove) : EngineObserved × EngineHost width :=
  match host.reactor.worker, move with
  | .initializing, .initialized error =>
      if error = 0 then (.nothing, { host with reactor := host.reactor.moved .queueing })
      else
        (.nothing,
          { host with reactor := (host.reactor.publishReady false .initRejected).moved .finished })
  | .queueing, .queued error =>
      if error = 0 then (.nothing, { host with reactor := host.reactor.moved (.calling .claim) })
      else
        (.nothing,
          { host with reactor := (host.reactor.publishReady false .queueRejected).moved .finished })
  | .calling step, .answered answer => host.answered step answer
  | .checking step error, .checked stored now => host.checked step error stored now
  | .began, .published =>
      (.nothing, { host with reactor := (host.reactor.publishReady true .none).moved .looping })
  | .threw, .published =>
      (.nothing,
        { host with reactor := (host.reactor.publishReady false .hookFailed).moved .leaving })
  | .looping, .ticked reading =>
      if host.reactor.ending then (.nothing, host) else host.ticked reading
  | .commanding observed, .commanded fate => host.commanded observed fate
  | .looping, .left error => host.left error
  | .leaving, .ended => host.ended
  | .closing, .closed =>
      (.nothing, { host with
        reactor := { host.reactor with
          status := { host.reactor.status with running := false }
          worker := .finished } })
  | _, _ => (.nothing, host)

/-- The calls of the interface follow one another. -/
def call (host : EngineHost width) (called : EngineObserved × EngineHost width) :
    EngineObserved × EngineHost width :=
  match host.caller with
  | .idle => called
  | _ => (.nothing, host)

end EngineHost

def engineStep (host : EngineHost width) :
    EngineMove width → EngineObserved × EngineHost width
  | .configure _ => host.call host.configure
  | .configureAuthenticated request => host.call (host.configureAuthenticated request)
  | .registerAccount => host.call host.registerAccount
  | .stop =>
      host.call (.nothing,
        { host with engine := host.engine.stopping, caller := .stopping .stop })
  | .submit command current =>
      let (accepted, engine) := host.engine.submit command current
      host.call (.submitted accepted, { host with engine := engine })
  | .resume prepared copied created => host.resume prepared copied created
  | .owner move => host.run move

abbrev EngineStage (width : WCharWidth) :=
  Stage (EngineHost width) (EngineMove width) EngineObserved

end AxeVoice.Native
