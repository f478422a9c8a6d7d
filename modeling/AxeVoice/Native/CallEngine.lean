import AxeVoice.Native.CallPort
import AxeVoice.Native.EngineAccount

/-!
# The calls of the native engine

The thread of the user interface leaves one command for the owner of the event
loop, after it has compared what the user was shown with what the owner has
published.  The owner projects the native events in its ticks, publishes what it
observes, takes the command and has the call port carry it out.  A step is what
either thread does under one lock, or the owner up to a call of the SDK.
-/

namespace AxeVoice.Native

open Audio Foundation Sip

variable {width : WCharWidth}

def nativeMediaControlsCurrent (media : NativeCallMediaState) (call : SipRuntimeObservation) :
    Bool :=
  media.available && media.callId ≠ 0 && media.callId = call.callId && call.sip = .inCall &&
    sipProofIsCurrent call media.session

def nativeDtmfControlsCurrent (media : NativeCallMediaState) (call : SipRuntimeObservation) :
    Bool :=
  nativeMediaControlsCurrent media call && !media.localHold && media.transfer = .none

def nativeDisplayedCallCommandCurrent (action : NativeCallAction)
    (displayed current : SipRuntimeObservation) : Bool :=
  if action ≠ .answer && action ≠ .hangup then false
  else
    let command : NativeCallCommand :=
      { action := action, session := displayed.session, callId := displayed.callId }
    nativeCommandIsCurrent command displayed && nativeCommandIsCurrent command current

/-- The arguments of `submit`. -/
structure CallRequest where
  action : NativeCallAction
  uri : Bytes := []
  desired : Bool := false
  /-- The media state that the controls were shown for. -/
  expected : Option NativeCallMediaState := none
  displayed : Option SipRuntimeObservation := none
  deriving DecidableEq

namespace CallRequest

/-- The media state that is expected and the one that is published are both current. -/
def controlled (request : CallRequest) (engine : BaresipSipEngine width)
    (current : NativeCallMediaState → SipRuntimeObservation → Bool) : Bool :=
  match request.expected with
  | none => false
  | some expected => current expected engine.view && current engine.media engine.view

/-- What is displayed, and what is published, is current for the action. -/
def displays (request : CallRequest) (engine : BaresipSipEngine width) : Bool :=
  match request.displayed with
  | none => false
  | some displayed => nativeDisplayedCallCommandCurrent request.action displayed engine.view

/-- The guards of `submit` that depend on the action. -/
def current (request : CallRequest) (engine : BaresipSipEngine width) : Bool :=
  match request.action with
  | .none => true
  | .dial => engine.view.sip = .registered
  | .answer => engine.view.sip = .ringing && request.displays engine
  | .hangup => engine.view.callId ≠ 0 && request.displays engine
  | .setMute | .setHold => request.controlled engine nativeMediaControlsCurrent
  | .transfer =>
      request.controlled engine nativeMediaControlsCurrent && engine.media.transfer = .none
  | .dtmf =>
      request.controlled engine nativeDtmfControlsCurrent && match request.uri with
        | [key] => validNativeDtmfKey key
        | _ => false

def command (request : CallRequest) : NativeCallCommand :=
  { action := request.action, destination := request.uri, desired := request.desired }

end CallRequest

/-- Where the owner stands. -/
inductive EnginePoint where
  /-- Between ticks, or in its event loop. -/
  | idle
  /-- Behind the checks of a tick on what it observes. -/
  | publishing (observed : SipRuntimeObservation) (port : BaresipSdkCallPort)
  /-- The media of the call are published. -/
  | taking (observed : SipRuntimeObservation) (port : BaresipSdkCallPort)
  /-- The observation is published, and the command taken. -/
  | checking (observed : SipRuntimeObservation) (port : BaresipSdkCallPort)
      (pending : NativeCallCommand)
  /-- The command is admitted. -/
  | dispatching (observed : SipRuntimeObservation) (port : BaresipSdkCallPort)
      (pending : NativeCallCommand)
  /-- Inside the SDK. -/
  | calling (observed : SipRuntimeObservation) (port : BaresipSdkCallPort)
      (pending : NativeCallCommand)
  /-- Before the media of the call are published once more. -/
  | republishing (observed : SipRuntimeObservation) (port : BaresipSdkCallPort)
  /-- The adapter is stopped; a failed dispatch still publishes the media. -/
  | failing (next : Option (SipRuntimeObservation × BaresipSdkCallPort))
  | ending (fault : LibreReactorFault)
  deriving DecidableEq

structure CallEngine (width : WCharWidth) where
  sdk : SdkRun := {}
  engine : BaresipSipEngine width := {}
  admission : NativeCommandAdmission := {}
  point : EnginePoint := .idle

/-- What a step of the owner learns from the SDK, the clock and the devices. -/
structure TickAnswers (width : WCharWidth) where
  /-- The answers of `ua_isregistered`, in their order. -/
  uaIsregistered : ℕ → Bool
  now : UInt64
  call : CallAnswers
  inventory : AudioInventory width
  /-- What the call of the SDK has returned. -/
  error : Int32
  /-- `audio_ismuted` behind `audio_mute`. -/
  muted : Bool

/-- What the other functions of the interface do to the shared state. -/
inductive UiSection (width : WCharWidth) where
  | rejectConfiguration
  | committed (request : ConfigureRequest width)
  | registering
  | startFailed
  | stopping
  | stopped
  /-- A destination that was typed is judged. -/
  | recorded (error : NativeDestinationError)

inductive CallMove (width : WCharWidth) where
  | submit (request : CallRequest)
  | ui (step : UiSection width)
  /-- `begin`, from the start of the adapter. -/
  | begin (ownedUa : Address) (outcome : StartOutcome) (now : UInt64)
  /-- A native step of `begin` fails. -/
  | beginFails
  | tick (answers : TickAnswers width)
  /-- The owner goes on with its tick. -/
  | owner (answers : TickAnswers width)
  /-- The tick throws. -/
  | throws
  | deliver (delivery : Delivery) (context : Option ℕ)
  | ends (fault : LibreReactorFault)

inductive CallObserved where
  | nothing
  | submitted (accepted : Bool)
  | took (command : NativeCallCommand)
  /-- `ua_connect` is called. -/
  | dials
  /-- The port is asked for an action on a call. -/
  | invoked (action : NativeCallAction) (session token : UInt64)
  deriving DecidableEq

namespace CallEngine

def withAdapter (state : CallEngine width) (adapter : BaresipSdkEventAdapter) : CallEngine width :=
  { state with sdk := { state.sdk with adapter := adapter } }

/-- `fail`, up to its lock. -/
def enterFail (state : CallEngine width)
    (next : Option (SipRuntimeObservation × BaresipSdkCallPort)) : CallEngine width :=
  { state.withAdapter state.sdk.adapter.stop with
    engine := { state.engine with password := [], failed := true, owned := false }
    point := .failing next }

/-- A drain of the mailbox into the projection. -/
def drained (state : CallEngine width) (uaIsregistered : Bool) :
    SipRuntimeObservation × CallEngine width :=
  let (batch, mailbox) := state.sdk.adapter.mailbox.drain
  let (observed, projection) := projectNativeSdkBatch state.sdk.projection batch
    (state.sdk.adapter.nativeRegisterOkSeen uaIsregistered)
  (observed, { state with
    sdk := { adapter := state.sdk.adapter.withMailbox mailbox, projection := projection } })

/-- The deadline, where the checks of a tick are passed. -/
def nextDeadline (state : CallEngine width) (answers : TickAnswers width) : UInt64 :=
  if state.sdk.adapter.nativeRegisterOkSeen (answers.uaIsregistered 2) then uint64Max
  else if state.engine.deadline = uint64Max then answers.now + state.engine.timeoutMs.toUInt64
  else state.engine.deadline

/-- The checks of a tick on what it observes. -/
def judge (state : CallEngine width) (observed : SipRuntimeObservation)
    (answers : TickAnswers width) : CallEngine width :=
  let timedOut := !state.sdk.adapter.nativeRegisterOkSeen (answers.uaIsregistered 1) &&
    answers.now ≥ state.engine.deadline && state.sdk.adapter.active && observed.sip ≠ .failed
  let noted := { state with engine := { state.engine with
    registrationTimedOut := state.engine.registrationTimedOut || timedOut } }
  if !state.sdk.adapter.active || observed.evidence ≠ .verifiedNativeApi ||
      observed.sip = .failed || timedOut then noted.enterFail none
  else
    { noted with
      engine := { noted.engine with deadline := state.nextDeadline answers }
      point := .publishing observed (.of state.sdk.adapter) }

/-- `tick`, up to the publication of the media. -/
def beginTick (state : CallEngine width) (answers : TickAnswers width) : CallEngine width :=
  if state.engine.failed || !state.engine.owned then state
  else
    let (observed, drained) := state.drained (answers.uaIsregistered 0)
    drained.judge observed answers

def publishMedia (state : CallEngine width) (observed : SipRuntimeObservation)
    (port : BaresipSdkCallPort) (answers : CallAnswers) : CallEngine width :=
  let reading := port.mediaState state.sdk.adapter answers observed.callId
  { state with engine := state.engine.publishMedia observed reading }

/-- The checks of the command that a tick has taken. -/
def check (state : CallEngine width) (ctype : WideCtype width) (observed : SipRuntimeObservation)
    (port : BaresipSdkCallPort) (pending : NativeCallCommand) (answers : TickAnswers width) :
    CallEngine width :=
  if !state.sdk.adapter.nativeRegisterOkSeen (answers.uaIsregistered 0) ||
      !nativeCommandIsCurrent pending observed then { state with point := .idle }
  else if pending.action = .transfer && !validNativeTransferUri ctype pending.destination then
    { state with point := .idle }
  else
    let inventory : AudioInventory width :=
      if nativeCommandNeedsAudioPreflight pending then answers.inventory else {}
    let (decision, admission) := admitNativeAudioCommand state.admission pending observed
      state.engine.audioRoute inventory
    { state with
      engine := { state.engine with audioIssue := decision.audio }
      admission := admission
      point := if decision.allowed then .dispatching observed port pending else .idle }

/-- The port calls the SDK, with its note in the adapter. -/
def enterSdk (state : CallEngine width) (adapter : BaresipSdkEventAdapter)
    (observed : SipRuntimeObservation) (port : BaresipSdkCallPort) (pending : NativeCallCommand) :
    CallEngine width :=
  { state.withAdapter adapter with point := .calling observed port pending }

/-- The port has refused without a call of the SDK, or the SDK has answered. -/
def concluded (state : CallEngine width) (observed : SipRuntimeObservation)
    (port : BaresipSdkCallPort) : CallEffect → CallEngine width
  | .lost => state.enterFail (some (observed, port))
  | effect =>
      { state with engine := state.engine.affected effect, point := .republishing observed port }

/-- A command whose answer tells only whether the SDK was called. -/
def asked (state : CallEngine width) (observed : SipRuntimeObservation) (port : BaresipSdkCallPort)
    (pending : NativeCallCommand) (refused : CallEffect) :
    Option BaresipSdkEventAdapter → CallEngine width
  | none => state.concluded observed port refused
  | some adapter => state.enterSdk adapter observed port pending

/-- The action of an admitted command. -/
def dispatch (state : CallEngine width) (ctype : WideCtype width) (observed : SipRuntimeObservation)
    (port : BaresipSdkCallPort) (pending : NativeCallCommand) (answers : TickAnswers width) :
    CallObserved × CallEngine width :=
  let token := observed.callId
  let invoked := CallObserved.invoked pending.action port.capturedSession token
  let adapter := state.sdk.adapter
  let passed := { state with point := EnginePoint.republishing observed port }
  match pending.action with
  | .none => (.nothing, passed)
  | .dial =>
      if observed.sip = .registered && token = 0 then
        (.dials, { state with point := .calling observed port pending })
      else (.nothing, passed)
  | .answer =>
      if observed.sip = .ringing then
        (invoked, state.asked observed port pending .lost (port.answer adapter answers.call token))
      else (.nothing, passed)
  | .hangup =>
      if token ≠ 0 then
        (invoked, state.asked observed port pending .lost (port.hangup adapter answers.call token))
      else (.nothing, passed)
  | .dtmf =>
      (invoked,
        match port.sendDtmfInfo adapter answers.call token (pending.destination.headD 0) with
        | .error error => state.concluded observed port (.dtmf error)
        | .ok adapter => state.enterSdk adapter observed port pending)
  | .transfer =>
      (invoked,
        match port.transfer adapter ctype answers.call token pending.destination with
        | .error _ => passed
        | .ok adapter => state.enterSdk adapter observed port pending)
  | .setMute =>
      (invoked,
        state.asked observed port pending (.muted false) (port.setMuted adapter answers.call token))
  | .setHold =>
      let before := port.mediaState adapter answers.call token
      if before.available && before.localHold ≠ pending.desired then
        (invoked,
          match port.setHeld adapter answers.call token pending.desired with
          | .error error => state.concluded observed port (.held error)
          | .ok adapter => state.enterSdk adapter observed port pending)
      else (.nothing, passed)

/-- The SDK returns, whatever it has called back meanwhile. -/
def returned (state : CallEngine width) (observed : SipRuntimeObservation)
    (port : BaresipSdkCallPort) (pending : NativeCallCommand) (answers : TickAnswers width) :
    CallEngine width :=
  match pending.action with
  | .none => state.concluded observed port .applied
  | .dial | .answer => state.concluded observed port (if answers.error ≠ 0 then .lost else .applied)
  | .hangup => state.concluded observed port .applied
  | .dtmf => state.concluded observed port (.dtmf answers.error)
  | .transfer =>
      (state.withAdapter (port.transferred state.sdk.adapter (answers.uaIsregistered 0)
        observed.callId answers.error)).concluded observed port .applied
  | .setMute => state.concluded observed port (.muted (answers.muted = pending.desired))
  | .setHold => state.concluded observed port (.held answers.error)

/-- The next step of the owner. -/
def ownerStep (state : CallEngine width) (ctype : WideCtype width) (answers : TickAnswers width) :
    CallObserved × CallEngine width :=
  match state.point with
  | .idle => (.nothing, state)
  | .publishing observed port =>
      (.nothing, { state.publishMedia observed port answers.call with
        point := .taking observed port })
  | .taking observed port =>
      (.took state.engine.command, { state with
        engine := { state.engine with view := observed, command := {} }
        point := .checking observed port state.engine.command })
  | .checking observed port pending =>
      (.nothing, state.check ctype observed port pending answers)
  | .dispatching observed port pending => state.dispatch ctype observed port pending answers
  | .calling observed port pending => (.nothing, state.returned observed port pending answers)
  | .republishing observed port =>
      (.nothing, { state.publishMedia observed port answers.call with point := .idle })
  | .failing next =>
      (.nothing, { state with
        engine := state.engine.fail
        point := match next with
          | none => .idle
          | some (observed, port) => .republishing observed port })
  | .ending fault => (.nothing, { state with engine := state.engine.ended fault, point := .idle })

/-- Native events may arrive: the owner runs its event loop, or waits in the SDK. -/
def listening (state : CallEngine width) : Bool :=
  match state.point with
  | .idle | .calling .. | .failing _ | .ending _ => true
  | _ => false

def uiStep (state : CallEngine width) : UiSection width → BaresipSipEngine width
  | .rejectConfiguration => state.engine.rejectConfiguration
  | .committed request => state.engine.committed request
  | .registering => state.engine.registering
  | .startFailed => state.engine.startFailed
  | .stopping => state.engine.stopping
  | .stopped => state.engine.stopped
  | .recorded error =>
      { state.engine with destinationFeedback :=
          ⟨error, state.engine.view.session, state.engine.view.callId⟩ }

def beginAdapter (state : CallEngine width) (ownedUa : Address) (outcome : StartOutcome)
    (now : UInt64) : CallEngine width :=
  let (started, adapter) := state.sdk.adapter.start ownedUa outcome
  let state := state.withAdapter adapter
  if !started then state.enterFail none
  else
    { state with engine := { state.engine with
        owned := true
        deadline := now + state.engine.timeoutMs.toUInt64 } }

end CallEngine

/-- The threads' steps; what only a resting owner begins does nothing elsewhere. -/
def callStep (ctype : WideCtype width) (state : CallEngine width) :
    CallMove width → CallObserved × CallEngine width
  | .submit request =>
      let (accepted, engine) := state.engine.submit request.command (request.current state.engine)
      (.submitted accepted, { state with engine := engine })
  | .ui step => (.nothing, { state with engine := state.uiStep step })
  | .begin ownedUa outcome now =>
      if state.point ≠ .idle then (.nothing, state)
      else (.nothing, state.beginAdapter ownedUa outcome now)
  | .beginFails =>
      if state.point ≠ .idle then (.nothing, state) else (.nothing, state.enterFail none)
  | .tick answers =>
      if state.point ≠ .idle then (.nothing, state) else (.nothing, state.beginTick answers)
  | .owner answers => state.ownerStep ctype answers
  | .throws => (.nothing, { state with point := .idle })
  | .deliver delivery context =>
      if !state.listening then (.nothing, state)
      else (.nothing, state.withAdapter (state.sdk.adapter.callback delivery.type delivery.event
        context delivery.uaIsregistered))
  | .ends fault =>
      if state.point ≠ .idle then (.nothing, state)
      else (.nothing, { state.withAdapter state.sdk.adapter.stop with point := .ending fault })

abbrev CallStage (width : WCharWidth) := Stage (CallEngine width) (CallMove width) CallObserved

end AxeVoice.Native
