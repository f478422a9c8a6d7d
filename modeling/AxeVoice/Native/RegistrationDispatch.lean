import AxeVoice.Foundation.Reactive
import AxeVoice.Native.Agreement
import AxeVoice.Native.RegistrationQueue

/-!
# The dispatcher of registration commands

The owner of the event loop drains the queue in its ticks and lets the gateway
register the selected account.  Other threads use the queue between any two
steps of a tick, and native events arrive while the owner waits in
`ua_register` or `ua_unregister`, or between its ticks.
-/

namespace AxeVoice.Native

open AxeVoice.Sip
open AxeVoice.Foundation

inductive RegistrationDeadlineVerdict where
  | unarmed
  | pending
  | callbackConfirmed
  | expired
  | clockRegressed
  | sessionRevoked
  | wrongEventLoopThread
  deriving DecidableEq, Repr

structure RegistrationDeadline where
  armed : Bool := false
  session : UInt64 := 0
  startedMs : UInt64 := 0
  maxWaitMs : UInt64 := 0
  deriving DecidableEq, Repr

namespace RegistrationDeadline

def arm (deadline : RegistrationDeadline) (session monotonicMs maxWaitMs : UInt64) :
    Bool × RegistrationDeadline :=
  if session = 0 || maxWaitMs = 0 || deadline.armed then (false, deadline)
  else (true, ⟨true, session, monotonicMs, maxWaitMs⟩)

def check (deadline : RegistrationDeadline) (session monotonicMs : UInt64)
    (nativeCallbackConfirmed : Bool) : RegistrationDeadlineVerdict :=
  if !deadline.armed then .unarmed
  else if session ≠ deadline.session || session = 0 then .sessionRevoked
  else if monotonicMs < deadline.startedMs then .clockRegressed
  else if monotonicMs - deadline.startedMs ≥ deadline.maxWaitMs then .expired
  else if nativeCallbackConfirmed then .callbackConfirmed
  else .pending

end RegistrationDeadline

inductive NativeRegistrationSubmission where
  | invalidAccount
  | bridgeUnavailable
  | submissionRejected
  | submitted
  | alreadySubmitted
  | nativeSessionRevoked
  | wrongEventLoopThread
  deriving DecidableEq, Repr

/-- The gateway, together with the bridge that it refers to. -/
structure BaresipSdkRegistrationGateway where
  bridge : BaresipSdkEventAdapter := {}
  owner : Address := 0
  deadline : RegistrationDeadline := {}

namespace BaresipSdkRegistrationGateway

def submitted (gateway : BaresipSdkRegistrationGateway) : Bool :=
  gateway.owner ≠ 0 && gateway.bridge.active

def session (gateway : BaresipSdkRegistrationGateway) : UInt64 :=
  if gateway.submitted then gateway.bridge.session else 0

/-- `submit` up to `ua_register`; there is no answer yet where that is called. -/
def enterSubmit (gateway : BaresipSdkRegistrationGateway) (selected : Address)
    (outcome : StartOutcome) :
    Option NativeRegistrationSubmission × BaresipSdkRegistrationGateway :=
  if gateway.owner ≠ 0 then
    (some (if gateway.bridge.active then .alreadySubmitted else .nativeSessionRevoked), gateway)
  else if selected = 0 then (some .invalidAccount, gateway)
  else
    let (started, bridge) := gateway.bridge.start selected outcome
    if !started then (some .bridgeUnavailable, { gateway with bridge := bridge })
    else (none, { gateway with bridge := bridge })

/-- `submit` from the return of `ua_register`. -/
def leaveSubmit (gateway : BaresipSdkRegistrationGateway) (selected : Address) (error : Bool) :
    NativeRegistrationSubmission × BaresipSdkRegistrationGateway :=
  if error then (.submissionRejected, { gateway with bridge := gateway.bridge.stop })
  -- `ua_register` may emit an error, a shutdown or an exit and still return zero
  else if !gateway.bridge.active then
    (.nativeSessionRevoked, { gateway with bridge := gateway.bridge.stop })
  else (.submitted, { gateway with owner := selected, deadline := {} })

def armRegistrationDeadline (gateway : BaresipSdkRegistrationGateway) (nowMs maxWaitMs : UInt64) :
    Bool × BaresipSdkRegistrationGateway :=
  if !gateway.submitted then (false, gateway)
  else
    let (armed, deadline) := gateway.deadline.arm gateway.session nowMs maxWaitMs
    (armed, { gateway with deadline := deadline })

/-- `poll_registration_deadline` up to the `stop` that a verdict of failure asks for. -/
def pollRegistrationDeadline (gateway : BaresipSdkRegistrationGateway) (nowMs : UInt64)
    (uaIsregistered : Bool) : RegistrationDeadlineVerdict × BaresipSdkRegistrationGateway :=
  let decision := gateway.deadline.check gateway.bridge.session nowMs
    (gateway.bridge.nativeRegisterOkSeen uaIsregistered)
  (decision,
    if decision = .callbackConfirmed then { gateway with deadline := {} } else gateway)

/-- `stop` calls `ua_unregister`: the callback epoch is not revoked. -/
def unregisters (gateway : BaresipSdkRegistrationGateway) : Bool :=
  gateway.owner ≠ 0 && gateway.bridge.active

/-- `stop` up to `ua_unregister`. -/
def enterStop (gateway : BaresipSdkRegistrationGateway) : BaresipSdkRegistrationGateway :=
  { gateway with deadline := {} }

/-- `stop` from the return of `ua_unregister`, or where that is not called. -/
def leaveStop (gateway : BaresipSdkRegistrationGateway) : BaresipSdkRegistrationGateway :=
  { gateway with owner := 0, bridge := gateway.bridge.stop }

end BaresipSdkRegistrationGateway

inductive RegistrationDispatchKind where
  | idle
  | submitted
  | cancelled
  | deadlineExpired
  | confirmed
  | failed
  | overflowStopped
  | wrongOwnerThread
  | staleGeneration
  | pending
  | supersededDuringDispatch
  deriving DecidableEq, Repr

structure RegistrationDispatchOutcome where
  kind : RegistrationDispatchKind := .idle
  submission : NativeRegistrationSubmission := .bridgeUnavailable
  deriving DecidableEq, Repr

/-- An outcome with the value of an empty initializer, which is that of the first name. -/
def RegistrationDispatchOutcome.of (kind : RegistrationDispatchKind) : RegistrationDispatchOutcome :=
  ⟨kind, .invalidAccount⟩

/-- The arguments of a tick, and the batch it has drained. -/
structure TickFrame where
  generation : UInt64
  monotonicMs : UInt64
  selected : Address
  batch : RegistrationBatch
  deriving DecidableEq, Repr

/-- Where the owner stands. -/
inductive TickPoint where
  /-- Between ticks. -/
  | idle
  /-- At the head of the loop, or behind it. -/
  | deciding (frame : TickFrame) (index : ℕ) (result : RegistrationDispatchOutcome)
  /-- Behind the first check. -/
  | submitting (frame : TickFrame) (index : ℕ) (command : RegistrationCommand)
  /-- Inside `ua_register`. -/
  | registering (frame : TickFrame) (index : ℕ) (command : RegistrationCommand)
  /-- The gateway has answered. -/
  | submitted (frame : TickFrame) (index : ℕ) (command : RegistrationCommand)
      (submission : NativeRegistrationSubmission)
  /-- Behind the second check. -/
  | arming (frame : TickFrame) (index : ℕ) (command : RegistrationCommand)
      (submission : NativeRegistrationSubmission)
  /-- The deadline is armed. -/
  | armed (frame : TickFrame) (index : ℕ) (submission : NativeRegistrationSubmission)
  /-- Before the gateway's `stop`, outside a tick where no outcome follows. -/
  | stopping (next : Option RegistrationDispatchOutcome)
  /-- Inside `ua_unregister`. -/
  | unregistering (next : Option RegistrationDispatchOutcome)
  /-- Before the queue is invalidated. -/
  | invalidating (outcome : RegistrationDispatchOutcome)
  | returning (outcome : RegistrationDispatchOutcome)
  deriving DecidableEq, Repr

/-- The queue, and what the owner of the event loop has. -/
structure RegistrationHost where
  queue : RegistrationCommandQueue := {}
  gateway : BaresipSdkRegistrationGateway := {}
  point : TickPoint := .idle

/-- What the SDK answers to the calls of one step of the owner. -/
structure SdkAnswers where
  start : StartOutcome
  /-- `ua_register` returns an error. -/
  registerError : Bool
  uaIsregistered : Bool

inductive RegistrationMove where
  | submit (generation : UInt64) (timeoutMs : UInt32)
  | cancel (generation : UInt64)
  /-- The host's `stop` invalidates the queue from its own thread. -/
  | invalidate
  /-- The owner begins a generation. -/
  | begin
  /-- The owner begins a tick. -/
  | tick (generation monotonicMs : UInt64) (selected : Address)
  /-- A tick on a thread that is not the owner's. -/
  | strayTick
  /-- The owner stops the gateway outside a tick. -/
  | stop
  /-- The owner takes the next step of what it has begun. -/
  | owner (answers : SdkAnswers)
  | deliver (delivery : Delivery) (context : Option ℕ)
  | drainMailbox
  | otherAdapterClaims
  | otherAdapterReleases

inductive RegistrationObserved where
  | nothing
  | enqueued (answer : Enqueued) (command : RegistrationCommand)
  | invalidated
  | began (generation : UInt64)
  | drained (batch : RegistrationBatch)
  | checked (admitted : Bool)
  /-- The gateway is asked to submit for a command. -/
  | executes (command : RegistrationCommand)
  | submitted (submission : NativeRegistrationSubmission)
  /-- The gateway's `stop` finds this owner, and calls `ua_unregister` or not. -/
  | stops (found : Address) (unregisters : Bool)
  | returned (outcome : RegistrationDispatchOutcome)
  | refusedThread

namespace RegistrationHost

def withBridge (host : RegistrationHost) (bridge : BaresipSdkEventAdapter) : RegistrationHost :=
  { host with gateway := { host.gateway with bridge := bridge } }

/-- The drain, and what the tick makes of the batch as a whole. -/
def beginTick (host : RegistrationHost) (generation monotonicMs : UInt64) (selected : Address) :
    RegistrationObserved × RegistrationHost :=
  let (batch, queue) := host.queue.drain generation
  let point : TickPoint :=
    if batch.generation ≠ generation || generation = 0 then .returning (.of .staleGeneration)
    else if batch.overflow then .stopping (some (.of .overflowStopped))
    else .deciding ⟨generation, monotonicMs, selected, batch⟩ 0 {}
  (.drained batch, { host with queue := queue, point := point })

/-- A check that the batch is still admitted; what is stopped otherwise has the given outcome. -/
def check (host : RegistrationHost) (batch : RegistrationBatch)
    (superseded : RegistrationDispatchOutcome) (next : TickPoint) :
    RegistrationObserved × RegistrationHost :=
  let admitted := host.queue.stillAdmitted batch
  (.checked admitted,
    { host with point := if admitted then next else .stopping (some superseded) })

/-- Behind the loop: the deadline. -/
def poll (host : RegistrationHost) (frame : TickFrame) (result : RegistrationDispatchOutcome)
    (uaIsregistered : Bool) : RegistrationObserved × RegistrationHost :=
  let (verdict, gateway) := host.gateway.pollRegistrationDeadline frame.monotonicMs uaIsregistered
  let point : TickPoint :=
    match verdict with
    | .expired | .clockRegressed | .sessionRevoked => .stopping (some (.of .deadlineExpired))
    | .callbackConfirmed => .returning (.of .confirmed)
    | .pending => .returning (if frame.batch.commands.isEmpty then .of .pending else result)
    | .unarmed | .wrongEventLoopThread => .returning result
  (.nothing, { host with gateway := gateway, point := point })

/-- The head of the loop for one command. -/
def decideCommand (host : RegistrationHost) (frame : TickFrame) (index : ℕ)
    (command : RegistrationCommand) : RegistrationObserved × RegistrationHost :=
  if command.generation ≠ frame.generation then
    (.nothing, { host with point := .stopping (some (.of .failed)) })
  else if command.kind = .cancel then
    (.nothing, { host with point := .stopping (some (.of .cancelled)) })
  else
    host.check frame.batch (.of .supersededDuringDispatch) (.submitting frame index command)

def ownerStep (host : RegistrationHost) (answers : SdkAnswers) :
    RegistrationObserved × RegistrationHost :=
  match host.point with
  | .idle => (.nothing, host)
  | .deciding frame index result =>
      match frame.batch.commands[index]? with
      | none => host.poll frame result answers.uaIsregistered
      | some command => host.decideCommand frame index command
  | .submitting frame index command =>
      let (submission, gateway) := host.gateway.enterSubmit frame.selected answers.start
      let point : TickPoint :=
        match submission with
        | none => .registering frame index command
        | some submission => .submitted frame index command submission
      (.executes command, { host with gateway := gateway, point := point })
  | .registering frame index command =>
      let (submission, gateway) := host.gateway.leaveSubmit frame.selected answers.registerError
      (.submitted submission,
        { host with gateway := gateway, point := .submitted frame index command submission })
  | .submitted frame index command submission =>
      -- a cancellation is noticed before success is claimed or a deadline armed
      host.check frame.batch ⟨.supersededDuringDispatch, submission⟩
        (.arming frame index command submission)
  | .arming frame index command submission =>
      if submission ≠ .submitted then
        (.nothing, { host with point := .stopping (some ⟨.failed, submission⟩) })
      else
        let (armed, gateway) :=
          host.gateway.armRegistrationDeadline frame.monotonicMs command.timeoutMs.toUInt64
        (.nothing,
          { host with
            gateway := gateway
            point := if armed then .armed frame index submission
              else .stopping (some ⟨.failed, submission⟩) })
  | .armed frame index submission =>
      host.check frame.batch ⟨.supersededDuringDispatch, submission⟩
        (.deciding frame (index + 1) ⟨.submitted, submission⟩)
  | .stopping next =>
      let gateway := host.gateway.enterStop
      if host.gateway.unregisters then
        (.stops host.gateway.owner true,
          { host with gateway := gateway, point := .unregistering next })
      else
        (.stops host.gateway.owner false,
          { host with
            gateway := gateway.leaveStop
            point := match next with
              | none => .idle
              | some outcome => .invalidating outcome })
  | .unregistering next =>
      (.nothing,
        { host with
          gateway := host.gateway.leaveStop
          point := match next with
            | none => .idle
            | some outcome => .invalidating outcome })
  | .invalidating outcome =>
      (.invalidated, { host with queue := host.queue.invalidate, point := .returning outcome })
  | .returning outcome => (.returned outcome, { host with point := .idle })

/-- Native events may arrive: the owner waits in the SDK, or runs its event loop. -/
def listening (host : RegistrationHost) : Bool :=
  match host.point with
  | .idle | .registering .. | .unregistering _ => true
  | _ => false

end RegistrationHost

def registrationStep (host : RegistrationHost) :
    RegistrationMove → RegistrationObserved × RegistrationHost
  | .submit generation timeoutMs =>
      let (answer, queue) := host.queue.submit generation timeoutMs
      (.enqueued answer ⟨.submitSelectedAccount, generation, timeoutMs⟩, { host with queue := queue })
  | .cancel generation =>
      let (answer, queue) := host.queue.cancel generation
      (.enqueued answer ⟨.cancel, generation, 0⟩, { host with queue := queue })
  | .invalidate => (.invalidated, { host with queue := host.queue.invalidate })
  | .begin =>
      if host.point ≠ .idle then (.nothing, host)
      else
        let (generation, queue) := host.queue.beginGeneration
        (.began generation, { host with queue := queue })
  | .tick generation monotonicMs selected =>
      if host.point ≠ .idle then (.nothing, host)
      else host.beginTick generation monotonicMs selected
  | .strayTick => (.refusedThread, host)
  | .stop =>
      if host.point ≠ .idle then (.nothing, host) else (.nothing, { host with point := .stopping none })
  | .owner answers => host.ownerStep answers
  | .deliver delivery context =>
      (.nothing,
        if host.listening then
          host.withBridge (host.gateway.bridge.callback delivery.type delivery.event context
            delivery.uaIsregistered)
        else host)
  | .drainMailbox =>
      (.nothing,
        host.withBridge (host.gateway.bridge.withMailbox host.gateway.bridge.mailbox.drain.2))
  | .otherAdapterClaims =>
      (.nothing,
        if host.gateway.bridge.processOwner = .free then
          host.withBridge { host.gateway.bridge with processOwner := .other }
        else host)
  | .otherAdapterReleases =>
      (.nothing,
        if host.gateway.bridge.processOwner = .other then
          host.withBridge { host.gateway.bridge with processOwner := .free }
        else host)

abbrev RegistrationStage := Stage RegistrationHost RegistrationMove RegistrationObserved

end AxeVoice.Native
