import AxeVoice.Native.RegistrationDispatch

/-!
# A cancellation wins over a registration in flight

A revocation of the queue closes it for the rest of the tick, so that the next
check finds the batch no longer admitted and the tick stops what it began.
-/

namespace AxeVoice.Native

open AxeVoice.Sip
open AxeVoice.Foundation

def TickPoint.frame? : TickPoint → Option TickFrame
  | .deciding frame .. | .submitting frame .. | .registering frame .. | .submitted frame ..
  | .arming frame .. | .armed frame .. => some frame
  | .idle | .stopping _ | .unregistering _ | .invalidating _ | .returning _ => none

/-- The owner is at work on a tick. -/
def TickPoint.ticking : TickPoint → Bool
  | .idle | .stopping none | .unregistering none => false
  | _ => true

theorem TickPoint.ne_idle {point : TickPoint} (ticking : point.ticking = true) : point ≠ .idle := by
  rintro rfl
  cases ticking

/-- Where the owner goes on behind a `stop`. -/
def TickPoint.afterStop : Option RegistrationDispatchOutcome → TickPoint
  | none => .idle
  | some outcome => .invalidating outcome

/-- A bound on the steps that the owner takes from here to its next return. -/
def TickPoint.remaining : TickPoint → ℕ
  | .idle => 0
  | .returning _ => 1
  | .invalidating _ => 2
  | .unregistering _ => 3
  | .stopping _ => 4
  | .deciding frame index _ => 6 * (frame.batch.commands.length - index) + 5
  | .armed frame index _ => 6 * (frame.batch.commands.length - (index + 1)) + 6
  | .arming frame index .. => 6 * (frame.batch.commands.length - (index + 1)) + 7
  | .submitted frame index .. => 6 * (frame.batch.commands.length - (index + 1)) + 8
  | .registering frame index _ => 6 * (frame.batch.commands.length - (index + 1)) + 9
  | .submitting frame index _ => 6 * (frame.batch.commands.length - (index + 1)) + 10

theorem TickPoint.remaining_of_framed {point : TickPoint} {frame : TickFrame}
    (framed : point.frame? = some frame) : 4 < point.remaining := by
  cases point <;> simp_all [TickPoint.frame?, TickPoint.remaining]

theorem TickPoint.remaining_of_frameless {point : TickPoint} (frameless : point.frame? = none) :
    point.remaining ≤ 4 := by
  cases point <;> simp_all [TickPoint.frame?, TickPoint.remaining]

/-- The point is inside a tick, behind the given one, and not at a native call of its own. -/
structure TickPoint.Follows (before after : TickPoint) : Prop where
  frame : ∀ frame, after.frame? = some frame → before.frame? = some frame
  ticking : after.ticking = true
  quiet : ∀ next, after ≠ .unregistering next
  unregistered : ∀ frame index command, after ≠ .registering frame index command
  executing : ∀ frame index command, after = .submitting frame index command →
    frame.batch.commands[index]? = some command ∧ command.kind = .submitSelectedAccount
  shrinks : after.remaining < before.remaining

/-- What a step of the owner does to the queue, the gateway's owner and the point. -/
inductive OwnerStepped (host : RegistrationHost) :
    RegistrationObserved → RegistrationHost → Prop
  | waits (idle : host.point = .idle) : OwnerStepped host .nothing host
  | checked {frame : TickFrame} (next : TickPoint) (submission : NativeRegistrationSubmission)
      (framed : host.point.frame? = some frame) (follows : host.point.Follows next) :
      OwnerStepped host (.checked (host.queue.stillAdmitted frame.batch))
        { host with point := if host.queue.stillAdmitted frame.batch then next
          else .stopping (some ⟨.supersededDuringDispatch, submission⟩) }
  /-- A step that only the point and the deadline notice. -/
  | settled {frame : TickFrame} (deadline : RegistrationDeadline) (next : TickPoint)
      (framed : host.point.frame? = some frame) (follows : host.point.Follows next) :
      OwnerStepped host .nothing
        { host with gateway := { host.gateway with deadline := deadline }, point := next }
  | executed {frame : TickFrame} {index : ℕ} {command : RegistrationCommand}
      {bridge : BaresipSdkEventAdapter} {next : TickPoint}
      (at_ : host.point = .submitting frame index command)
      (registers : next = .registering frame index command ∧ host.gateway.owner = 0 ∧
        frame.selected ≠ 0 ∨ ∃ submission, next = .submitted frame index command submission) :
      OwnerStepped host (.executes command)
        { host with gateway := { host.gateway with bridge := bridge }, point := next }
  | registered {frame : TickFrame} {index : ℕ} {command : RegistrationCommand}
      {gateway : BaresipSdkRegistrationGateway} {submission : NativeRegistrationSubmission}
      (at_ : host.point = .registering frame index command)
      (owner : gateway.owner = if submission = .submitted then frame.selected
        else host.gateway.owner) :
      OwnerStepped host (.submitted submission)
        { host with gateway := gateway, point := .submitted frame index command submission }
  | unregisters {next : Option RegistrationDispatchOutcome} (at_ : host.point = .stopping next)
      (calls : host.gateway.unregisters = true) :
      OwnerStepped host (.stops host.gateway.owner true)
        { host with gateway := host.gateway.enterStop, point := .unregistering next }
  | stopped {next : Option RegistrationDispatchOutcome} (at_ : host.point = .stopping next)
      (silent : host.gateway.unregisters = false) :
      OwnerStepped host (.stops host.gateway.owner false)
        { host with gateway := host.gateway.enterStop.leaveStop, point := .afterStop next }
  | unregistered {next : Option RegistrationDispatchOutcome} (at_ : host.point = .unregistering next) :
      OwnerStepped host .nothing
        { host with gateway := host.gateway.leaveStop, point := .afterStop next }
  | invalidated {outcome : RegistrationDispatchOutcome} (at_ : host.point = .invalidating outcome) :
      OwnerStepped host .invalidated
        { host with queue := host.queue.invalidate, point := .returning outcome }
  | returned {outcome : RegistrationDispatchOutcome} (at_ : host.point = .returning outcome) :
      OwnerStepped host (.returned outcome) { host with point := .idle }

/-- A point that leaves the loop follows every point of it. -/
theorem TickPoint.Follows.of_frameless {before after : TickPoint} {frame : TickFrame}
    (framed : before.frame? = some frame) (frameless : after.frame? = none)
    (ticking : after.ticking = true) (quiet : ∀ next, after ≠ .unregistering next) :
    before.Follows after := by
  refine ⟨fun frame framed => ?_, ticking, quiet, ?_, ?_, ?_⟩
  · cases frameless.symm.trans framed
  · rintro frame index command rfl
    cases frameless
  · rintro frame index command rfl
    cases frameless
  · exact Nat.lt_of_le_of_lt (remaining_of_frameless frameless) (remaining_of_framed framed)

theorem TickPoint.Follows.stopping {before : TickPoint} {frame : TickFrame}
    (framed : before.frame? = some frame) (outcome : RegistrationDispatchOutcome) :
    before.Follows (.stopping (some outcome)) :=
  of_frameless framed rfl rfl nofun

theorem poll_stepped {host : RegistrationHost} {frame : TickFrame}
    (framed : host.point.frame? = some frame) (result : RegistrationDispatchOutcome)
    (uaIsregistered : Bool) :
    OwnerStepped host (host.poll frame result uaIsregistered).1
      (host.poll frame result uaIsregistered).2 := by
  have settles (deadline : RegistrationDeadline) (next : TickPoint) (frameless : next.frame? = none)
      (ticking : next.ticking = true) (quiet : ∀ outcome, next ≠ .unregistering outcome) :
      OwnerStepped host .nothing
        { host with gateway := { host.gateway with deadline := deadline }, point := next } :=
    .settled deadline next framed (.of_frameless framed frameless ticking quiet)
  unfold RegistrationHost.poll BaresipSdkRegistrationGateway.pollRegistrationDeadline
  generalize host.gateway.deadline.check host.gateway.bridge.session frame.monotonicMs
    (host.gateway.bridge.nativeRegisterOkSeen uaIsregistered) = verdict
  cases verdict with
  | callbackConfirmed => exact settles {} _ rfl rfl nofun
  | _ => exact settles host.gateway.deadline _ rfl rfl nofun

theorem decideCommand_stepped {host : RegistrationHost} {frame : TickFrame} {index : ℕ}
    {command : RegistrationCommand} {result : RegistrationDispatchOutcome}
    (at_ : host.point = .deciding frame index result)
    (found : frame.batch.commands[index]? = some command) :
    OwnerStepped host (host.decideCommand frame index command).1
      (host.decideCommand frame index command).2 := by
  have framed : host.point.frame? = some frame := by rw [at_]; rfl
  unfold RegistrationHost.decideCommand
  split
  · exact .settled host.gateway.deadline _ framed (.stopping framed _)
  · split
    · exact .settled host.gateway.deadline _ framed (.stopping framed _)
    · next notCancel =>
        have submits : command.kind = .submitSelectedAccount := by
          cases kind : command.kind with
          | submitSelectedAccount => rfl
          | cancel => exact absurd kind notCancel
        refine .checked (.submitting frame index command) .invalidAccount framed ?_
        refine ⟨fun other same => framed.trans same, rfl, nofun, nofun, ?_, ?_⟩
        · intro frame index command same
          cases same
          exact ⟨found, submits⟩
        · obtain ⟨inside, -⟩ := List.getElem?_eq_some_iff.mp found
          rw [at_, TickPoint.remaining, TickPoint.remaining]
          omega

theorem enterSubmit_cases (gateway : BaresipSdkRegistrationGateway) (selected : Address)
    (outcome : StartOutcome) :
    (∃ bridge, (gateway.enterSubmit selected outcome).2 = { gateway with bridge := bridge }) ∧
      ((gateway.enterSubmit selected outcome).1 = none → gateway.owner = 0 ∧ selected ≠ 0) := by
  unfold BaresipSdkRegistrationGateway.enterSubmit
  split
  · exact ⟨⟨gateway.bridge, rfl⟩, nofun⟩
  · next free =>
      split
      · exact ⟨⟨gateway.bridge, rfl⟩, nofun⟩
      · next selected_ =>
          dsimp only
          split
          · exact ⟨⟨_, rfl⟩, nofun⟩
          · exact ⟨⟨_, rfl⟩, fun _ => ⟨not_not.mp free, selected_⟩⟩

theorem leaveSubmit_owner (gateway : BaresipSdkRegistrationGateway) (selected : Address)
    (error : Bool) :
    (gateway.leaveSubmit selected error).2.owner =
      if (gateway.leaveSubmit selected error).1 = .submitted then selected else gateway.owner := by
  unfold BaresipSdkRegistrationGateway.leaveSubmit
  split
  · rfl
  · split <;> rfl

theorem armRegistrationDeadline_deadline (gateway : BaresipSdkRegistrationGateway)
    (nowMs maxWaitMs : UInt64) :
    ∃ deadline, (gateway.armRegistrationDeadline nowMs maxWaitMs).2 =
      { gateway with deadline := deadline } := by
  unfold BaresipSdkRegistrationGateway.armRegistrationDeadline
  split
  · exact ⟨gateway.deadline, rfl⟩
  · exact ⟨_, rfl⟩

theorem ownerStep_stepped (host : RegistrationHost) (answers : SdkAnswers) :
    OwnerStepped host (host.ownerStep answers).1 (host.ownerStep answers).2 := by
  have framed {frame : TickFrame} {point : TickPoint} (at_ : host.point = point)
      (same : point.frame? = some frame) : host.point.frame? = some frame := by
    rw [at_]
    exact same
  have shrinks {point next : TickPoint} (at_ : host.point = point)
      (less : next.remaining < point.remaining) : next.remaining < host.point.remaining := by
    rw [at_]
    exact less
  unfold RegistrationHost.ownerStep
  cases at_ : host.point with
  | idle => exact .waits at_
  | deciding frame index result =>
      dsimp only
      cases found : frame.batch.commands[index]? with
      | none => exact poll_stepped (framed at_ rfl) result answers.uaIsregistered
      | some command => exact decideCommand_stepped at_ found
  | submitting frame index command =>
      obtain ⟨⟨bridge, kept⟩, registers⟩ :=
        enterSubmit_cases host.gateway frame.selected answers.start
      dsimp only
      rw [kept]
      refine .executed at_ ?_
      cases answer : (host.gateway.enterSubmit frame.selected answers.start).1 with
      | none => exact .inl ⟨rfl, registers answer⟩
      | some submission => exact .inr ⟨submission, rfl⟩
  | registering frame index command => exact .registered at_ (leaveSubmit_owner _ _ _)
  | submitted frame index command submission =>
      have known := framed at_ rfl
      have less : (TickPoint.arming frame index command submission).remaining <
          host.point.remaining := shrinks at_ (Nat.lt_succ_self _)
      exact .checked _ submission known
        ⟨fun other same => known.trans same, rfl, nofun, nofun, nofun, less⟩
  | arming frame index command submission =>
      have known := framed at_ rfl
      dsimp only
      split
      · exact .settled host.gateway.deadline _ known (.stopping known _)
      · obtain ⟨deadline, kept⟩ := armRegistrationDeadline_deadline host.gateway frame.monotonicMs
          command.timeoutMs.toUInt64
        rw [kept]
        refine .settled deadline _ known ?_
        split
        · have less : (TickPoint.armed frame index submission).remaining <
     host.point.remaining := shrinks at_ (Nat.lt_succ_self _)
          exact ⟨fun other same => known.trans same, rfl, nofun, nofun, nofun, less⟩
        · exact .stopping known _
  | armed frame index submission =>
      have known := framed at_ rfl
      have less : (TickPoint.deciding frame (index + 1) ⟨.submitted, submission⟩).remaining <
          host.point.remaining := shrinks at_ (Nat.lt_succ_self _)
      exact .checked _ submission known
        ⟨fun other same => known.trans same, rfl, nofun, nofun, nofun, less⟩
  | stopping next =>
      dsimp only
      split
      · next calls => exact .unregisters at_ calls
      · next silent =>
          have stopped := OwnerStepped.stopped at_ (Bool.eq_false_iff.mpr silent)
          cases next <;> exact stopped
  | unregistering next => cases next <;> exact .unregistered at_
  | invalidating outcome => exact .invalidated at_
  | returning outcome => exact .returned at_

/-! ## The steps of everyone -/

/-- Bridges that a stop has left alike. -/
structure SameSubscription (before after : BaresipSdkEventAdapter) : Prop where
  registered : after.registered = before.registered
  session : after.mailbox.session = before.mailbox.session

/-- What a step does, whoever takes it. -/
inductive RegistrationStepped (host : RegistrationHost) :
    RegistrationObserved → RegistrationHost → Prop
  | owner {observed : RegistrationObserved} {after : RegistrationHost}
      (stepped : OwnerStepped host observed after) : RegistrationStepped host observed after
  | enqueued (command : RegistrationCommand) :
      RegistrationStepped host (.enqueued (host.queue.enqueue command).1 command)
        { host with queue := (host.queue.enqueue command).2 }
  | refused (command : RegistrationCommand) :
      RegistrationStepped host (.enqueued .refused command) host
  | invalidated : RegistrationStepped host .invalidated { host with queue := host.queue.invalidate }
  | began (idle : host.point = .idle) :
      RegistrationStepped host (.began host.queue.beginGeneration.1)
        { host with queue := host.queue.beginGeneration.2 }
  | ticked (idle : host.point = .idle) (generation monotonicMs : UInt64) (selected : Address) :
      RegistrationStepped host (host.beginTick generation monotonicMs selected).1
        (host.beginTick generation monotonicMs selected).2
  | stops (idle : host.point = .idle) :
      RegistrationStepped host .nothing { host with point := .stopping none }
  | bridged {bridge : BaresipSdkEventAdapter}
      (same : host.listening = false → SameSubscription host.gateway.bridge bridge) :
      RegistrationStepped host .nothing (host.withBridge bridge)
  | ignored : RegistrationStepped host .nothing host
  | stray : RegistrationStepped host .refusedThread host

theorem registrationStep_stepped (host : RegistrationHost) (move : RegistrationMove) :
    RegistrationStepped host (registrationStep host move).1 (registrationStep host move).2 := by
  unfold registrationStep
  cases move with
  | submit generation timeoutMs =>
      dsimp only
      unfold RegistrationCommandQueue.submit
      split
      · exact .refused _
      · exact .enqueued ⟨.submitSelectedAccount, generation, timeoutMs⟩
  | cancel generation => exact .enqueued ⟨.cancel, generation, 0⟩
  | invalidate => exact .invalidated
  | begin =>
      dsimp only
      split
      · exact .ignored
      · next idle => exact .began (not_not.mp idle)
  | tick generation monotonicMs selected =>
      dsimp only
      split
      · exact .ignored
      · next idle => exact .ticked (not_not.mp idle) generation monotonicMs selected
  | strayTick => exact .stray
  | stop =>
      dsimp only
      split
      · exact .ignored
      · next idle => exact .stops (not_not.mp idle)
  | owner answers => exact .owner (ownerStep_stepped host answers)
  | deliver delivery context =>
      dsimp only
      split
      · next listening =>
          refine .bridged fun quiet => ?_
          rw [quiet] at listening
          cases listening
      · exact .ignored
  | drainMailbox => exact .bridged fun _ => ⟨rfl, rfl⟩
  | otherAdapterClaims =>
      dsimp only
      split
      · exact .bridged fun _ => ⟨rfl, rfl⟩
      · exact .ignored
  | otherAdapterReleases =>
      dsimp only
      split
      · exact .bridged fun _ => ⟨rfl, rfl⟩
      · exact .ignored

theorem enqueue_shuts {queue : RegistrationCommandQueue} {command : RegistrationCommand}
    (revokes : (queue.enqueue command).1 = .overflowed ∨
      (queue.enqueue command).1 = .accepted ∧ command.kind = .cancel) :
    (queue.enqueue command).2.opened = false := by
  unfold RegistrationCommandQueue.enqueue at revokes ⊢
  split
  · next refused =>
      rw [if_pos refused] at revokes
      rcases revokes with overflowed | ⟨accepted, -⟩
      · cases overflowed
      · cases accepted
  · next open_ =>
      rw [if_neg open_] at revokes
      split
      · rfl
      · next notCancel =>
          rw [if_neg notCancel] at revokes
          split
          · rfl
          · next room =>
              rw [if_neg room] at revokes
              rcases revokes with overflowed | ⟨-, cancel⟩
              · cases overflowed
              · exact absurd cancel notCancel

/-- While the owner is busy the queue serves one generation and is not reopened. -/
theorem stepped_keeps {host after : RegistrationHost} {observed : RegistrationObserved}
    (stepped : RegistrationStepped host observed after) (busy : host.point ≠ .idle) :
    host.queue.QueueKeeps after.queue := by
  have same : host.queue.QueueKeeps host.queue := ⟨rfl, rfl, id⟩
  cases stepped with
  | owner stepped =>
      cases stepped with
      | invalidated at_ => exact ⟨rfl, rfl, nofun⟩
      | _ => exact same
  | enqueued command => exact RegistrationCommandQueue.enqueue_keeps host.queue command
  | invalidated => exact ⟨rfl, rfl, nofun⟩
  | began idle | ticked idle | stops idle => exact absurd idle busy
  | _ => exact same

/-! ## A tick that a revocation overtakes -/

/-- A cancellation is accepted, or the queue overflows. -/
def Revokes (stage : RegistrationStage) : Prop :=
  ∃ answer command, stage.output = .enqueued answer command ∧
    (answer = .overflowed ∨ answer = .accepted ∧ command.kind = .cancel)

def Checks (stage : RegistrationStage) : Prop := ∃ admitted, stage.output = .checked admitted

/-- The stage is neither the drain nor the return of a tick. -/
def WithinTick (stage : RegistrationStage) : Prop :=
  (∀ batch, stage.output ≠ .drained batch) ∧ ∀ outcome, stage.output ≠ .returned outcome

/-- A revocation comes before a check. -/
def Overtaken (history : List RegistrationStage) : Prop :=
  ∃ earlier later, history = earlier ++ later ∧ (∃ stage ∈ earlier, Revokes stage) ∧
    ∃ stage ∈ later, Checks stage

/-- What a stop leaves of the gateway. -/
structure GatewayStopped (gateway : BaresipSdkRegistrationGateway) : Prop where
  owner : gateway.owner = 0
  registered : gateway.bridge.registered = false
  session : gateway.bridge.mailbox.session = 0

theorem leaveStop_stopped (gateway : BaresipSdkRegistrationGateway) :
    GatewayStopped gateway.leaveStop :=
  ⟨rfl, rfl, rfl⟩

/-- The tick is on its way to return that it was superseded. -/
inductive Superseded (host : RegistrationHost) : Prop
  | stopping {submission : NativeRegistrationSubmission}
      (at_ : host.point = .stopping (some ⟨.supersededDuringDispatch, submission⟩))
  | unregistering {submission : NativeRegistrationSubmission}
      (at_ : host.point = .unregistering (some ⟨.supersededDuringDispatch, submission⟩))
  | invalidating {submission : NativeRegistrationSubmission}
      (at_ : host.point = .invalidating ⟨.supersededDuringDispatch, submission⟩)
      (stopped : GatewayStopped host.gateway)
  | returning {submission : NativeRegistrationSubmission}
      (at_ : host.point = .returning ⟨.supersededDuringDispatch, submission⟩)
      (stopped : GatewayStopped host.gateway) (shut : host.queue.opened = false)

/-- What holds while a tick is under way that has drained this batch. -/
structure Ticking (batch : RegistrationBatch) (history : List RegistrationStage)
    (host : RegistrationHost) : Prop where
  ticking : host.point.ticking = true
  begun : host.queue.generation ≤ host.queue.lastGeneration
  framed : ∀ frame, host.point.frame? = some frame →
    frame.batch = batch ∧ batch.generation = host.queue.generation
  checked : (∃ stage ∈ history, Checks stage) → batch.generation = host.queue.generation
  shut : (∃ stage ∈ history, Revokes stage) → host.queue.opened = false
  superseded : Overtaken history → Superseded host

theorem overtaken_concat {history : List RegistrationStage} {stage : RegistrationStage}
    (overtaken : Overtaken (history ++ [stage])) :
    Overtaken history ∨ (∃ racing ∈ history, Revokes racing) ∧ Checks stage := by
  obtain ⟨earlier, later, split, ⟨racing, before, revokes⟩, check, behind, checks⟩ := overtaken
  rcases List.eq_nil_or_concat later with rfl | ⟨rest, last, rfl⟩
  · cases behind
  · rw [List.concat_eq_append, ← List.append_assoc] at split
    obtain ⟨rfl, same⟩ := List.append_inj' split rfl
    cases same
    rw [List.concat_eq_append] at behind
    rcases List.mem_append.mp behind with sooner | now
    · exact .inl ⟨earlier, rest, rfl, ⟨racing, before, revokes⟩, check, sooner, checks⟩
    · rw [List.mem_singleton.mp now] at checks
      exact .inr ⟨⟨racing, List.mem_append_left _ before, revokes⟩, checks⟩

theorem exists_mem_concat {α : Type} {Holds : α → Prop} {history : List α} {last : α}
    (some_ : ∃ stage ∈ history ++ [last], Holds stage) :
    (∃ stage ∈ history, Holds stage) ∨ Holds last := by
  obtain ⟨stage, member, holds⟩ := some_
  rcases List.mem_append.mp member with earlier | now
  · exact .inl ⟨stage, earlier, holds⟩
  · exact .inr (List.mem_singleton.mp now ▸ holds)

/-- What a step leaves alone that is none of the owner's, while the owner is busy. -/
structure OwnerUntouched (host : RegistrationHost) (observed : RegistrationObserved)
    (after : RegistrationHost) : Prop where
  point : after.point = host.point
  owner : after.gateway.owner = host.gateway.owner
  unchecked : ∀ admitted, observed ≠ .checked admitted
  stopped : host.listening = false → GatewayStopped host.gateway → GatewayStopped after.gateway

theorem stepped_busy {host after : RegistrationHost} {observed : RegistrationObserved}
    (stepped : RegistrationStepped host observed after) (busy : host.point ≠ .idle) :
    OwnerStepped host observed after ∨ OwnerUntouched host observed after := by
  cases stepped with
  | owner stepped => exact .inl stepped
  | began idle | ticked idle | stops idle => exact absurd idle busy
  | bridged same =>
      refine .inr ⟨rfl, rfl, nofun, fun quiet stopped => ?_⟩
      obtain ⟨registered, session⟩ := same quiet
      exact ⟨stopped.owner, registered.trans stopped.registered, session.trans stopped.session⟩
  | enqueued | refused | invalidated | ignored | stray =>
      exact .inr ⟨rfl, rfl, nofun, fun _ stopped => stopped⟩

/-- The tick is on its way to return this outcome, behind a stop of the gateway. -/
inductive Leaving (outcome : RegistrationDispatchOutcome) (host : RegistrationHost) : Prop
  | stopping (at_ : host.point = .stopping (some outcome))
  | unregistering (at_ : host.point = .unregistering (some outcome))
  | invalidating (at_ : host.point = .invalidating outcome) (stopped : GatewayStopped host.gateway)
  | returning (at_ : host.point = .returning outcome) (stopped : GatewayStopped host.gateway)
      (shut : host.queue.opened = false)

theorem superseded_iff {host : RegistrationHost} :
    Superseded host ↔ ∃ submission, Leaving ⟨.supersededDuringDispatch, submission⟩ host := by
  constructor
  · intro superseded
    cases superseded with
    | stopping at_ => exact ⟨_, .stopping at_⟩
    | unregistering at_ => exact ⟨_, .unregistering at_⟩
    | invalidating at_ stopped => exact ⟨_, .invalidating at_ stopped⟩
    | returning at_ stopped shut => exact ⟨_, .returning at_ stopped shut⟩
  · rintro ⟨submission, leaving⟩
    cases leaving with
    | stopping at_ => exact .stopping at_
    | unregistering at_ => exact .unregistering at_
    | invalidating at_ stopped => exact .invalidating at_ stopped
    | returning at_ stopped shut => exact .returning at_ stopped shut

theorem Leaving.busy {outcome : RegistrationDispatchOutcome} {host : RegistrationHost}
    (leaving : Leaving outcome host) : host.point ≠ .idle := by
  cases leaving with
  | stopping at_ | unregistering at_ | invalidating at_ | returning at_ =>
      rw [at_]
      exact nofun

theorem Leaving.frameless {outcome : RegistrationDispatchOutcome} {host : RegistrationHost}
    (leaving : Leaving outcome host) : host.point.frame? = none := by
  cases leaving with
  | stopping at_ | unregistering at_ | invalidating at_ | returning at_ =>
      rw [at_]
      rfl

/-- The owner takes a tick that leaves on its way. -/
theorem Leaving.ownerStep {outcome : RegistrationDispatchOutcome} {host after : RegistrationHost}
    {observed : RegistrationObserved} (leaving : Leaving outcome host)
    (stepped : OwnerStepped host observed after)
    (within : ∀ outcome, observed ≠ .returned outcome) : Leaving outcome after := by
  have frameless := leaving.frameless
  cases stepped with
  | waits idle => exact absurd idle leaving.busy
  | checked next submission framed | settled deadline next framed => cases frameless.symm.trans framed
  | executed at_ | registered at_ =>
      rw [at_] at frameless
      cases frameless
  | @unregisters next at_ calls =>
      cases leaving with
      | stopping same =>
          cases at_.symm.trans same
          exact .unregistering rfl
      | unregistering same | invalidating same | returning same => cases at_.symm.trans same
  | @stopped next at_ silent =>
      cases leaving with
      | stopping same =>
          cases at_.symm.trans same
          exact .invalidating rfl (leaveStop_stopped _)
      | unregistering same | invalidating same | returning same => cases at_.symm.trans same
  | unregistered at_ =>
      cases leaving with
      | unregistering same =>
          cases at_.symm.trans same
          exact .invalidating rfl (leaveStop_stopped _)
      | stopping same | invalidating same | returning same => cases at_.symm.trans same
  | invalidated at_ =>
      cases leaving with
      | invalidating same stopped =>
          cases at_.symm.trans same
          exact .returning rfl stopped rfl
      | stopping same | unregistering same | returning same => cases at_.symm.trans same
  | returned at_ => exact absurd rfl (within _)

/-- A tick that leaves stays on its way. -/
theorem Leaving.step {outcome : RegistrationDispatchOutcome} {host after : RegistrationHost}
    {observed : RegistrationObserved} (leaving : Leaving outcome host)
    (stepped : RegistrationStepped host observed after)
    (within : ∀ outcome, observed ≠ .returned outcome) : Leaving outcome after := by
  have keeps := stepped_keeps stepped leaving.busy
  rcases stepped_busy stepped leaving.busy with owner | untouched
  · exact leaving.ownerStep owner within
  · have quiet {point : TickPoint} (at_ : host.point = point)
        (deaf : ({ host with point := point } : RegistrationHost).listening = false) :
        host.listening = false := by
      subst at_
      exact deaf
    cases leaving with
    | stopping at_ => exact .stopping (untouched.point.trans at_)
    | unregistering at_ => exact .unregistering (untouched.point.trans at_)
    | invalidating at_ stopped =>
        exact .invalidating (untouched.point.trans at_) (untouched.stopped (quiet at_ rfl) stopped)
    | returning at_ stopped shut =>
        refine .returning (untouched.point.trans at_) (untouched.stopped (quiet at_ rfl) stopped) ?_
        by_contra open_
        have before := keeps.opened (by simpa using open_)
        rw [shut] at before
        cases before

/-- A superseded tick stays on its way. -/
theorem Superseded.step {host after : RegistrationHost} {observed : RegistrationObserved}
    (superseded : Superseded host) (stepped : RegistrationStepped host observed after)
    (within : ∀ outcome, observed ≠ .returned outcome) : Superseded after := by
  obtain ⟨submission, leaving⟩ := superseded_iff.mp superseded
  exact superseded_iff.mpr ⟨submission, leaving.step stepped within⟩

/-- Until it returns, a tick remains under way. -/
theorem ownerStepped_ticking {host after : RegistrationHost} {observed : RegistrationObserved}
    (stepped : OwnerStepped host observed after) (ticking : host.point.ticking = true)
    (within : ∀ outcome, observed ≠ .returned outcome) : after.point.ticking = true := by
  have afterStop {next : Option RegistrationDispatchOutcome} {point : TickPoint}
      (at_ : host.point = point) (stops : point = .stopping next ∨ point = .unregistering next) :
      (TickPoint.afterStop next).ticking = true := by
    cases next with
    | some outcome => rfl
    | none =>
        rcases stops with rfl | rfl
        all_goals
          rw [at_] at ticking
          cases ticking
  cases stepped with
  | waits idle => exact ticking
  | checked next submission framed follows =>
      dsimp only
      split
      · exact follows.ticking
      · rfl
  | settled deadline next framed follows => exact follows.ticking
  | executed at_ registers =>
      rcases registers with ⟨rfl, -⟩ | ⟨submission, rfl⟩
      · rfl
      · rfl
  | registered at_ owner => rfl
  | @unregisters next at_ calls =>
      rw [at_] at ticking
      cases next with
      | none => exact ticking
      | some outcome => rfl
  | stopped at_ silent => exact afterStop at_ (.inl rfl)
  | unregistered at_ => exact afterStop at_ (.inr rfl)
  | invalidated at_ => rfl
  | returned at_ => exact absurd rfl (within _)

/-- The owner goes on with the batch that it has drained. -/
theorem ownerStepped_frame {host after : RegistrationHost} {observed : RegistrationObserved}
    (stepped : OwnerStepped host observed after) (frame : TickFrame)
    (framed : after.point.frame? = some frame) : host.point.frame? = some frame := by
  have afterStop (next : Option RegistrationDispatchOutcome) :
      (TickPoint.afterStop next).frame? = none := by cases next <;> rfl
  cases stepped with
  | waits idle => exact framed
  | checked next submission known follows =>
      dsimp only at framed
      split at framed
      · exact follows.frame frame framed
      · cases framed
  | settled deadline next known follows => exact follows.frame frame framed
  | executed at_ registers =>
      rw [at_]
      rcases registers with ⟨rfl, -⟩ | ⟨submission, rfl⟩
      · exact framed
      · exact framed
  | registered at_ owner =>
      rw [at_]
      exact framed
  | stopped at_ | unregistered at_ => cases (afterStop _).symm.trans framed
  | unregisters | invalidated | returned => cases framed

/-- A check that finds the queue closed supersedes the tick. -/
theorem ownerStepped_superseded {host after : RegistrationHost} {admitted : Bool}
    (stepped : OwnerStepped host (.checked admitted) after) (shut : host.queue.opened = false) :
    Superseded after := by
  cases stepped with
  | @checked frame next submission framed follows =>
      have refused : host.queue.stillAdmitted frame.batch = false := by
        simp [RegistrationCommandQueue.stillAdmitted, shut]
      rw [refused]
      exact .stopping rfl

theorem ownerStepped_checked {host after : RegistrationHost} {admitted : Bool}
    (stepped : OwnerStepped host (.checked admitted) after) :
    ∃ frame, host.point.frame? = some frame := by
  cases stepped with
  | checked next submission framed => exact ⟨_, framed⟩

/-- A revocation closes the queue. -/
theorem revokes_shuts {host : RegistrationHost} {move : RegistrationMove}
    (revokes : Revokes (stageOf registrationStep host move)) :
    (registrationStep host move).2.queue.opened = false := by
  have stepped := registrationStep_stepped host move
  obtain ⟨answer, command, observed, kind⟩ := revokes
  have same : (registrationStep host move).1 = .enqueued answer command := observed
  rw [same] at stepped
  generalize (registrationStep host move).2 = after at stepped
  cases stepped with
  | owner stepped => cases stepped
  | enqueued => exact enqueue_shuts kind
  | refused =>
      rcases kind with overflowed | ⟨accepted, -⟩
      · cases overflowed
      · cases accepted

theorem Ticking.step {batch : RegistrationBatch} {history : List RegistrationStage}
    {host : RegistrationHost} (ticking : Ticking batch history host) (move : RegistrationMove)
    (within : WithinTick (stageOf registrationStep host move)) :
    Ticking batch (history ++ [stageOf registrationStep host move])
      (registrationStep host move).2 := by
  have stepped := registrationStep_stepped host move
  have keeps := stepped_keeps stepped (TickPoint.ne_idle ticking.ticking)
  have unreturned : ∀ outcome, (registrationStep host move).1 ≠ .returned outcome := within.2
  have moved := stepped_busy stepped (TickPoint.ne_idle ticking.ticking)
  constructor
  · rcases moved with owner | untouched
    · exact ownerStepped_ticking owner ticking.ticking unreturned
    · rw [untouched.point]
      exact ticking.ticking
  · rw [keeps.generation, keeps.lastGeneration]
    exact ticking.begun
  · intro frame framed
    rw [keeps.generation]
    apply ticking.framed
    rcases moved with owner | untouched
    · exact ownerStepped_frame owner frame framed
    · rw [← untouched.point]
      exact framed
  · intro checked
    rw [keeps.generation]
    rcases exists_mem_concat checked with earlier | ⟨admitted, now⟩
    · exact ticking.checked earlier
    · have observed : (registrationStep host move).1 = .checked admitted := now
      rcases moved with owner | untouched
      · rw [observed] at owner
        obtain ⟨frame, framed⟩ := ownerStepped_checked owner
        exact (ticking.framed frame framed).2
      · exact absurd now (untouched.unchecked admitted)
  · intro revoked
    rcases exists_mem_concat revoked with earlier | now
    · by_contra open_
      have before := keeps.opened (by simpa using open_)
      rw [ticking.shut earlier] at before
      cases before
    · exact revokes_shuts now
  · intro overtaken
    rcases overtaken_concat overtaken with earlier | ⟨revoked, admitted, now⟩
    · exact (ticking.superseded earlier).step stepped unreturned
    · rcases moved with owner | untouched
      · have observed : (registrationStep host move).1 = .checked admitted := now
        rw [observed] at owner
        exact ownerStepped_superseded owner (ticking.shut revoked)
      · exact absurd now (untouched.unchecked admitted)

theorem beginTick_ticking {host : RegistrationHost} (sound : host.queue.Sound)
    (generation monotonicMs : UInt64) (selected : Address) :
    ∃ batch, (host.beginTick generation monotonicMs selected).1 = .drained batch ∧
      Ticking batch [] (host.beginTick generation monotonicMs selected).2 := by
  refine ⟨(host.queue.drain generation).1, rfl, ?_⟩
  have keeps := host.queue.drain_keeps generation
  unfold RegistrationHost.beginTick
  dsimp only
  constructor
  · dsimp only
    split
    · rfl
    · split <;> rfl
  · rw [keeps.generation, keeps.lastGeneration]
    exact sound.last
  · intro frame framed
    rw [keeps.generation]
    dsimp only at framed
    split at framed
    · cases framed
    · next current =>
        split at framed
        · cases framed
        · cases framed
          refine ⟨rfl, ?_⟩
          simp only [Bool.or_eq_true, decide_eq_true_eq, not_or, not_not] at current
          have taken := RegistrationCommandQueue.drain_drained sound generation
          rcases taken.generation_eq with none_ | same
          · exact absurd (current.1.symm.trans none_) current.2
          · exact same
  · rintro ⟨stage, member, -⟩
    cases member
  · rintro ⟨stage, member, -⟩
    cases member
  · rintro ⟨earlier, later, split_, ⟨racing, member, -⟩, -⟩
    rw [(List.append_eq_nil_iff.mp split_.symm).1] at member
    cases member

theorem registrationStep_sound {host : RegistrationHost} (sound : host.queue.Sound)
    (move : RegistrationMove) : (registrationStep host move).2.queue.Sound := by
  have stepped := registrationStep_stepped host move
  generalize (registrationStep host move).1 = observed at stepped
  generalize (registrationStep host move).2 = after at stepped
  cases stepped with
  | owner stepped =>
      cases stepped with
      | invalidated at_ => exact RegistrationCommandQueue.invalidate_sound sound
      | _ => exact sound
  | enqueued command => exact RegistrationCommandQueue.enqueue_sound sound command
  | invalidated => exact RegistrationCommandQueue.invalidate_sound sound
  | began idle => exact RegistrationCommandQueue.beginGeneration_sound sound
  | ticked idle generation => exact RegistrationCommandQueue.drain_sound sound generation
  | _ => exact sound

/-- A generation that is closed stays so. -/
theorem registrationStep_closed {host : RegistrationHost} {generation : UInt64}
    (closed : host.queue.Closed generation) (move : RegistrationMove) :
    (registrationStep host move).2.queue.Closed generation := by
  have stepped := registrationStep_stepped host move
  generalize (registrationStep host move).1 = observed at stepped
  generalize (registrationStep host move).2 = after at stepped
  cases stepped with
  | owner stepped =>
      cases stepped with
      | invalidated at_ => exact closed.keep ⟨rfl, rfl, nofun⟩
      | _ => exact closed
  | enqueued command => exact closed.keep (RegistrationCommandQueue.enqueue_keeps _ command)
  | invalidated => exact closed.keep ⟨rfl, rfl, nofun⟩
  | began idle => exact closed.begin
  | ticked idle generation => exact closed.keep (RegistrationCommandQueue.drain_keeps _ generation)
  | _ => exact closed

/-- A closed generation accepts nothing. -/
theorem closed_accepts_nothing {host : RegistrationHost} {generation : UInt64}
    (closed : host.queue.Closed generation) {move : RegistrationMove} {answer : Enqueued}
    {command : RegistrationCommand}
    (observed : (registrationStep host move).1 = .enqueued answer command)
    (same : command.generation = generation) : answer = .refused := by
  have stepped := registrationStep_stepped host move
  rw [observed] at stepped
  generalize (registrationStep host move).2 = after at stepped
  subst same
  cases stepped with
  | owner stepped => cases stepped
  | enqueued => rw [RegistrationCommandQueue.enqueue_refused closed]
  | refused => rfl

theorem registrationStep_ticking {host : RegistrationHost} (sound : host.queue.Sound)
    {move : RegistrationMove} {batch : RegistrationBatch}
    (drained : (registrationStep host move).1 = .drained batch) :
    Ticking batch [] (registrationStep host move).2 := by
  have stepped := registrationStep_stepped host move
  generalize (registrationStep host move).1 = observed at stepped drained
  generalize (registrationStep host move).2 = after at stepped
  cases stepped with
  | owner stepped =>
      cases stepped with
      | _ => cases drained
  | ticked idle generation monotonicMs selected =>
      obtain ⟨other, same, ticking⟩ := beginTick_ticking sound generation monotonicMs selected
      cases same.symm.trans drained
      exact ticking
  | _ => cases drained

theorem registrationStep_returned {host : RegistrationHost} {move : RegistrationMove}
    {outcome : RegistrationDispatchOutcome}
    (returned : (registrationStep host move).1 = .returned outcome) :
    host.point = .returning outcome ∧
      (registrationStep host move).2 = { host with point := .idle } := by
  have stepped := registrationStep_stepped host move
  rw [returned] at stepped
  generalize (registrationStep host move).2 = after at stepped
  cases stepped with
  | owner stepped =>
      cases stepped with
      | returned at_ => exact ⟨at_, rfl⟩

theorem run_sound (inputs : List RegistrationMove) :
    (finalState registrationStep {} inputs).queue.Sound := by
  have everywhere : ∀ stage ∈ stages registrationStep {} inputs, True := fun _ _ => trivial
  exact finalState_invariant_of_admitted (fun host => host.queue.Sound) (fun _ => True)
    (fun _ move known _ => registrationStep_sound known move)
    RegistrationCommandQueue.sound_initial everywhere

/-- A generation that is closed accepts nothing in any run. -/
theorem closed_run {host : RegistrationHost} {generation : UInt64}
    (closed : host.queue.Closed generation) (inputs : List RegistrationMove) :
    ∀ stage ∈ stages registrationStep host inputs, ∀ answer command,
      stage.output = .enqueued answer command → command.generation = generation →
        answer = .refused := by
  have refuses (host : RegistrationHost) (move : RegistrationMove)
      (known : host.queue.Closed generation) (answer : Enqueued) (command : RegistrationCommand)
      (observed : (stageOf registrationStep host move).output = .enqueued answer command)
      (same : command.generation = generation) : answer = .refused :=
    closed_accepts_nothing known observed same
  have everywhere : ∀ stage ∈ stages registrationStep host inputs, True := fun _ _ => trivial
  exact stages_forall_of_admitted (fun host => host.queue.Closed generation) (fun _ => True) _
    (fun _ move known _ => registrationStep_closed known move)
    (fun host move known _ => refuses host move known) closed everywhere

/-- What a tick leaves behind that was superseded. -/
structure SupersededReturn (batch : RegistrationBatch) (outcome : RegistrationDispatchOutcome)
    (host : RegistrationHost) (later : List RegistrationStage) : Prop where
  kind : outcome.kind = .supersededDuringDispatch
  unsubmitted : host.gateway.submitted = false
  inactive : host.gateway.bridge.active = false
  unsubscribed : host.gateway.bridge.registered = false
  invalidated : host.gateway.bridge.mailbox.session = 0
  closed : ∀ stage ∈ later, ∀ answer command, stage.output = .enqueued answer command →
    command.generation = batch.generation → answer = .refused

theorem Ticking.return {batch : RegistrationBatch} {during : List RegistrationStage}
    {host : RegistrationHost} (ticking : Ticking batch during host) (overtaken : Overtaken during)
    {move : RegistrationMove} {outcome : RegistrationDispatchOutcome}
    (returned : (registrationStep host move).1 = .returned outcome)
    (others : List RegistrationMove) :
    SupersededReturn batch outcome (registrationStep host move).2
      (stages registrationStep (registrationStep host move).2 others) := by
  obtain ⟨at_, left⟩ := registrationStep_returned returned
  have current : batch.generation = host.queue.generation := by
    obtain ⟨earlier, later, rfl, -, check, member, checks⟩ := overtaken
    exact ticking.checked ⟨check, List.mem_append_right _ member, checks⟩
  rw [left]
  cases ticking.superseded overtaken with
  | stopping same | unregistering same | invalidating same => cases at_.symm.trans same
  | returning same stopped shut =>
      cases at_.symm.trans same
      have inactive : host.gateway.bridge.active = false :=
        BaresipSdkEventAdapter.inactive_of_unregistered stopped.registered
      have closed : host.queue.Closed batch.generation := by
        refine ⟨?_, fun _ => shut⟩
        rw [current]
        exact ticking.begun
      have left_ : ({ host with point := .idle } : RegistrationHost).queue.Closed batch.generation :=
        closed
      refine ⟨rfl, ?_, inactive, stopped.registered, stopped.session, closed_run left_ others⟩
      rw [BaresipSdkRegistrationGateway.submitted, stopped.owner]
      rfl

theorem overtaken_returns {inputs : List RegistrationMove}
    {before during after : List RegistrationStage} {drain return_ : RegistrationStage}
    {batch : RegistrationBatch} {outcome : RegistrationDispatchOutcome}
    (run : stages registrationStep {} inputs = before ++ drain :: (during ++ return_ :: after))
    (drained : drain.output = .drained batch) (within : ∀ stage ∈ during, WithinTick stage)
    (returned : return_.output = .returned outcome) (overtaken : Overtaken during) :
    SupersededReturn batch outcome return_.after after := by
  obtain ⟨first, move, rest, -, -, rfl, behind⟩ := stages_split run
  obtain ⟨second, last, others, -, rfl, rfl, rfl⟩ := stages_split behind.symm
  have ticking := history_invariant (Ticking batch) WithinTick
    (fun history host input known allowed => Ticking.step known input allowed) []
    (registrationStep_ticking (run_sound first) drained) within
  exact ticking.return overtaken returned others

end AxeVoice.Native
