import Mathlib.Data.List.Induction
import AxeVoice.Native.RegistrationRaces

/-!
# What becomes of commands and of registrations

A tick executes only what was accepted behind the last revocation before its
drain.  What the gateway has registered is undone by the next stop, once.
-/

namespace AxeVoice.Native

open AxeVoice.Sip
open AxeVoice.Foundation

/-- The queue keeps nothing of what waited before. -/
def clears (stage : RegistrationStage) : Bool :=
  match stage.output with
  | .enqueued .overflowed _ => true
  | .enqueued .accepted command => command.kind = .cancel
  | .drained batch => batch.generation ≠ 0
  | .invalidated => true
  | _ => false

/-- The command that has been accepted. -/
def acceptedCommand (stage : RegistrationStage) : Option RegistrationCommand :=
  match stage.output with
  | .enqueued .accepted command => some command
  | _ => none

def stillWaiting (waiting : List RegistrationCommand) (stage : RegistrationStage) :
    List RegistrationCommand :=
  (if clears stage then [] else waiting) ++ (acceptedCommand stage).toList

/-- The commands accepted, from the last stage on that cleared the queue. -/
def waiting (history : List RegistrationStage) : List RegistrationCommand :=
  history.foldl stillWaiting []

theorem waiting_concat (history : List RegistrationStage) (stage : RegistrationStage) :
    waiting (history ++ [stage]) = stillWaiting (waiting history) stage := by
  simp only [waiting, List.foldl_append, List.foldl_cons, List.foldl_nil]

theorem clears_of_revokes {stage : RegistrationStage} (revokes : Revokes stage) :
    clears stage = true := by
  obtain ⟨answer, command, observed, rfl | ⟨rfl, cancel⟩⟩ := revokes
  · rw [clears, observed]
  · rw [clears, observed]
    exact decide_eq_true cancel

theorem cancel_of_clears {stage : RegistrationStage} {command : RegistrationCommand}
    (cleared : clears stage = true) (accepted : acceptedCommand stage = some command) :
    command.kind = .cancel := by
  unfold clears at cleared
  unfold acceptedCommand at accepted
  split at accepted
  · next observed =>
      cases accepted
      rw [observed] at cleared
      exact of_decide_eq_true cleared
  · cases accepted

theorem enqueue_entries (queue : RegistrationCommandQueue) (command : RegistrationCommand)
    {stage : RegistrationStage} (observed : stage.output = .enqueued (queue.enqueue command).1 command) :
    (queue.enqueue command).2.entries = stillWaiting queue.entries stage := by
  unfold stillWaiting clears acceptedCommand
  rw [observed]
  unfold RegistrationCommandQueue.enqueue
  split
  · simp
  · split
    · next cancel => simp [cancel]
    · next notCancel =>
        split
        · simp
        · simp [notCancel]

/-- The entries of the queue are what is still waiting. -/
theorem registrationStep_entries {host : RegistrationHost} (sound : host.queue.Sound)
    (move : RegistrationMove) :
    (registrationStep host move).2.queue.entries =
      stillWaiting host.queue.entries (stageOf registrationStep host move) := by
  have stepped := registrationStep_stepped host move
  have output : (stageOf registrationStep host move).output = (registrationStep host move).1 := rfl
  generalize stageOf registrationStep host move = stage at output
  generalize (registrationStep host move).1 = observed at stepped output
  generalize (registrationStep host move).2 = after at stepped
  have unmoved (entries : List RegistrationCommand) (uncleared : clears stage = false)
      (unaccepted : acceptedCommand stage = none) : entries = stillWaiting entries stage := by
    rw [stillWaiting, uncleared, unaccepted]
    simp
  have emptied (entries : List RegistrationCommand) (cleared : clears stage = true)
      (unaccepted : acceptedCommand stage = none) : [] = stillWaiting entries stage := by
    rw [stillWaiting, cleared, unaccepted]
    rfl
  cases stepped with
  | owner stepped =>
      cases stepped with
      | invalidated at_ => exact emptied _ (by rw [clears, output]) (by rw [acceptedCommand, output])
      | _ => exact unmoved _ (by rw [clears, output]) (by rw [acceptedCommand, output])
  | enqueued command => exact enqueue_entries host.queue command output
  | invalidated => exact emptied _ (by rw [clears, output]) (by rw [acceptedCommand, output])
  | began idle =>
      have same : host.queue.beginGeneration.2.entries = host.queue.entries := by
        unfold RegistrationCommandQueue.beginGeneration
        split <;> rfl
      rw [same]
      exact unmoved _ (by rw [clears, output]) (by rw [acceptedCommand, output])
  | ticked idle generation monotonicMs selected =>
      have taken := RegistrationCommandQueue.drain_drained sound generation
      change stage.output = .drained (host.queue.drain generation).1 at output
      change (host.queue.drain generation).2.entries = _
      generalize (host.queue.drain generation).1 = batch at taken output
      generalize (host.queue.drain generation).2 = queue at taken
      cases taken with
      | stale => exact unmoved _ (by rw [clears, output]; rfl) (by rw [acceptedCommand, output])
      | taken nonzero generation commands none_ =>
          rw [none_]
          refine emptied _ ?_ (by rw [acceptedCommand, output])
          rw [clears, output]
          exact decide_eq_true nonzero
  | _ => exact unmoved _ (by rw [clears, output]) (by rw [acceptedCommand, output])

/-- The batch of a history's last drain, with what was waiting then. -/
structure LastDrained (history : List RegistrationStage) (batch : RegistrationBatch)
    (older : List RegistrationStage) : Prop where
  split : ∃ drain during, history = older ++ drain :: during ∧ drain.output = .drained batch ∧
    ∀ stage ∈ during, ∀ other, stage.output ≠ .drained other
  commands : batch.commands = [] ∨ batch.commands = waiting older

theorem LastDrained.concat {history older : List RegistrationStage} {batch : RegistrationBatch}
    {stage : RegistrationStage} (last : LastDrained history batch older)
    (undrained : ∀ other, stage.output ≠ .drained other) :
    LastDrained (history ++ [stage]) batch older := by
  obtain ⟨⟨drain, during, rfl, drained, none_⟩, commands⟩ := last
  refine ⟨⟨drain, during ++ [stage], by simp, drained, ?_⟩, commands⟩
  exact forall_mem_concat none_ undrained

theorem LastDrained.now {history : List RegistrationStage} {stage : RegistrationStage}
    {batch : RegistrationBatch} (drained : stage.output = .drained batch)
    (commands : batch.commands = [] ∨ batch.commands = waiting history) :
    LastDrained (history ++ [stage]) batch history :=
  ⟨⟨stage, [], rfl, drained, fun _ member => absurd member List.not_mem_nil⟩, commands⟩

/-- The queue has what is waiting, and a tick goes through what was waiting at its drain. -/
structure Accounted (history : List RegistrationStage) (host : RegistrationHost) : Prop where
  sound : host.queue.Sound
  entries : host.queue.entries = waiting history
  framed : ∀ frame, host.point.frame? = some frame →
    ∃ older, LastDrained history frame.batch older
  executing : ∀ frame index command, host.point = .submitting frame index command →
    frame.batch.commands[index]? = some command ∧ command.kind = .submitSelectedAccount

theorem ownerStepped_executing {host after : RegistrationHost} {observed : RegistrationObserved}
    (stepped : OwnerStepped host observed after)
    {frame : TickFrame} {index : ℕ} {command : RegistrationCommand}
    (at_ : after.point = .submitting frame index command) :
    frame.batch.commands[index]? = some command ∧ command.kind = .submitSelectedAccount := by
  have afterStop (next : Option RegistrationDispatchOutcome) :
      TickPoint.afterStop next ≠ .submitting frame index command := by cases next <;> exact nofun
  cases stepped with
  | waits idle => cases idle.symm.trans at_
  | checked next submission framed follows =>
      dsimp only at at_
      split at at_
      · exact follows.executing frame index command at_
      · cases at_
  | settled deadline next framed follows => exact follows.executing frame index command at_
  | executed here registers =>
      rcases registers with ⟨rfl, -⟩ | ⟨submission, rfl⟩
      · cases at_
      · cases at_
  | stopped | unregistered => exact absurd at_ (afterStop _)
  | registered | unregisters | invalidated | returned => cases at_

/-- Only a drain begins with a batch. -/
theorem stepped_undrained {host after : RegistrationHost} {observed : RegistrationObserved}
    (stepped : RegistrationStepped host observed after)
    (undrained : ∀ batch, observed ≠ .drained batch) :
    (∀ frame, after.point.frame? = some frame → host.point.frame? = some frame) ∧
      ∀ frame index command, after.point = .submitting frame index command →
        host.point = .submitting frame index command ∨
          frame.batch.commands[index]? = some command ∧ command.kind = .submitSelectedAccount := by
  cases stepped with
  | owner stepped =>
      exact ⟨ownerStepped_frame stepped,
        fun frame index command at_ => .inr (ownerStepped_executing stepped at_)⟩
  | ticked idle generation monotonicMs selected => exact absurd rfl (undrained _)
  | stops idle => exact ⟨nofun, nofun⟩
  | _ => exact ⟨fun _ => id, fun _ _ _ => .inl⟩

theorem registrationStep_drained {host : RegistrationHost} (sound : host.queue.Sound)
    {move : RegistrationMove} {batch : RegistrationBatch}
    (drained : (registrationStep host move).1 = .drained batch) :
    (batch.commands = [] ∨ batch.commands = host.queue.entries) ∧
      (∀ frame, (registrationStep host move).2.point.frame? = some frame → frame.batch = batch) ∧
      ∀ frame index command,
        (registrationStep host move).2.point ≠ .submitting frame index command := by
  have stepped := registrationStep_stepped host move
  generalize (registrationStep host move).1 = observed at stepped drained
  generalize (registrationStep host move).2 = after at stepped
  cases stepped with
  | owner stepped =>
      cases stepped with
      | _ => cases drained
  | ticked idle generation monotonicMs selected =>
      have taken := RegistrationCommandQueue.drain_drained sound generation
      have same : (host.queue.drain generation).1 = batch := RegistrationObserved.drained.inj drained
      unfold RegistrationHost.beginTick
      dsimp only
      rw [same] at taken ⊢
      refine ⟨?_, fun frame framed => ?_, fun frame index command => ?_⟩
      · exact taken.commands_eq
      · split at framed
        · cases framed
        · split at framed
          · cases framed
          · cases framed
            rfl
      · split
        · exact nofun
        · split <;> exact nofun
  | _ => cases drained

theorem Accounted.step {history : List RegistrationStage} {host : RegistrationHost}
    (accounted : Accounted history host) (move : RegistrationMove) :
    Accounted (history ++ [stageOf registrationStep host move]) (registrationStep host move).2 := by
  have stepped := registrationStep_stepped host move
  have sound := registrationStep_sound accounted.sound move
  have entries := registrationStep_entries accounted.sound move
  rw [accounted.entries, ← waiting_concat] at entries
  have output : (stageOf registrationStep host move).output = (registrationStep host move).1 := rfl
  generalize stageOf registrationStep host move = stage at entries output ⊢
  by_cases drains : ∃ batch, (registrationStep host move).1 = .drained batch
  · obtain ⟨batch, drained⟩ := drains
    obtain ⟨commands, framed, executing⟩ := registrationStep_drained accounted.sound drained
    rw [accounted.entries] at commands
    refine ⟨sound, entries, fun frame known => ?_,
      fun frame index command at_ => absurd at_ (executing frame index command)⟩
    rw [framed frame known]
    exact ⟨history, .now (output.trans drained) commands⟩
  · have undrained : ∀ batch, (registrationStep host move).1 ≠ .drained batch :=
      fun batch drained => drains ⟨batch, drained⟩
    obtain ⟨framed, executing⟩ := stepped_undrained stepped undrained
    refine ⟨sound, entries, fun frame known => ?_, fun frame index command at_ => ?_⟩
    · obtain ⟨older, last⟩ := accounted.framed frame (framed frame known)
      rw [← output] at undrained
      exact ⟨older, last.concat undrained⟩
    · rcases executing frame index command at_ with before | now
      · exact accounted.executing frame index command before
      · exact now

theorem accounted_initial : Accounted [] {} :=
  ⟨RegistrationCommandQueue.sound_initial, rfl, nofun, nofun⟩

theorem run_accounted (inputs : List RegistrationMove) :
    Accounted (stages registrationStep {} inputs) (finalState registrationStep {} inputs) := by
  have everywhere : ∀ stage ∈ stages registrationStep {} inputs, True := fun _ _ => trivial
  exact history_invariant Accounted (fun _ => True)
    (fun history host move known _ => Accounted.step known move) [] accounted_initial everywhere

/-- What waits was accepted since the queue was last cleared; a cancellation may stand before it. -/
theorem waiting_since (history : List RegistrationStage) :
    ∃ older lead since, history = older ++ since ∧
      waiting history = lead ++ since.filterMap acceptedCommand ∧
      (∀ command ∈ lead, command.kind = .cancel) ∧ ∀ stage ∈ since, clears stage = false := by
  induction history using List.reverseRecOn with
  | nil =>
      refine ⟨[], [], [], rfl, rfl, ?_, ?_⟩ <;>
        exact fun _ member => absurd member List.not_mem_nil
  | append_singleton history stage known =>
      obtain ⟨older, lead, since, rfl, accepted, cancels, unclear⟩ := known
      rw [waiting_concat, stillWaiting]
      cases cleared : clears stage with
      | true =>
          refine ⟨older ++ since ++ [stage], (acceptedCommand stage).toList, [], by simp, by simp, ?_,
            fun _ member => absurd member List.not_mem_nil⟩
          intro command member
          exact cancel_of_clears cleared (Option.mem_toList.mp member)
      | false =>
          refine ⟨older, lead, since ++ [stage], by simp, ?_, cancels, ?_⟩
          · rw [accepted, if_neg Bool.false_ne_true, List.filterMap_append, List.append_assoc]
            cases command : acceptedCommand stage <;> simp [command]
          · exact forall_mem_concat unclear cleared

/-- What a tick executes was accepted behind every revocation before the drain. -/
structure ExecutedFrom (before : List RegistrationStage) (stage : RegistrationStage)
    (command : RegistrationCommand) (since during : List RegistrationStage)
    (batch : RegistrationBatch) : Prop where
  split : ∃ older drain, before = older ++ since ++ drain :: during ∧ drain.output = .drained batch
  undrained : ∀ stage ∈ during, ∀ other, stage.output ≠ .drained other
  /-- The tick of that drain is at this command of its batch. -/
  executing : ∃ frame index, stage.before.point = .submitting frame index command ∧
    frame.batch = batch ∧ batch.commands[index]? = some command
  unrevoked : ∀ stage ∈ since, ¬ Revokes stage
  /-- The batch has what was accepted in this part of the run, in its order. -/
  batched : ∃ lead, batch.commands = lead ++ since.filterMap acceptedCommand ∧
    ∀ other ∈ lead, other.kind = .cancel
  submits : command.kind = .submitSelectedAccount
  accepted : command ∈ since.filterMap acceptedCommand

theorem LastDrained.executed {before older : List RegistrationStage} {stage : RegistrationStage}
    {frame : TickFrame} {index : ℕ} {command : RegistrationCommand}
    (last : LastDrained before frame.batch older)
    (at_ : stage.before.point = .submitting frame index command)
    (found : frame.batch.commands[index]? = some command)
    (submits : command.kind = .submitSelectedAccount) :
    ∃ since during, ExecutedFrom before stage command since during frame.batch := by
  obtain ⟨⟨drain, during, rfl, drained, undrained⟩, commands⟩ := last
  obtain ⟨oldest, lead, since, rfl, accepted, cancels, unclear⟩ := waiting_since older
  have member := List.mem_of_getElem? found
  have batched : frame.batch.commands = lead ++ since.filterMap acceptedCommand := by
    rcases commands with none_ | all
    · rw [none_] at member
      cases member
    · exact all.trans accepted
  refine ⟨since, during, ⟨oldest, drain, rfl, drained⟩, undrained, ⟨frame, index, at_, rfl, found⟩,
    ?_, ⟨lead, batched, cancels⟩, submits, ?_⟩
  · intro stage present revokes
    have cleared := clears_of_revokes revokes
    rw [unclear stage present] at cleared
    cases cleared
  · rw [batched] at member
    rcases List.mem_append.mp member with first | later
    · cases submits.symm.trans (cancels command first)
    · exact later

theorem executed_from {inputs : List RegistrationMove} {before after : List RegistrationStage}
    {stage : RegistrationStage} {command : RegistrationCommand}
    (run : stages registrationStep {} inputs = before ++ stage :: after)
    (executes : stage.output = .executes command) :
    ∃ since during batch, ExecutedFrom before stage command since during batch := by
  obtain ⟨first, move, rest, -, rfl, rfl, -⟩ := stages_split run
  have accounted := run_accounted first
  have stepped := registrationStep_stepped (finalState registrationStep {} first) move
  have output : (registrationStep (finalState registrationStep {} first) move).1 =
    .executes command := executes
  rw [output] at stepped
  generalize (registrationStep (finalState registrationStep {} first) move).2 = after at stepped
  cases stepped with
  | owner stepped =>
      cases stepped with
      | @executed frame index command bridge next at_ registers =>
          obtain ⟨found, submits⟩ := accounted.executing frame index command at_
          obtain ⟨older, last⟩ := accounted.framed frame (by rw [at_]; rfl)
          have here : (stageOf registrationStep (finalState registrationStep {} first) move).before.point =
              .submitting frame index command := at_
          obtain ⟨since, during, from_⟩ := last.executed here found submits
          exact ⟨since, during, frame.batch, from_⟩

/-! ## What becomes of a registration -/

/-- A stop of the gateway, as its caller sees it. -/
structure GatewayStop where
  found : Address
  unregisters : Bool
  /-- The callback epoch is revoked already. -/
  revoked : Bool
  deriving DecidableEq, Repr

/-- A successful submission, and the stops that found what it has registered. -/
structure SubmissionFate where
  account : Address
  stops : List GatewayStop := []
  deriving DecidableEq, Repr

/-- The account that the owner's tick was called with. -/
def TickPoint.selected (point : TickPoint) : Address :=
  match point.frame? with
  | some frame => frame.selected
  | none => 0

/-- A stop that finds an owner is one of the newest submission. -/
def fateStep (fates : List SubmissionFate) (stage : RegistrationStage) : List SubmissionFate :=
  match stage.output, fates with
  | .submitted .submitted, fates => ⟨stage.before.point.selected, []⟩ :: fates
  | .stops found unregisters, newest :: older =>
      if found = 0 then newest :: older
      else
        ⟨newest.account,
          newest.stops ++ [⟨found, unregisters, !stage.before.gateway.bridge.active⟩]⟩ :: older
  | _, fates => fates

/-- The gateway answers that the selected account is submitted. -/
def Submits (stage : RegistrationStage) : Bool :=
  match stage.output with
  | .submitted .submitted => true
  | _ => false

/-- What has become of the successful submissions of a history, the newest first. -/
def submissionFates (history : List RegistrationStage) : List SubmissionFate :=
  history.foldl fateStep []

theorem submissionFates_concat (history : List RegistrationStage) (stage : RegistrationStage) :
    submissionFates (history ++ [stage]) = fateStep (submissionFates history) stage := by
  simp only [submissionFates, List.foldl_append, List.foldl_cons, List.foldl_nil]

/-- One stop has undone the submission, and called `ua_unregister` unless it was too late. -/
def SubmissionFate.Undone (fate : SubmissionFate) : Prop :=
  ∃ stop, fate.stops = [stop] ∧ stop.found = fate.account ∧ stop.unregisters = !stop.revoked

/-- The submission that no stop has found yet; inside `ua_unregister` the stop counts already. -/
def RegistrationHost.held (host : RegistrationHost) : List SubmissionFate :=
  match host.point with
  | .unregistering _ => []
  | _ => if host.gateway.owner = 0 then [] else [⟨host.gateway.owner, []⟩]

theorem RegistrationHost.held_of_quiet {host : RegistrationHost}
    (quiet : ∀ next, host.point ≠ .unregistering next) :
    host.held = if host.gateway.owner = 0 then [] else [⟨host.gateway.owner, []⟩] := by
  unfold RegistrationHost.held
  split
  · next at_ => exact absurd at_ (quiet _)
  · rfl

theorem RegistrationHost.held_of_free {host : RegistrationHost} (free : host.gateway.owner = 0) :
    host.held = [] := by
  unfold RegistrationHost.held
  split
  · rfl
  · exact if_pos free

theorem RegistrationHost.held_of_unregistering {host : RegistrationHost}
    {next : Option RegistrationDispatchOutcome} (at_ : host.point = .unregistering next) :
    host.held = [] := by
  rw [RegistrationHost.held, at_]

theorem RegistrationHost.held_congr {host after : RegistrationHost}
    (owner : after.gateway.owner = host.gateway.owner)
    (before_ : ∀ next, host.point ≠ .unregistering next)
    (after_ : ∀ next, after.point ≠ .unregistering next) : after.held = host.held := by
  rw [held_of_quiet before_, held_of_quiet after_, owner]

/-- All that was registered is undone, but for what the gateway holds. -/
structure Owned (fates : List SubmissionFate) (host : RegistrationHost) : Prop where
  /-- Only a gateway without an owner is inside `ua_register`. -/
  registering : ∀ frame index command, host.point = .registering frame index command →
    host.gateway.owner = 0 ∧ frame.selected ≠ 0
  account : ∃ undone, fates = host.held ++ undone ∧ ∀ fate ∈ undone, fate.Undone

theorem owned_initial : Owned [] {} :=
  ⟨nofun, [], rfl, fun _ member => absurd member List.not_mem_nil⟩

/-- A step that neither registers nor stops. -/
theorem Owned.keep {fates : List SubmissionFate} {host after : RegistrationHost}
    (owned : Owned fates host) (held : after.held = host.held)
    (registering : ∀ frame index command, after.point = .registering frame index command →
      after.gateway.owner = 0 ∧ frame.selected ≠ 0) : Owned fates after := by
  refine ⟨registering, ?_⟩
  rw [held]
  exact owned.account

/-- A stop undoes what the gateway holds. -/
theorem Owned.stop {fates : List SubmissionFate} {host after : RegistrationHost}
    {stage : RegistrationStage} (owned : Owned fates host) (before : stage.before = host)
    (unheld : after.held = []) {unregisters : Bool}
    (quiet : ∀ next, host.point ≠ .unregistering next)
    (observed : stage.output = .stops host.gateway.owner unregisters)
    (calls : unregisters = host.gateway.unregisters)
    (elsewhere : ∀ frame index command, after.point ≠ .registering frame index command) :
    Owned (fateStep fates stage) after := by
  obtain ⟨undone, rfl, all⟩ := owned.account
  refine ⟨fun frame index command at_ => absurd at_ (elsewhere frame index command), ?_⟩
  rw [unheld, RegistrationHost.held_of_quiet quiet, fateStep.eq_def, observed, before]
  by_cases free : host.gateway.owner = 0
  · refine ⟨undone, ?_, all⟩
    rw [if_pos free]
    cases undone with
    | nil => rfl
    | cons newest older => exact if_pos free
  · rw [if_neg free]
    dsimp only [List.cons_append, List.nil_append]
    rw [if_neg free]
    refine ⟨_, rfl, ?_⟩
    intro fate member
    rcases List.mem_cons.mp member with rfl | earlier
    · refine ⟨_, rfl, rfl, ?_⟩
      rw [calls, BaresipSdkRegistrationGateway.unregisters, decide_eq_true free]
      simp
    · exact all fate earlier

/-- What is neither a success nor a stop changes no fate. -/
theorem fateStep_quiet {fates : List SubmissionFate} {stage : RegistrationStage}
    (unsubmitted : stage.output ≠ .submitted .submitted)
    (unstopped : ∀ found unregisters, stage.output ≠ .stops found unregisters) :
    fateStep fates stage = fates := by
  unfold fateStep
  split
  · next submitted => exact absurd submitted unsubmitted
  · next stopped => exact absurd stopped (unstopped _ _)
  · rfl

/-- Inside the batch the owner is not in a call of the SDK that unregisters. -/
theorem not_unregistering {host : RegistrationHost} {frame : TickFrame}
    (framed : host.point.frame? = some frame) (next : Option RegistrationDispatchOutcome) :
    host.point ≠ .unregistering next := by
  intro at_
  rw [at_] at framed
  cases framed

/-- A submission that the SDK accepts holds the account; any other leaves the fates as they are. -/
theorem Owned.registered {fates : List SubmissionFate} {host : RegistrationHost}
    {stage : RegistrationStage} (owned : Owned fates host) (before : stage.before = host)
    {frame : TickFrame} {index : ℕ} {command : RegistrationCommand}
    {gateway : BaresipSdkRegistrationGateway} {submission : NativeRegistrationSubmission}
    (output : stage.output = .submitted submission)
    (at_ : host.point = .registering frame index command)
    (owner : gateway.owner = if submission = .submitted then frame.selected
      else host.gateway.owner) :
    Owned (fateStep fates stage)
      { host with gateway := gateway, point := .submitted frame index command submission } := by
  have framed : host.point.frame? = some frame := by rw [at_]; rfl
  obtain ⟨free, selected⟩ := owned.registering frame index command at_
  by_cases submits : submission = .submitted
  · subst submits
    obtain ⟨undone, rfl, all⟩ := owned.account
    refine ⟨nofun, undone, ?_, all⟩
    rw [if_pos rfl] at owner
    have holds : ({ host with
        gateway := gateway
        point := .submitted frame index command .submitted } : RegistrationHost).held =
          [⟨frame.selected, []⟩] := by
      rw [RegistrationHost.held, owner]
      exact if_neg selected
    rw [holds, RegistrationHost.held_of_free free, fateStep.eq_def, output, before, at_]
    rfl
  · rw [fateStep_quiet (output ▸ fun accepted => submits (RegistrationObserved.submitted.inj accepted))
      (fun _ _ => output ▸ nofun)]
    rw [if_neg submits] at owner
    exact owned.keep (RegistrationHost.held_congr owner (not_unregistering framed) nofun) nofun

theorem Owned.ownerStep {fates : List SubmissionFate} {host after : RegistrationHost}
    {observed : RegistrationObserved} {stage : RegistrationStage} (owned : Owned fates host)
    (before : stage.before = host) (output : stage.output = observed)
    (stepped : OwnerStepped host observed after) : Owned (fateStep fates stage) after := by
  have same (unsubmitted : observed ≠ .submitted .submitted)
      (unstopped : ∀ found unregisters, observed ≠ .stops found unregisters) :
      fateStep fates stage = fates :=
    fateStep_quiet (output ▸ unsubmitted) (fun found unregisters => output ▸ unstopped found unregisters)
  have behind (next : Option RegistrationDispatchOutcome) (frame : TickFrame) (index : ℕ)
      (command : RegistrationCommand) : TickPoint.afterStop next ≠ .registering frame index command := by
    cases next <;> exact nofun
  cases stepped with
  | waits idle =>
      rw [same nofun nofun]
      exact owned
  | checked next submission framed follows =>
      rw [same nofun nofun]
      refine owned.keep (RegistrationHost.held_congr rfl (not_unregistering framed) ?_) ?_
      · intro other
        dsimp only
        split
        · exact follows.quiet other
        · exact nofun
      · intro frame index command at_
        dsimp only at at_
        split at at_
        · exact absurd at_ (follows.unregistered frame index command)
        · cases at_
  | settled deadline next framed follows =>
      rw [same nofun nofun]
      refine owned.keep (RegistrationHost.held_congr rfl (not_unregistering framed) follows.quiet) ?_
      exact fun frame index command at_ => absurd at_ (follows.unregistered frame index command)
  | @executed frame index command bridge next at_ registers =>
      rw [same nofun nofun]
      have framed : host.point.frame? = some frame := by rw [at_]; rfl
      rcases registers with ⟨rfl, free, selected⟩ | ⟨submission, rfl⟩
      · refine owned.keep (RegistrationHost.held_congr rfl (not_unregistering framed) nofun) ?_
        intro other position command_ here
        cases here
        exact ⟨free, selected⟩
      · exact owned.keep (RegistrationHost.held_congr rfl (not_unregistering framed) nofun) nofun
  | registered at_ owner => exact owned.registered before output at_ owner
  | unregisters at_ calls =>
      refine owned.stop before rfl ?_ output calls.symm nofun
      intro other here
      cases at_.symm.trans here
  | @stopped next at_ silent =>
      refine owned.stop before (RegistrationHost.held_of_free rfl) ?_ output silent.symm (behind next)
      intro other here
      cases at_.symm.trans here
  | @unregistered next at_ =>
      rw [same nofun nofun]
      refine owned.keep ?_ fun frame index command here => absurd here (behind next frame index command)
      rw [RegistrationHost.held_of_unregistering at_]
      exact RegistrationHost.held_of_free rfl
  | invalidated at_ =>
      rw [same nofun nofun]
      refine owned.keep (RegistrationHost.held_congr rfl ?_ nofun) nofun
      intro other here
      cases at_.symm.trans here
  | returned at_ =>
      rw [same nofun nofun]
      refine owned.keep (RegistrationHost.held_congr rfl ?_ nofun) nofun
      intro other here
      cases at_.symm.trans here

/-- No tick begins inside a native call. -/
theorem beginTick_quiet (host : RegistrationHost) (generation monotonicMs : UInt64)
    (selected : Address) :
    (∀ next, (host.beginTick generation monotonicMs selected).2.point ≠ .unregistering next) ∧
      ∀ frame index command,
        (host.beginTick generation monotonicMs selected).2.point ≠
          .registering frame index command := by
  unfold RegistrationHost.beginTick
  dsimp only
  split
  · exact ⟨nofun, nofun⟩
  · split <;> exact ⟨nofun, nofun⟩

theorem Owned.step {fates : List SubmissionFate} {host : RegistrationHost}
    (owned : Owned fates host) (move : RegistrationMove) :
    Owned (fateStep fates (stageOf registrationStep host move)) (registrationStep host move).2 := by
  have stepped := registrationStep_stepped host move
  have output : (stageOf registrationStep host move).output = (registrationStep host move).1 := rfl
  have before : (stageOf registrationStep host move).before = host := rfl
  generalize stageOf registrationStep host move = stage at output before ⊢
  generalize (registrationStep host move).1 = observed at stepped output
  generalize (registrationStep host move).2 = after at stepped
  have same (unsubmitted : observed ≠ .submitted .submitted)
      (unstopped : ∀ found unregisters, observed ≠ .stops found unregisters) :
      fateStep fates stage = fates :=
    fateStep_quiet (output ▸ unsubmitted) (fun found unregisters => output ▸ unstopped found unregisters)
  cases stepped with
  | owner stepped => exact owned.ownerStep before output stepped
  | began idle =>
      rw [same nofun nofun]
      exact owned.keep rfl owned.registering
  | ticked idle generation monotonicMs selected =>
      rw [same nofun nofun]
      obtain ⟨begun, drained⟩ := beginTick_quiet host generation monotonicMs selected
      refine owned.keep (RegistrationHost.held_congr rfl ?_ begun) ?_
      · intro next at_
        cases idle.symm.trans at_
      · exact fun frame index command at_ => absurd at_ (drained frame index command)
  | stops idle =>
      rw [same nofun nofun]
      refine owned.keep (RegistrationHost.held_congr rfl ?_ nofun) nofun
      intro next at_
      cases idle.symm.trans at_
  | enqueued | refused | invalidated | bridged | ignored | stray =>
      rw [same nofun nofun]
      exact owned.keep rfl owned.registering

theorem run_owned (inputs : List RegistrationMove) :
    Owned (submissionFates (stages registrationStep {} inputs))
      (finalState registrationStep {} inputs) := by
  have everywhere : ∀ stage ∈ stages registrationStep {} inputs, True := fun _ _ => trivial
  refine history_invariant (fun history host => Owned (submissionFates history) host)
    (fun _ => True) (fun history host move known _ => ?_) [] owned_initial everywhere
  rw [submissionFates_concat]
  exact Owned.step known move

/-- Every success has its fate. -/
theorem submissionFates_length (history : List RegistrationStage) :
    (submissionFates history).length = history.countP Submits := by
  induction history using List.reverseRecOn with
  | nil => rfl
  | append_singleton history stage known =>
      rw [submissionFates_concat, List.countP_append, List.countP_singleton, ← known]
      generalize submissionFates history = fates
      unfold fateStep Submits
      split
      · next submitted =>
          rw [submitted]
          rfl
      · next stopped =>
          rw [stopped]
          dsimp only
          split <;> rfl
      · next unsubmitted _ =>
          split
          · next submitted => exact absurd submitted unsubmitted
          · rfl

theorem ownerStepped_remaining {host after : RegistrationHost} {observed : RegistrationObserved}
    (stepped : OwnerStepped host observed after) (busy : host.point ≠ .idle) :
    after.point.remaining < host.point.remaining := by
  have behind (next : Option RegistrationDispatchOutcome) : (TickPoint.afterStop next).remaining < 3 := by
    cases next <;> exact Nat.lt_of_sub_pos (by simp [TickPoint.afterStop, TickPoint.remaining])
  cases stepped with
  | waits idle => exact absurd idle busy
  | checked next submission framed follows =>
      dsimp only
      split
      · exact follows.shrinks
      · exact TickPoint.remaining_of_framed framed
  | settled deadline next framed follows => exact follows.shrinks
  | executed at_ registers =>
      rw [at_]
      rcases registers with ⟨rfl, -⟩ | ⟨submission, rfl⟩
      · exact Nat.lt_succ_self _
      · exact Nat.lt_succ_of_lt (Nat.lt_succ_self _)
  | registered at_ owner =>
      rw [at_]
      exact Nat.lt_succ_self _
  | unregisters at_ calls =>
      rw [at_]
      exact Nat.lt_succ_self 3
  | @stopped next at_ silent =>
      rw [at_]
      exact Nat.lt_succ_of_lt (behind next)
  | @unregistered next at_ =>
      rw [at_]
      exact behind next
  | invalidated at_ =>
      rw [at_]
      exact Nat.lt_succ_self 1
  | returned at_ =>
      rw [at_]
      exact Nat.lt_succ_self 0

/-- A step that the owner takes of what it has begun. -/
def TakenByOwner (stage : RegistrationStage) : Bool :=
  match stage.input with
  | .owner _ => true
  | _ => false

/-- Only the owner moves on while it is busy. -/
theorem registrationStep_remaining {host : RegistrationHost} (busy : host.point ≠ .idle)
    (move : RegistrationMove) :
    (registrationStep host move).2.point.remaining +
        (if TakenByOwner (stageOf registrationStep host move) then 1 else 0) ≤
      host.point.remaining := by
  cases taken : TakenByOwner (stageOf registrationStep host move) with
  | true =>
      unfold TakenByOwner at taken
      split at taken
      · next answers here =>
          have same : move = .owner answers := here
          subst same
          exact ownerStepped_remaining (ownerStep_stepped host answers) busy
      · cases taken
  | false =>
      rcases stepped_busy (registrationStep_stepped host move) busy with owner | untouched
      · exact Nat.le_of_lt (ownerStepped_remaining owner busy)
      · rw [untouched.point]
        exact Nat.le_refl _

/-- A tick under way has spent the steps that its owner has taken. -/
structure Spending (batch : RegistrationBatch) (bound : ℕ) (history : List RegistrationStage)
    (host : RegistrationHost) : Prop where
  ticking : Ticking batch history host
  spent : history.countP TakenByOwner + host.point.remaining ≤ bound

theorem Spending.step {batch : RegistrationBatch} {bound : ℕ} {history : List RegistrationStage}
    {host : RegistrationHost} (spending : Spending batch bound history host)
    (move : RegistrationMove) (within : WithinTick (stageOf registrationStep host move)) :
    Spending batch bound (history ++ [stageOf registrationStep host move])
      (registrationStep host move).2 := by
  refine ⟨spending.ticking.step move within, ?_⟩
  have moved := registrationStep_remaining (TickPoint.ne_idle spending.ticking.ticking) move
  have spent := spending.spent
  rw [List.countP_append, List.countP_singleton]
  omega

theorem TickPoint.remaining_pos {point : TickPoint} (busy : point ≠ .idle) : 0 < point.remaining := by
  cases point with
  | idle => exact absurd rfl busy
  | _ => exact Nat.succ_pos _

/-- The owner is not kept from the return of a tick. -/
theorem tick_bounded {inputs : List RegistrationMove} {before during : List RegistrationStage}
    {drain : RegistrationStage} {batch : RegistrationBatch}
    (run : stages registrationStep {} inputs = before ++ drain :: during)
    (drained : drain.output = .drained batch) (within : ∀ stage ∈ during, WithinTick stage) :
    during.countP TakenByOwner < drain.after.point.remaining := by
  obtain ⟨first, move, rest, -, rfl, rfl, behind⟩ := stages_split run
  have start := registrationStep_ticking (run_sound first) drained
  rw [behind] at within ⊢
  have spending := history_invariant (Spending batch _) WithinTick
    (fun history host input known allowed => Spending.step known input allowed) []
    ⟨start, Nat.le_of_eq (Nat.zero_add _)⟩ within
  have busy := TickPoint.remaining_pos (TickPoint.ne_idle spending.ticking.ticking)
  have spent := spending.spent
  rw [List.nil_append] at spent
  exact Nat.lt_of_lt_of_le (Nat.lt_add_of_pos_right busy) spent

/-- What holds of a run, wherever the other threads come in. -/
structure RevocationWins (history : List RegistrationStage) (host : RegistrationHost) : Prop where
  /-- The owner's own steps bring a tick to its return. -/
  bounded : ∀ before drain during batch, history = before ++ drain :: during →
    drain.output = .drained batch → (∀ stage ∈ during, WithinTick stage) →
      during.countP TakenByOwner < drain.after.point.remaining
  overtaken : ∀ before drain during return_ after batch outcome,
    history = before ++ drain :: (during ++ return_ :: after) → drain.output = .drained batch →
      (∀ stage ∈ during, WithinTick stage) → return_.output = .returned outcome →
        Overtaken during → SupersededReturn batch outcome return_.after after
  executed : ∀ before stage after command, history = before ++ stage :: after →
    stage.output = .executes command →
      ∃ since during batch, ExecutedFrom before stage command since during batch
  /-- The gateway has a fate for every success. -/
  fates : (submissionFates history).length = history.countP Submits
  /-- All are undone but for the one that the gateway still holds. -/
  undone : ∃ undone, submissionFates history = host.held ++ undone ∧ ∀ fate ∈ undone, fate.Undone

theorem revocation_wins (inputs : List RegistrationMove) :
    RevocationWins (stages registrationStep {} inputs) (finalState registrationStep {} inputs) where
  bounded _ _ _ _ run drained within := tick_bounded run drained within
  overtaken _ _ _ _ _ _ _ run drained within returned overtaken :=
    overtaken_returns run drained within returned overtaken
  executed _ _ _ _ run executes := executed_from run executes
  fates := submissionFates_length _
  undone := (run_owned inputs).account

end AxeVoice.Native
