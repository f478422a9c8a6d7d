import AxeVoice.Native.HostRefusals

/-!
# Commands of the host and its generations

A submission is executed at most once, in a tick of the generation it names, and
generations only rise.  A call that returns false leaves nothing registered once
a tick has drained the queue behind it, or `on_stop` is done.
-/

namespace AxeVoice.Native

open AxeVoice.Foundation

/-- A command is executed for a submission that was accepted before, and not executed. -/
structure ExecutedFor (before : List HostStage) (stage : HostStage) (command : RegistrationCommand)
    (submission : HostSubmission) : Prop where
  same : submission.command = command
  accepted : ∃ accept ∈ before, accept.output = .enqueued submission.call .accepted command
  unexecuted : submission.call ∉ (hostLedger before).executed.map HostSubmission.call
  counted : (hostLedger (before ++ [stage])).executed =
    (hostLedger before).executed ++ [submission]
  /-- The tick is one of the generation that the command names. -/
  ticking : stage.before.owner = .ticking
  generation : command.generation = stage.before.ownerGeneration

theorem issued_accepted {history : List HostStage} {submission : HostSubmission}
    (issued : submission ∈ (hostLedger history).issued) :
    ∃ stage ∈ history, stage.output = .enqueued submission.call .accepted submission.command := by
  induction history using List.reverseRecOn with
  | nil => cases issued
  | append_singleton history stage ih =>
      have earlier (before : submission ∈ (hostLedger history).issued) :
          ∃ other ∈ history ++ [stage],
            other.output = .enqueued submission.call .accepted submission.command := by
        obtain ⟨other, member, output⟩ := ih before
        exact ⟨other, List.mem_append_left _ member, output⟩
      rw [hostLedger_concat] at issued
      cases output : stage.output with
      | enqueued number answer command =>
          rw [output] at issued
          cases answer with
          | refused => exact earlier issued
          | overflowed => exact earlier issued
          | accepted =>
              rw [HostLedger.note] at issued
              split at issued
              · exact earlier issued
              · rcases List.mem_append.mp issued with before | now
                · exact earlier before
                · rw [List.mem_singleton.mp now]
                  exact ⟨stage, List.mem_append_right _ (List.mem_singleton_self _), output⟩
      | dispatched observed =>
          rw [output, ((hostLedger history).note_dispatched observed).1] at issued
          exact earlier issued
      | nothing | returned | began | tickBegins | invalidated | stopped | startReturned | startThrew
      | stopReturned =>
          rw [output] at issued
          exact earlier issued

theorem executes_point {host : BaresipNativeRegistrationHost} {move : HostMove}
    {command : RegistrationCommand} (coupled : ThreadsCoupled host)
    (executes : (hostStep host move).1 = .dispatched (.executes command)) :
    ∃ frame index, host.dispatch.point = .submitting frame index command := by
  have stepped := hostStep_stepped coupled move
  generalize (hostStep host move).1 = observed at stepped executes
  generalize (hostStep host move).2 = after at stepped
  cases stepped with
  | elsewhere unseen same calls minds =>
      rw [executes] at unseen
      exact absurd unseen id
  | called other unseen live keeps =>
      rw [executes] at unseen
      exact absurd unseen id
  | submits | cancels | invalidated | began | turned => cases executes
  | drained idle owned dispatch calls loops lifecycle minds => cases executes
  | worked sdk dispatch calls minds =>
      have output := HostObserved.dispatched.inj executes
      have stepped := ownerStep_stepped host.dispatch sdk
      generalize (host.dispatch.ownerStep sdk).1 = observed at stepped output
      generalize (host.dispatch.ownerStep sdk).2 = next at stepped
      cases stepped with
      | executed at_ registers =>
          cases output
          exact ⟨_, _, at_⟩
      | waits | checked | settled | registered | unregisters | stopped | unregistered | invalidated
      | returned => cases output

/-- The owner's thread is in a tick where the dispatcher has a batch. -/
theorem ticking_of_framed {host : BaresipNativeRegistrationHost} (coupled : ThreadsCoupled host)
    {frame : TickFrame} (framed : host.dispatch.point.frame? = some frame) :
    host.owner = .ticking := by
  have point := coupled.point
  cases at_ : host.owner with
  | ticking => rfl
  | stopping =>
      rw [at_] at point
      rcases point with here | here
      · rw [here] at framed
        cases framed
      · rw [here] at framed
        cases framed
  | absent | initializing | creating | publishing | admitting | announcing | looping | entering
  | leaving | refusing | invalidating | releasing | clearing | detaching | finished =>
      rw [at_] at point
      rw [show host.dispatch.point = .idle from point] at framed
      cases framed

theorem executed_for {moves : List HostMove} {before behind : List HostStage} {stage : HostStage}
    {command : RegistrationCommand} (run : stages hostStep {} moves = before ++ stage :: behind)
    (executes : stage.output = .dispatched (.executes command)) :
    ∃ submission, ExecutedFor before stage command submission := by
  obtain ⟨first, move, rest, -, rfl, rfl, -⟩ := stages_split run
  have known := host_known first
  obtain ⟨frame, index, at_⟩ := executes_point known.coupled executes
  have tracks := known.reconciled.point
  rw [at_] at tracks
  obtain ⟨submission, later, taken, same, generation, -⟩ := tracks
  have ticking := ticking_of_framed known.coupled (by rw [at_]; rfl)
  have owned := known.coupled.owned (known.coupled.ticking ticking)
  have order := known.reconciled.order
  rw [HostLedger.pipeline, taken] at order
  have issued : submission ∈ (hostLedger (stages hostStep {} first)).issued :=
    order.subset (by simp)
  refine ⟨submission, same, ?_, ?_, ?_, ticking, generation.trans owned.2.symm⟩
  · rw [← same]
    exact issued_accepted issued
  · have distinct := known.reconciled.distinct.sublist (order.map HostSubmission.call)
    rw [List.append_assoc, List.map_append, List.nodup_append] at distinct
    intro member
    exact distinct.2.2 _ member submission.call (by simp) rfl
  · rw [hostLedger_concat, executes, HostLedger.note, HostLedger.execute_cons taken]

/-- Where a call of `submit_for_generation` may stand. -/
def CallPoint.Names (id : UInt64) (timeoutMs : UInt32) : CallPoint → Prop
  | .admitting named timeout | .comparing named timeout | .enqueueing named timeout =>
      named = id ∧ timeout = timeoutMs
  | .waking _ | .withdrawing _ | .returning _ | .returned => True
  | _ => False

theorem names_step {host : BaresipNativeRegistrationHost} {number : ℕ} {id : UInt64}
    {timeoutMs : UInt32} (names : (host.calls number).Names id timeoutMs) (move : HostMove) :
    ((hostStep host move).2.calls number).Names id timeoutMs := by
  rcases hostStep_calls host move number with same | ⟨pushed, rfl⟩ | ⟨request, rfl, unmade⟩
  · rw [same]
    exact names
  · rw [hostStep, BaresipNativeRegistrationHost.advanceCall]
    cases at_ : host.calls number with
    | returned =>
        dsimp only
        rw [at_]
        trivial
    | admitting named timeout | comparing named timeout =>
        rw [at_] at names
        dsimp only
        rw [withCall_same]
        split
        · first | exact names | trivial
        · first | exact names | trivial
    | enqueueing named timeout | waking named =>
        dsimp only
        rw [withCall_same]
        split <;> trivial
    | withdrawing named | returning answer =>
        dsimp only
        rw [withCall_same]
        trivial
    | unmade | naming | cancelNaming | cancelAdmitting | cancelling | cancelWaking =>
        rw [at_] at names
        exact absurd names (fun none_ => none_)
  · rw [unmade] at names
    exact absurd names (fun none_ => none_)

theorem named_enqueues {host : BaresipNativeRegistrationHost} (coupled : ThreadsCoupled host)
    {number : ℕ} {id : UInt64} {timeoutMs : UInt32}
    (names : (host.calls number).Names id timeoutMs) {move : HostMove} {answer : Enqueued}
    {command : RegistrationCommand}
    (enqueued : (hostStep host move).1 = .enqueued number answer command)
    (submits : command.kind = .submitSelectedAccount) :
    command = ⟨.submitSelectedAccount, id, timeoutMs⟩ := by
  have stepped := hostStep_stepped coupled move
  generalize (hostStep host move).1 = observed at stepped enqueued
  generalize (hostStep host move).2 = after at stepped
  cases stepped with
  | elsewhere unseen same calls minds =>
      rw [enqueued] at unseen
      exact absurd unseen (fun none_ => none_)
  | called other unseen live keeps =>
      rw [enqueued] at unseen
      exact absurd unseen (fun none_ => none_)
  | submits at_ =>
      cases enqueued
      rw [at_] at names
      obtain ⟨rfl, rfl⟩ := names
      rfl
  | cancels at_ =>
      cases enqueued
      cases submits
  | invalidated | began | turned | worked => cases enqueued
  | drained idle owned dispatch calls loops lifecycle minds => cases enqueued

/-- What a call of `submit_for_generation` enqueues names the generation it was called for. -/
theorem submissions_named (moves : List HostMove) :
    (stages hostStep {} moves).Pairwise fun made later => ∀ number id timeoutMs answer command,
      made.input = .call number (.submitForGeneration id timeoutMs) →
      made.before.calls number = .unmade → later.output = .enqueued number answer command →
      command.kind = .submitSelectedAccount →
        command = ⟨.submitSelectedAccount, id, timeoutMs⟩ := by
  refine stages_pairwise ThreadsCoupled
    (fun made host => ∀ number id timeoutMs,
      made.input = .call number (.submitForGeneration id timeoutMs) →
      made.before.calls number = .unmade → (host.calls number).Names id timeoutMs)
    _ (fun host move known => known.step move) ?_ ?_ ?_ threadsCoupled_initial moves
  · intro host move coupled number id timeoutMs input unmade
    have made : move = .call number (.submitForGeneration id timeoutMs) := input
    have before : host.calls number = .unmade := unmade
    rw [made, hostStep, beginCall_calls before]
    exact ⟨rfl, rfl⟩
  · intro earlier host move coupled known number id timeoutMs input unmade
    exact names_step (known number id timeoutMs input unmade) move
  · intro earlier host move coupled known number id timeoutMs answer command input unmade enqueued
    exact named_enqueues coupled (known number id timeoutMs input unmade) enqueued

theorem HostStepped.last_le {host after : BaresipNativeRegistrationHost} {observed : HostObserved}
    (stepped : HostStepped host observed after) :
    host.dispatch.queue.lastGeneration ≤ after.dispatch.queue.lastGeneration := by
  have kept {queue : RegistrationCommandQueue} (keeps : host.dispatch.queue.QueueKeeps queue) :
      host.dispatch.queue.lastGeneration ≤ queue.lastGeneration :=
    UInt64.le_of_eq keeps.lastGeneration.symm
  cases stepped with
  | elsewhere unseen same calls minds =>
      rw [same.queue]
      exact UInt64.le_refl _
  | called number unseen live keeps => exact UInt64.le_refl _
  | submits at_ => exact kept (submit_keeps _ _ _)
  | cancels at_ => exact kept (RegistrationCommandQueue.enqueue_keeps _ _)
  | invalidated dispatch calls unminded =>
      rw [dispatch]
      exact UInt64.le_refl _
  | began begun dispatch calls unminded =>
      obtain ⟨generation, last, newer⟩ := RegistrationCommandQueue.beginGeneration_begun begun
      rw [dispatch]
      dsimp only
      rw [← last, generation]
      exact UInt64.le_of_lt newer
  | drained idle owned dispatch calls loops lifecycle minds =>
      rw [dispatch]
      exact kept (RegistrationCommandQueue.drain_keeps _ _)
  | worked sdk dispatch calls minds =>
      rw [dispatch]
      exact kept (dispatcher_stepped host.dispatch sdk).queue
  | turned dispatch calls unminded =>
      rcases dispatch with same | same
      · rw [same]
        exact UInt64.le_refl _
      · rw [same]
        exact UInt64.le_refl _

/-- A generation that begins is the last one, and above the last one before. -/
theorem began_last {host : BaresipNativeRegistrationHost} {move : HostMove} {generation : UInt64}
    (began : (hostStep host move).1 = .began generation) :
    host.dispatch.queue.lastGeneration < generation ∧
      generation = (hostStep host move).2.dispatch.queue.lastGeneration := by
  have answered := hostStep_answered host move
  generalize (hostStep host move).1 = observed at answered began
  generalize (hostStep host move).2 = after at answered ⊢
  cases answered with
  | other plain =>
      rw [began] at plain
      exact absurd plain id
  | began at_ begun queue =>
      cases began
      obtain ⟨same, last, newer⟩ := RegistrationCommandQueue.beginGeneration_begun begun
      refine ⟨newer, ?_⟩
      rw [queue, ← last, same]
  | returned | stopped | startReturned | stopReturned => cases began

/-- Every generation that begins is above those before it, whatever is left in the queue. -/
theorem generations_rise (moves : List HostMove) :
    (stages hostStep {} moves).Pairwise fun older newer => ∀ earlier later,
      older.output = .began earlier → newer.output = .began later → earlier < later := by
  refine stages_pairwise ThreadsCoupled
    (fun stage host => ∀ generation, stage.output = .began generation →
      generation ≤ host.dispatch.queue.lastGeneration) _ (fun host move known => known.step move) ?_ ?_
    ?_ threadsCoupled_initial moves
  · intro host move coupled generation began
    have last := began_last began
    exact UInt64.le_of_eq last.2
  · intro earlier host move coupled known generation began
    exact UInt64.le_trans (known generation began) (hostStep_stepped coupled move).last_le
  · intro earlier host move coupled known older newer before began
    exact UInt64.lt_of_le_of_lt (known older before) (began_last began).1

/-- A `start` that succeeds has begun the generation that is published when it returns. -/
structure StartBegan (before : List HostStage) (generation : UInt64) : Prop where
  nonzero : generation ≠ 0
  since : ∃ since, SinceStart before since ∧ ∃ stage ∈ since, stage.output = .began generation

theorem start_began {moves : List HostMove} {before behind : List HostStage} {stage : HostStage}
    (run : stages hostStep {} moves = before ++ stage :: behind)
    (started : stage.output = .startReturned true) :
    StartBegan before stage.before.activeGeneration := by
  obtain ⟨first, move, rest, -, rfl, rfl, -⟩ := stages_split run
  have known := start_known first
  have coupled := threads_coupled first
  have answered := hostStep_answered (finalState hostStep {} first) move
  have output : (hostStep (finalState hostStep {} first) move).1 = .startReturned true := started
  generalize (hostStep (finalState hostStep {} first) move).1 = observed at answered output
  generalize (hostStep (finalState hostStep {} first) move).2 = after at answered
  dsimp only [stageOf]
  cases answered with
  | other plain =>
      rw [output] at plain
      exact absurd plain id
  | startReturned at_ accepting =>
      have nonzero := known.published (.inr accepting)
      obtain ⟨since, parted, begun⟩ := known.started (by rw [at_]; rfl)
      refine ⟨nonzero, since, parted, ?_⟩
      rw [(coupled.active nonzero).2]
      exact begun ⟨.inr at_, .inl accepting⟩
  | returned | began | stopped | stopReturned => cases output

/-- What holds of the commands of every run. -/
structure CommandsKept (moves : List HostMove) : Prop where
  /-- A submission is executed at most once, in a tick of the generation that it names. -/
  once : ((hostLedger (stages hostStep {} moves)).executed.map HostSubmission.call).Nodup
  executed : ∀ before stage behind command,
    stages hostStep {} moves = before ++ stage :: behind →
    stage.output = .dispatched (.executes command) →
      ∃ submission, ExecutedFor before stage command submission
  named : (stages hostStep {} moves).Pairwise fun made later =>
    ∀ number id timeoutMs answer command,
      made.input = .call number (.submitForGeneration id timeoutMs) →
      made.before.calls number = .unmade → later.output = .enqueued number answer command →
      command.kind = .submitSelectedAccount →
        command = ⟨.submitSelectedAccount, id, timeoutMs⟩
  /-- A tick that drains the queue behind a call that has returned false clears what it started. -/
  refused : ∀ before refusal between drain during return_ behind number batch outcome,
    stages hostStep {} moves =
      before ++ refusal :: (between ++ drain :: (during ++ return_ :: behind)) →
    refusal.output = .returned number false →
    drain.output = .dispatched (.drained batch) → ¬ drain.before.Stopping →
    (∀ stage ∈ during, ∀ other, stage.output ≠ .dispatched (.drained other)) →
    return_.output = .dispatched (.returned outcome) →
      ¬ StillSubmitted number (hostLedger (stages hostStep {} moves)) (finalState hostStep {} moves)
  /-- So does `on_stop`. -/
  withdrawn : ∀ before refusal between stop behind number,
    stages hostStep {} moves = before ++ refusal :: (between ++ stop :: behind) →
    refusal.output = .returned number false → stop.output = .stopped →
      ¬ StillSubmitted number (hostLedger (stages hostStep {} moves)) (finalState hostStep {} moves)
  /-- Behind a `stop`, up to the next `start`, all is down and every new call returns false. -/
  down : ∀ before stop behind, stages hostStep {} moves = before ++ stop :: behind →
    stop.output = .stopReturned true → (∀ stage ∈ behind, stage.input ≠ .start) →
      AllDown (finalState hostStep {} moves) ∧
        ∀ number, stop.before.calls number = .unmade →
          ∀ stage ∈ behind, ∀ answer, stage.output = .returned number answer → answer = false
  rising : (stages hostStep {} moves).Pairwise fun older newer => ∀ earlier later,
    older.output = .began earlier → newer.output = .began later → earlier < later
  started : ∀ before stage behind, stages hostStep {} moves = before ++ stage :: behind →
    stage.output = .startReturned true → StartBegan before stage.before.activeGeneration

theorem commands_kept (moves : List HostMove) : CommandsKept moves := by
  constructor
  · have known := host_known moves
    have order : (hostLedger (stages hostStep {} moves)).executed.Sublist
        (hostLedger (stages hostStep {} moves)).issued := by
      refine List.Sublist.trans ?_ known.reconciled.order
      rw [HostLedger.pipeline, List.append_assoc]
      exact List.sublist_append_left _ _
    exact known.reconciled.distinct.sublist (order.map HostSubmission.call)
  · exact fun before stage behind command run executes => executed_for run executes
  · exact submissions_named moves
  · intro before refusal between drain during return_ behind number batch outcome run refused
      drained minded one returned
    exact refused_cleared run refused drained minded one returned
  · intro before refusal between stop behind number run refused stopped
    exact stopped_cleared run refused stopped
  · exact fun before stop behind run stopped unstarted => stopped_refuses run stopped unstarted
  · exact generations_rise moves
  · exact fun before stage behind run started => start_began run started

/-- The owner's thread comes up, and the SDK takes the account. -/
def calm : OwnerAnswers := ⟨true, 1000, 1, ⟨⟨true, true⟩, false, true⟩⟩

/-- A `start` that succeeds. -/
def startMoves : List HostMove :=
  .start :: List.replicate 3 (.lifecycle true) ++ List.replicate 5 (.owner calm) ++
    List.replicate 2 (.lifecycle true)

/-- A call submits, a tick registers the account, and only then the wake fails. -/
def refusalMoves : List HostMove :=
  startMoves ++ .call 0 (.submitForGeneration 1 1000) :: List.replicate 3 (.advance 0 true) ++
    .fires :: List.replicate 10 (.owner calm) ++ List.replicate 2 (.advance 0 false)

/-- A `stop` invalidates the queue, and with it the cancellation. -/
def overtakingMoves : List HostMove := .stop :: List.replicate 2 (.lifecycle true)

/-- The first tick behind the call, if a `stop` overtakes it, leaves the registration submitted. -/
theorem stale_tick_keeps_registration :
    ¬ ∀ moves before refusal between begins during return_ number outcome,
      stages hostStep {} moves =
        before ++ refusal :: (between ++ begins :: (during ++ [return_])) →
      refusal.output = .returned number false → begins.output = .tickBegins →
      (∀ stage ∈ between ++ during, stage.output ≠ .tickBegins) →
      return_.output = .dispatched (.returned outcome) →
        ¬ StillSubmitted number (hostLedger (stages hostStep {} moves))
          (finalState hostStep {} moves) := by
  intro claimed
  refine claimed
    (refusalMoves ++ .advance 0 false :: (overtakingMoves ++ .fires :: [.owner calm, .owner calm]))
    (stages hostStep {} refusalMoves) (stageOf hostStep _ (.advance 0 false))
    (stages hostStep _ overtakingMoves) (stageOf hostStep _ .fires)
    (stages hostStep _ [.owner calm]) (stageOf hostStep _ (.owner calm)) 0 (.of .staleGeneration)
    rfl rfl rfl ?_ rfl ⟨rfl, _, rfl, rfl⟩
  intro stage member
  have mapped := List.mem_map_of_mem (f := Stage.output) member
  have observed : stage.output ∈
    [HostObserved.nothing, .nothing, .invalidated, .dispatched (.drained {})] := mapped
  simp only [List.mem_cons, List.not_mem_nil, or_false] at observed
  rcases observed with output | output | output | output <;> simp [output]

end AxeVoice.Native
