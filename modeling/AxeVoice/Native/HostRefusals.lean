import AxeVoice.Native.HostLedger
import AxeVoice.Native.HostLifecycle

/-!
# Calls of the host that return false

Such a call leaves the generation of its submission closed, so that the next tick
to drain the queue ends with the gateway stopped, unless a `stop` has taken the
cancellation away before; there `on_stop` stops the gateway.
-/

namespace AxeVoice.Native

open AxeVoice.Foundation

/-- The queue is closed, and tells the owner nothing. -/
structure RegistrationCommandQueue.Silent (queue : RegistrationCommandQueue) : Prop where
  closed : queue.opened = false
  entries : queue.entries = []
  calm : queue.overflow = false

/-- The tick ends with nothing submitted, whatever the SDK answers. -/
def Condemned : TickPoint → Address → Prop
  | .deciding frame index _, _ =>
      ∃ command, frame.batch.commands[index]? = some command ∧ command.kind = .cancel
  | .stopping _, _ | .unregistering _, _ => True
  | .idle, owner | .invalidating _, owner | .returning _, owner => owner = 0
  | _, _ => False

theorem decideCommand_condemned {host : RegistrationHost} (frame : TickFrame) (index : ℕ)
    {command : RegistrationCommand} (cancel : command.kind = .cancel) (owner : Address) :
    Condemned (host.decideCommand frame index command).2.point owner := by
  rw [RegistrationHost.decideCommand]
  split
  · trivial
  · trivial

theorem ownerStep_condemned {host : RegistrationHost} (condemned : Condemned host.point host.gateway.owner)
    (sdk : SdkAnswers) :
    Condemned (host.ownerStep sdk).2.point (host.ownerStep sdk).2.gateway.owner := by
  rw [RegistrationHost.ownerStep]
  cases at_ : host.point with
  | idle =>
      rw [at_] at condemned
      dsimp only
      rw [at_]
      exact condemned
  | deciding frame index result =>
      rw [at_] at condemned
      obtain ⟨command, found, cancel⟩ := condemned
      dsimp only
      rw [found]
      exact decideCommand_condemned frame index cancel _
  | submitting | registering | submitted | arming | armed =>
      rw [at_] at condemned
      exact absurd condemned id
  | stopping next =>
      dsimp only
      split
      · trivial
      · dsimp only
        cases next <;> rfl
  | unregistering next =>
      dsimp only
      cases next <;> rfl
  | invalidating outcome | returning outcome =>
      rw [at_] at condemned
      exact condemned

/-- What is asked of the queue leaves it something to tell, if it closes it. -/
theorem Enqueues.silent {queue after : RegistrationCommandQueue} {command : RegistrationCommand}
    {answer : Enqueued} (enqueues : Enqueues queue command answer after) (silent : after.Silent) :
    queue.Silent := by
  obtain ⟨closed, entries, calm⟩ := silent
  cases enqueues with
  | refused => exact ⟨closed, entries, calm⟩
  | cancelled kind => cases entries
  | overflowed => cases calm
  | accepted kind opened nonzero generation => cases closed.symm.trans opened

/-- The owner's drain of its own generation finds nothing only where there is nothing. -/
theorem drain_owned {queue : RegistrationCommandQueue} {generation : UInt64}
    (nonzero : generation ≠ 0) (same : generation = queue.generation) :
    queue.drain generation = ({}, queue) ∧ queue.Silent ∨
      ∃ batch, queue.drain generation = (batch, { queue with entries := [], overflow := false }) ∧
        batch.generation = generation ∧ batch.overflow = queue.overflow ∧
        (queue.overflow = false → batch.commands = queue.entries) ∧ ¬ queue.Silent := by
  have current : ¬ ((decide (generation = 0) || decide (queue.generation ≠ generation)) = true) := by
    rw [Bool.or_eq_true, decide_eq_true_eq, decide_eq_true_eq]
    rintro (none_ | other)
    · exact nonzero none_
    · exact other same.symm
  rw [RegistrationCommandQueue.drain, if_neg current]
  split
  · next silent =>
      simp only [Bool.and_eq_true, List.isEmpty_iff, Bool.not_eq_true'] at silent
      obtain ⟨⟨closed, entries⟩, calm⟩ := silent
      exact .inl ⟨rfl, closed, entries, calm⟩
  · next speaks =>
      refine .inr ⟨_, rfl, same.symm, rfl, ?_, ?_⟩
      · intro calm
        rw [calm]
        rfl
      · rintro ⟨closed, entries, calm⟩
        rw [closed, entries, calm] at speaks
        exact speaks rfl

theorem drain_opened (queue : RegistrationCommandQueue) (generation : UInt64) :
    (queue.drain generation).2.opened = queue.opened := by
  rw [RegistrationCommandQueue.drain]
  split
  · rfl
  · split <;> rfl

theorem drain_silent {queue : RegistrationCommandQueue} {generation : UInt64}
    (nonzero : generation ≠ 0) (same : generation = queue.generation)
    (closed : queue.opened = false) : (queue.drain generation).2.Silent := by
  rcases drain_owned nonzero same with ⟨drained, silent⟩ | ⟨batch, drained, -⟩
  · rw [drained]
    exact silent
  · rw [drained]
    exact ⟨closed, rfl, rfl⟩

/-- A drain of a closed queue condemns its tick. -/
theorem beginTick_condemned {host : RegistrationHost} {waiting : List HostSubmission}
    (waits : Waits host.queue waiting) {generation : UInt64} (nonzero : generation ≠ 0)
    (same : generation = host.queue.generation)
    (free : host.queue.Silent → host.gateway.owner = 0) (monotonicMs : UInt64) (selected : Address)
    (closed : host.queue.opened = false) :
    Condemned (host.beginTick generation monotonicMs selected).2.point
      (host.beginTick generation monotonicMs selected).2.gateway.owner := by
  rw [RegistrationHost.beginTick]
  rcases drain_owned nonzero same with ⟨drained, silent⟩ | ⟨batch, drained, mine, overflow, rest⟩
  · rw [drained]
    dsimp only
    rw [if_pos (by simp [nonzero.symm])]
    exact free silent
  · obtain ⟨commands, speaks⟩ := rest
    rw [drained]
    dsimp only
    rw [if_neg (by simp [mine, nonzero])]
    split
    · trivial
    · next calm =>
        rw [overflow, Bool.not_eq_true] at calm
        cases waits with
        | opened opened => cases closed.symm.trans opened
        | closed closed entries =>
            rcases entries with none_ | ⟨command, kind, only⟩
            · exact absurd ⟨closed, none_, calm⟩ speaks
            · refine ⟨command, ?_, kind⟩
              dsimp only
              rw [commands calm, only]
              rfl

theorem beginTick_invalidating (host : RegistrationHost) (generation monotonicMs : UInt64)
    (selected : Address) (outcome : RegistrationDispatchOutcome) :
    (host.beginTick generation monotonicMs selected).2.point ≠ .invalidating outcome := by
  rw [RegistrationHost.beginTick]
  dsimp only
  split
  · exact fun at_ => by cases at_
  · split
    · exact fun at_ => by cases at_
    · exact fun at_ => by cases at_

/-- While the owner minds the queue, a closed queue with nothing to tell leaves nothing submitted. -/
structure Attentive (host : BaresipNativeRegistrationHost) : Prop where
  condemned : host.Minding → host.dispatch.queue.Silent →
    Condemned host.dispatch.point host.dispatch.gateway.owner
  invalidating : ∀ outcome, host.dispatch.point = .invalidating outcome →
    host.dispatch.gateway.owner = 0

theorem attentive_initial : Attentive {} where
  condemned minding := by cases minding.1
  invalidating _ at_ := by cases at_

theorem check_invalidating {host : RegistrationHost} {batch : RegistrationBatch}
    {superseded outcome : RegistrationDispatchOutcome} {next : TickPoint}
    (other : next ≠ .invalidating outcome) :
    (host.check batch superseded next).2.point ≠ .invalidating outcome := by
  rw [RegistrationHost.check]
  dsimp only
  split
  · exact other
  · exact fun at_ => by cases at_

/-- Before the queue is invalidated in a tick the gateway has been stopped. -/
theorem ownerStep_invalidating {host : RegistrationHost} (sdk : SdkAnswers)
    {outcome : RegistrationDispatchOutcome}
    (at_ : (host.ownerStep sdk).2.point = .invalidating outcome) :
    (host.ownerStep sdk).2.gateway.owner = 0 := by
  rw [RegistrationHost.ownerStep] at at_ ⊢
  cases here : host.point with
  | idle =>
      rw [here] at at_
      cases here.symm.trans at_
  | deciding frame index result =>
      rw [here] at at_
      dsimp only at at_
      cases found : frame.batch.commands[index]? with
      | none =>
          rw [found, RegistrationHost.poll] at at_
          dsimp only at at_
          split at at_ <;> cases at_
      | some command =>
          rw [found] at at_
          dsimp only at at_
          rw [RegistrationHost.decideCommand] at at_
          split at at_
          · cases at_
          · split at at_
            · cases at_
            · exact absurd at_ (check_invalidating (by simp))
  | submitting frame index command =>
      rw [here] at at_
      dsimp only at at_
      split at at_ <;> cases at_
  | registering | returning =>
      rw [here] at at_
      cases at_
  | submitted =>
      rw [here] at at_
      exact absurd at_ (check_invalidating (by simp))
  | arming frame index command submission =>
      rw [here] at at_
      dsimp only at at_
      split at at_
      · cases at_
      · dsimp only at at_
        split at at_ <;> cases at_
  | armed =>
      rw [here] at at_
      exact absurd at_ (check_invalidating (by simp))
  | stopping next =>
      rw [here] at at_
      dsimp only at at_ ⊢
      split
      · next calls =>
          rw [if_pos calls] at at_
          cases at_
      · rfl
  | unregistering next => rfl
  | invalidating =>
      rw [here] at at_
      cases at_

/-- In a tick the queue is touched in one place. -/
theorem ownerStep_queue (host : RegistrationHost) (sdk : SdkAnswers) :
    (host.ownerStep sdk).2.queue = host.queue ∨ ∃ outcome, host.point = .invalidating outcome := by
  have stepped := ownerStep_stepped host sdk
  generalize (host.ownerStep sdk).1 = observed at stepped
  generalize (host.ownerStep sdk).2 = after at stepped ⊢
  cases stepped with
  | invalidated at_ => exact .inr ⟨_, at_⟩
  | waits | checked | settled | executed | registered | unregisters | stopped | unregistered
  | returned => exact .inl rfl

namespace Attentive

variable {host after : BaresipNativeRegistrationHost}

theorem step (attentive : Attentive host) {ledger : HostLedger} (coupled : ThreadsCoupled host)
    (reconciled : Reconciled ledger host) {observed : HostObserved}
    (stepped : HostStepped host observed after) : Attentive after := by
  cases stepped with
  | elsewhere unseen same calls minds =>
      constructor
      · intro minding silent
        rw [same.queue] at silent
        rw [same.point, same.owner]
        rcases minds minding with before | ⟨idle, free⟩
        · exact attentive.condemned before silent
        · rw [idle]
          exact free
      · rw [same.point, same.owner]
        exact attentive.invalidating
  | called number unseen live keeps => exact ⟨attentive.condemned, attentive.invalidating⟩
  | submits at_ =>
      exact ⟨fun minding silent => attentive.condemned minding ((submit_enqueues _ _ _).silent silent),
        attentive.invalidating⟩
  | cancels at_ =>
      exact ⟨fun minding silent => attentive.condemned minding ((enqueue_enqueues _ _).silent silent),
        attentive.invalidating⟩
  | invalidated dispatch calls unminded =>
      refine ⟨fun minding => absurd minding unminded, ?_⟩
      rw [dispatch]
      exact attentive.invalidating
  | began begun dispatch calls unminded =>
      refine ⟨fun minding => absurd minding unminded, ?_⟩
      rw [dispatch]
      exact fun _ at_ => by cases at_
  | drained idle owned dispatch calls loops lifecycle minds =>
      have same := (coupled.owned owned).2
      constructor
      · intro minding silent
        rw [dispatch] at silent ⊢
        refine beginTick_condemned reconciled.waits owned same (fun before => ?_) _ _ ?_
        · have condemned := attentive.condemned (minds minding) before
          rw [idle] at condemned
          exact condemned
        · exact (drain_opened host.dispatch.queue _).symm.trans silent.closed
      · rw [dispatch]
        exact fun outcome at_ => absurd at_ (beginTick_invalidating _ _ _ _ _)
  | worked sdk dispatch calls minds =>
      constructor
      · intro minding silent
        rw [dispatch] at silent ⊢
        refine ownerStep_condemned ?_ sdk
        rcases ownerStep_queue host.dispatch sdk with same | ⟨outcome, at_⟩
        · rw [same] at silent
          exact attentive.condemned (minds minding) silent
        · have free := attentive.invalidating outcome at_
          rw [at_]
          exact free
      · rw [dispatch]
        exact fun outcome at_ => ownerStep_invalidating sdk at_
  | turned dispatch calls unminded =>
      refine ⟨fun minding => absurd minding unminded, fun outcome at_ => ?_⟩
      rcases dispatch with same | same
      · rw [same] at at_
        cases at_
      · rw [same] at at_
        cases at_

end Attentive

/-! ## A call that has been answered -/

namespace HostStepped

variable {host after : BaresipNativeRegistrationHost} {observed : HostObserved}

/-- A closed generation is never opened again. -/
theorem keeps_closed (stepped : HostStepped host observed after) {generation : UInt64}
    (closed : host.dispatch.queue.Closed generation) : after.dispatch.queue.Closed generation := by
  cases stepped with
  | elsewhere unseen same calls minds =>
      rw [same.queue]
      exact closed
  | called number unseen live keeps => exact closed
  | submits at_ => exact closed.keep (submit_keeps _ _ _)
  | cancels at_ => exact closed.keep (RegistrationCommandQueue.enqueue_keeps _ _)
  | invalidated dispatch calls unminded =>
      rw [dispatch]
      exact closed.keep (invalidate_keeps _)
  | began begun dispatch calls unminded =>
      rw [dispatch]
      exact closed.begin
  | drained idle owned dispatch calls loops lifecycle minds =>
      rw [dispatch]
      exact closed.keep (RegistrationCommandQueue.drain_keeps _ _)
  | worked sdk dispatch calls minds =>
      rw [dispatch]
      exact closed.keep (dispatcher_stepped host.dispatch sdk).queue
  | turned dispatch calls unminded =>
      rcases dispatch with same | same
      all_goals
        rw [same]
        exact closed

theorem keeps_returned (stepped : HostStepped host observed after) {number : ℕ}
    (returned : host.calls number = .returned) : after.calls number = .returned := by
  have others {other : ℕ} (live : host.calls other ≠ .returned) (queue : RegistrationCommandQueue)
      (point : CallPoint) :
      ((host.withQueue queue).withCall other point).calls number = .returned := by
    have different : number ≠ other := by
      rintro rfl
      exact live returned
    rw [BaresipNativeRegistrationHost.withCall]
    exact (Function.update_of_ne different _ _).trans returned
  cases stepped with
  | called other unseen live keeps => exact others live host.dispatch.queue _
  | submits at_ => exact others (by simp [at_]) _ _
  | cancels at_ =>
      refine others ?_ _ _
      rcases at_ with ⟨at_, -⟩ | at_
      · simp [at_]
      · simp [at_]
  | elsewhere _ _ calls | invalidated _ calls | began _ _ calls | drained _ _ _ calls
  | worked _ _ calls | turned _ calls =>
      rw [calls]
      exact returned

/-- Only a call that is about to enqueue issues a submission. -/
theorem note_issued (stepped : HostStepped host observed after) (ledger : HostLedger) :
    (ledger.note observed).issued = ledger.issued ∨
      ∃ submission, (ledger.note observed).issued = ledger.issued ++ [submission] ∧
        ∃ id timeoutMs, host.calls submission.call = .enqueueing id timeoutMs := by
  cases stepped with
  | elsewhere unseen same calls minds => exact .inl (congrArg _ (unseen.note ledger))
  | called number unseen live keeps => exact .inl (congrArg _ (unseen.note ledger))
  | @submits number id timeoutMs at_ =>
      cases (host.dispatch.queue.submit id timeoutMs).1 with
      | accepted =>
          exact .inr ⟨⟨number, .submitSelectedAccount, id, timeoutMs⟩, rfl, id, timeoutMs, at_⟩
      | refused => exact .inl rfl
      | overflowed => exact .inl rfl
  | @cancels number id point at_ =>
      cases (host.dispatch.queue.cancel id).1 with
      | accepted => exact .inl rfl
      | refused => exact .inl rfl
      | overflowed => exact .inl rfl
  | invalidated | began | turned => exact .inl rfl
  | drained | worked => exact .inl (ledger.note_dispatched _).1

end HostStepped

/-- A call has been answered, and what it has issued is of a closed generation. -/
structure Concluded (number : ℕ) (ledger : HostLedger) (host : BaresipNativeRegistrationHost) :
    Prop where
  returned : host.calls number = .returned
  closed : ∀ submission ∈ ledger.issued, submission.call = number →
    host.dispatch.queue.Closed submission.command.generation

theorem Concluded.step {number : ℕ} {ledger : HostLedger} {host after : BaresipNativeRegistrationHost}
    {observed : HostObserved} (concluded : Concluded number ledger host)
    (stepped : HostStepped host observed after) : Concluded number (ledger.note observed) after := by
  refine ⟨stepped.keeps_returned concluded.returned, fun submission member mine => ?_⟩
  refine stepped.keeps_closed ?_
  rcases stepped.note_issued ledger with same | ⟨last, grown, id, timeoutMs, at_⟩
  · rw [same] at member
    exact concluded.closed submission member mine
  · rw [grown] at member
    rcases List.mem_append.mp member with earlier | now
    · exact concluded.closed submission earlier mine
    · rw [← List.mem_singleton.mp now, mine] at at_
      cases concluded.returned.symm.trans at_

/-- What a call has issued is past: a tick that executes it has taken its batch before. -/
structure Past (number : ℕ) (ledger : HostLedger) (host : BaresipNativeRegistrationHost) : Prop where
  concluded : Concluded number ledger host
  untaken : ∀ frame, host.dispatch.point.frame? = some frame →
    ∀ submission ∈ ledger.taken, submission.call ≠ number
  unentered : ∀ frame index command, host.dispatch.point = .registering frame index command →
    ∀ submission, ledger.executed.getLast? = some submission → submission.call ≠ number

theorem Past.of_frameless {number : ℕ} {ledger : HostLedger} {host : BaresipNativeRegistrationHost}
    (concluded : Concluded number ledger host) (frameless : host.dispatch.point.frame? = none) :
    Past number ledger host := by
  refine ⟨concluded, fun frame framed => ?_, fun frame index command at_ => ?_⟩
  · cases frameless.symm.trans framed
  · rw [at_] at frameless
    cases frameless

/-- `ua_register` is entered for the command that has just been executed. -/
theorem ownerStep_registering {host : RegistrationHost} {sdk : SdkAnswers} {frame : TickFrame}
    {index : ℕ} {command : RegistrationCommand}
    (at_ : (host.ownerStep sdk).2.point = .registering frame index command) :
    host.point = .submitting frame index command ∧
      (host.ownerStep sdk).1 = .executes command := by
  have stepped := ownerStep_stepped host sdk
  generalize (host.ownerStep sdk).1 = observed at stepped ⊢
  generalize (host.ownerStep sdk).2 = after at stepped at_
  have afterStop (next : Option RegistrationDispatchOutcome) :
      TickPoint.afterStop next ≠ .registering frame index command := by
    cases next with
    | none => exact fun at_ => by cases at_
    | some outcome => exact fun at_ => by cases at_
  cases stepped with
  | waits idle => cases idle.symm.trans at_
  | checked next submission framed follows =>
      dsimp only at at_
      split at at_
      · exact absurd at_ (follows.unregistered _ _ _)
      · cases at_
  | settled deadline next framed follows => exact absurd at_ (follows.unregistered _ _ _)
  | executed here registers =>
      rcases registers with ⟨rfl, -⟩ | ⟨submission, rfl⟩
      · cases at_
        exact ⟨here, rfl⟩
      · cases at_
  | stopped | unregistered => exact absurd at_ (afterStop _)
  | registered | unregisters | invalidated | returned => cases at_

theorem ownerStep_undrained (host : RegistrationHost) (sdk : SdkAnswers)
    (batch : RegistrationBatch) : (host.ownerStep sdk).1 ≠ .drained batch := by
  have stepped := ownerStep_stepped host sdk
  generalize (host.ownerStep sdk).1 = observed at stepped ⊢
  generalize (host.ownerStep sdk).2 = after at stepped
  rintro rfl
  cases stepped

theorem HostLedger.mem_execute_taken {ledger : HostLedger} {submission : HostSubmission}
    (member : submission ∈ ledger.execute.taken) : submission ∈ ledger.taken := by
  cases taken : ledger.taken with
  | nil =>
      rw [HostLedger.execute, taken] at member
      rw [← taken]
      exact member
  | cons first rest =>
      rw [HostLedger.execute_cons taken] at member
      exact List.mem_cons_of_mem _ member

/-- Inside a tick nothing more is taken. -/
theorem mem_taken_of_ownerStep {host : RegistrationHost} {sdk : SdkAnswers} {ledger : HostLedger}
    {submission : HostSubmission}
    (member : submission ∈ (ledger.note (.dispatched (host.ownerStep sdk).1)).taken) :
    submission ∈ ledger.taken := by
  have stepped := ownerStep_stepped host sdk
  generalize (host.ownerStep sdk).1 = observed at stepped member
  generalize (host.ownerStep sdk).2 = after at stepped
  cases stepped with
  | executed at_ registers => exact HostLedger.mem_execute_taken member
  | registered at_ owner =>
      rw [HostLedger.note] at member
      split at member <;> exact member
  | waits | checked | settled | unregisters | stopped | unregistered | invalidated | returned =>
      exact member

/-- What one command is asked of the queue leaves the batch of the tick alone. -/
theorem note_enqueued (ledger : HostLedger) (number : ℕ) (answer : Enqueued)
    (command : RegistrationCommand) :
    (ledger.note (.enqueued number answer command)).taken = ledger.taken ∧
      (ledger.note (.enqueued number answer command)).executed = ledger.executed ∧
      (ledger.note (.enqueued number answer command)).starter = ledger.starter := by
  cases answer with
  | refused | overflowed => exact ⟨rfl, rfl, rfl⟩
  | accepted =>
      rw [HostLedger.note]
      split <;> exact ⟨rfl, rfl, rfl⟩

/-- What waits in an open queue is of an open generation. -/
theorem Concluded.unawaited {number : ℕ} {ledger : HostLedger}
    {host : BaresipNativeRegistrationHost} (concluded : Concluded number ledger host)
    (reconciled : Reconciled ledger host) :
    ∀ submission ∈ ledger.waiting, submission.call ≠ number := by
  intro submission member mine
  have issued := reconciled.order.subset
    (List.mem_append_right (ledger.executed ++ ledger.taken) member)
  have closed := concluded.closed submission issued mine
  have same := reconciled.waits.generation_eq submission member
  rw [reconciled.waits.none_of_closed (closed.shut same.symm)] at member
  cases member

/-- A tick takes all that waits, or it has no batch. -/
theorem beginTick_taken {host : RegistrationHost} {generation : UInt64} (nonzero : generation ≠ 0)
    (same : generation = host.queue.generation) (monotonicMs : UInt64) (selected : Address)
    (ledger : HostLedger) :
    (∀ frame index command, (host.beginTick generation monotonicMs selected).2.point ≠
        .registering frame index command) ∧
      ((host.beginTick generation monotonicMs selected).2.point.frame? = none ∨
        (ledger.note (.dispatched (host.beginTick generation monotonicMs selected).1)).taken =
          ledger.waiting) := by
  rw [RegistrationHost.beginTick]
  rcases drain_owned nonzero same with ⟨drained, silent⟩ | ⟨batch, drained, mine, -⟩
  · rw [drained]
    dsimp only
    rw [if_pos (by simp [nonzero.symm])]
    refine ⟨fun _ _ _ at_ => ?_, .inl rfl⟩
    cases at_
  · rw [drained]
    dsimp only
    rw [if_neg (by simp [mine, nonzero])]
    constructor
    · split
      · exact fun _ _ _ at_ => by cases at_
      · exact fun _ _ _ at_ => by cases at_
    · right
      rw [HostLedger.note, if_neg (by simp [mine, nonzero])]
      rfl

namespace Past

variable {number : ℕ} {ledger : HostLedger} {host after : BaresipNativeRegistrationHost}
  {observed : HostObserved}

/-- A step that leaves the tick where it is, and its batch. -/
theorem elsewhere (past : Past number ledger host)
    (concluded : Concluded number (ledger.note observed) after)
    (point : after.dispatch.point = host.dispatch.point)
    (taken : (ledger.note observed).taken = ledger.taken)
    (executed : (ledger.note observed).executed = ledger.executed) :
    Past number (ledger.note observed) after := by
  refine ⟨concluded, ?_, ?_⟩
  · rw [point, taken]
    exact past.untaken
  · rw [point, executed]
    exact past.unentered

theorem step (past : Past number ledger host) (coupled : ThreadsCoupled host)
    (reconciled : Reconciled ledger host) (stepped : HostStepped host observed after) :
    Past number (ledger.note observed) after := by
  have concluded := past.concluded.step stepped
  cases stepped with
  | elsewhere unseen same calls minds =>
      exact past.elsewhere concluded same.point (congrArg _ (unseen.note ledger))
        (congrArg _ (unseen.note ledger))
  | called other unseen live keeps =>
      exact past.elsewhere concluded rfl (congrArg _ (unseen.note ledger)) (congrArg _ (unseen.note ledger))
  | submits at_ =>
      obtain ⟨taken, executed, -⟩ := note_enqueued ledger _ _ _
      exact past.elsewhere concluded rfl taken executed
  | cancels at_ =>
      obtain ⟨taken, executed, -⟩ := note_enqueued ledger _ _ _
      exact past.elsewhere concluded rfl taken executed
  | invalidated dispatch calls unminded =>
      exact past.elsewhere concluded (by rw [dispatch]) rfl rfl
  | began begun dispatch calls unminded => exact .of_frameless concluded (by rw [dispatch]; rfl)
  | drained idle owned dispatch calls loops lifecycle minds =>
      obtain ⟨elsewhere, takes⟩ :=
        beginTick_taken owned (coupled.owned owned).2 _ _ ledger
      refine ⟨concluded, fun frame framed => ?_, fun frame index command at_ => ?_⟩
      · rw [dispatch] at framed
        rcases takes with frameless | takes
        · cases frameless.symm.trans framed
        · rw [takes]
          exact past.concluded.unawaited reconciled
      · rw [dispatch] at at_
        exact absurd at_ (elsewhere frame index command)
  | worked sdk dispatch calls minds =>
      refine ⟨concluded, fun frame framed => ?_, fun frame index command at_ => ?_⟩
      · rw [dispatch] at framed
        have before := ownerStepped_frame (ownerStep_stepped host.dispatch sdk) frame framed
        exact fun submission member =>
          past.untaken frame before submission (mem_taken_of_ownerStep member)
      · rw [dispatch] at at_
        obtain ⟨here, output⟩ := ownerStep_registering at_
        have tracks := reconciled.point
        rw [here] at tracks
        obtain ⟨submission, rest, taken, -⟩ := tracks
        have mine := past.untaken frame (by rw [here]; rfl) submission
          (by rw [taken]; exact List.mem_cons_self)
        rw [output, HostLedger.note, HostLedger.execute_cons taken, List.getLast?_concat]
        intro other same
        rw [← Option.some.inj same]
        exact mine
  | turned dispatch calls unminded =>
      have frameless : after.dispatch.point.frame? = none := by
        rcases dispatch with same | same <;> rw [same] <;> rfl
      exact .of_frameless concluded frameless

end Past

/-- A registration that a submission of this call has started is submitted. -/
def StillSubmitted (number : ℕ) (ledger : HostLedger) (host : BaresipNativeRegistrationHost) :
    Prop :=
  host.dispatch.gateway.submitted = true ∧
    ∃ submission, ledger.starter = some submission ∧ submission.call = number

/-- The gateway has nothing that the call has started. -/
def Freed (number : ℕ) (ledger : HostLedger) (host : BaresipNativeRegistrationHost) : Prop :=
  ∀ submission, ledger.starter = some submission → submission.call = number →
    host.dispatch.gateway.owner = 0

theorem Freed.not_submitted {number : ℕ} {ledger : HostLedger}
    {host : BaresipNativeRegistrationHost} (freed : Freed number ledger host) :
    ¬ StillSubmitted number ledger host := by
  rintro ⟨submitted, submission, started, mine⟩
  have owner := freed submission started mine
  rw [BaresipSdkRegistrationGateway.submitted, owner] at submitted
  cases submitted

theorem Freed.step {number : ℕ} {ledger : HostLedger} {host after : BaresipNativeRegistrationHost}
    {observed : HostObserved} (freed : Freed number ledger host) (past : Past number ledger host)
    (stepped : HostStepped host observed after) : Freed number (ledger.note observed) after := by
  have same {starter : Option HostSubmission} {owner : Address} (started : starter = ledger.starter)
      (kept : owner = host.dispatch.gateway.owner) :
      ∀ submission, starter = some submission → submission.call = number → owner = 0 := by
    rw [started, kept]
    exact freed
  cases stepped with
  | elsewhere unseen undisturbed calls minds =>
      exact same (congrArg _ (unseen.note ledger)) undisturbed.owner
  | called other unseen live keeps => exact same (congrArg _ (unseen.note ledger)) rfl
  | submits at_ => exact same (note_enqueued ledger _ _ _).2.2 rfl
  | cancels at_ => exact same (note_enqueued ledger _ _ _).2.2 rfl
  | invalidated dispatch calls unminded => exact same rfl (by rw [dispatch])
  | began begun dispatch calls unminded =>
      intro submission started mine
      rw [dispatch]
      rfl
  | drained idle owned dispatch calls loops lifecycle minds =>
      refine same (ledger.note_drained_starter _) ?_
      rw [dispatch]
      rfl
  | worked sdk dispatch calls minds =>
      rw [Freed, dispatch]
      have stepped := ownerStep_stepped host.dispatch sdk
      generalize (host.dispatch.ownerStep sdk).1 = observed at stepped ⊢
      generalize (host.dispatch.ownerStep sdk).2 = next at stepped ⊢
      cases stepped with
      | executed at_ registers => exact same ledger.execute_starter rfl
      | @registered frame index command gateway submission at_ owner =>
          rw [HostLedger.note]
          split
          · intro other started mine
            exact absurd mine (past.unentered frame index command at_ other started)
          · next rejected =>
              rw [if_neg rejected] at owner
              exact same rfl owner
      | stopped | unregistered => exact fun _ _ _ => rfl
      | waits | checked | settled | unregisters | invalidated | returned => exact same rfl rfl
  | turned dispatch calls unminded =>
      refine same rfl ?_
      rcases dispatch with same | same <;> rw [same]

/-- The tick that is under way ends with nothing of the call's generation submitted. -/
def Ends (number : ℕ) (ledger : HostLedger) (host : BaresipNativeRegistrationHost) : Prop :=
  host.dispatch.point.ticking = true → ∀ submission ∈ ledger.issued, submission.call = number →
    submission.command.generation = host.dispatch.queue.generation →
      Condemned host.dispatch.point host.dispatch.gateway.owner

/-- Only a drain begins a tick. -/
theorem ownerStep_ticking {host : RegistrationHost} {sdk : SdkAnswers}
    (ticking : (host.ownerStep sdk).2.point.ticking = true) : host.point.ticking = true := by
  rw [RegistrationHost.ownerStep] at ticking
  cases at_ : host.point with
  | idle =>
      rw [at_] at ticking
      dsimp only at ticking
      rw [at_] at ticking
      cases ticking
  | stopping next =>
      cases next with
      | some outcome => rfl
      | none =>
          rw [at_] at ticking
          dsimp only at ticking
          split at ticking <;> cases ticking
  | unregistering next =>
      cases next with
      | some outcome => rfl
      | none =>
          rw [at_] at ticking
          cases ticking
  | deciding | submitting | registering | submitted | arming | armed | invalidating | returning => rfl

theorem Ends.step {number : ℕ} {ledger : HostLedger} {host after : BaresipNativeRegistrationHost}
    {observed : HostObserved} (ends : Ends number ledger host)
    (concluded : Concluded number ledger host) (stepped : HostStepped host observed after)
    (undrained : ∀ batch, observed ≠ .dispatched (.drained batch)) :
    Ends number (ledger.note observed) after := by
  intro ticking submission member mine same
  have issued : submission ∈ ledger.issued := by
    rcases stepped.note_issued ledger with kept | ⟨last, grown, id, timeoutMs, at_⟩
    · rw [kept] at member
      exact member
    · rw [grown] at member
      rcases List.mem_append.mp member with earlier | now
      · exact earlier
      · rw [← List.mem_singleton.mp now, mine] at at_
        cases concluded.returned.symm.trans at_
  cases stepped with
  | elsewhere unseen undisturbed calls minds =>
      rw [undisturbed.point] at ticking
      rw [undisturbed.queue] at same
      rw [undisturbed.point, undisturbed.owner]
      exact ends ticking submission issued mine same
  | called other unseen live keeps => exact ends ticking submission issued mine same
  | submits at_ =>
      exact ends ticking submission issued mine (same.trans (submit_keeps _ _ _).generation)
  | cancels at_ =>
      exact ends ticking submission issued mine
        (same.trans (RegistrationCommandQueue.enqueue_keeps _ _).generation)
  | invalidated dispatch calls unminded =>
      rw [dispatch] at ticking same ⊢
      exact ends ticking submission issued mine same
  | began begun dispatch calls unminded =>
      rw [dispatch] at ticking
      cases ticking
  | drained idle owned dispatch calls loops lifecycle minds => exact absurd rfl (undrained _)
  | worked sdk dispatch calls minds =>
      rw [dispatch] at ticking same ⊢
      refine ownerStep_condemned (ends (ownerStep_ticking ticking) submission issued mine ?_) sdk
      exact same.trans (dispatcher_stepped host.dispatch sdk).queue.generation
  | turned dispatch calls unminded =>
      rcases dispatch with at_ | at_
      · rw [at_] at ticking
        cases ticking
      · rw [at_] at ticking
        cases ticking

/-! ## Runs -/

theorem note_starter {ledger : HostLedger}
    (known : ∀ submission, ledger.starter = some submission → submission ∈ ledger.executed)
    (observed : HostObserved) :
    ∀ submission, (ledger.note observed).starter = some submission →
      submission ∈ (ledger.note observed).executed := by
  cases observed with
  | enqueued number answer command =>
      obtain ⟨-, executed, starter⟩ := note_enqueued ledger number answer command
      rw [executed, starter]
      exact known
  | dispatched observed =>
      cases observed with
      | executes command =>
          rw [HostLedger.note]
          cases taken : ledger.taken with
          | nil =>
              rw [HostLedger.execute, taken]
              exact known
          | cons first rest =>
              rw [HostLedger.execute_cons taken]
              exact fun submission started => List.mem_append_left _ (known submission started)
      | drained batch =>
          rw [HostLedger.note]
          split <;> exact known
      | submitted submission =>
          rw [HostLedger.note]
          split
          · exact fun other started => List.mem_of_getLast? started
          · exact known
      | nothing | enqueued | invalidated | began | checked | stops | returned | refusedThread =>
          exact known
  | nothing | returned | began | tickBegins | invalidated | stopped | startReturned | startThrew
  | stopReturned => exact known

/-- What is known at the end of a run. -/
structure HostKnown (history : List HostStage) (host : BaresipNativeRegistrationHost) : Prop where
  coupled : ThreadsCoupled host
  reconciled : Reconciled (hostLedger history) host
  attentive : Attentive host
  started : ∀ submission, (hostLedger history).starter = some submission →
    submission ∈ (hostLedger history).executed

theorem hostKnown_initial : HostKnown [] {} where
  coupled := threadsCoupled_initial
  reconciled := reconciled_initial
  attentive := attentive_initial
  started _ started := by cases started

namespace HostKnown

variable {history : List HostStage} {host : BaresipNativeRegistrationHost}

theorem step (known : HostKnown history host) (move : HostMove) :
    HostKnown (history ++ [stageOf hostStep host move]) (hostStep host move).2 := by
  have stepped := hostStep_stepped known.coupled move
  constructor
  · exact known.coupled.step move
  · rw [hostLedger_concat]
    exact known.reconciled.step known.coupled stepped
  · exact known.attentive.step known.coupled known.reconciled stepped
  · rw [hostLedger_concat]
    exact note_starter known.started _

/-- What every step from a known state keeps is carried through a run. -/
theorem carries {Holds : HostLedger → BaresipNativeRegistrationHost → Prop}
    (Admitted : HostObserved → Prop)
    (kept : ∀ ledger host after observed, ThreadsCoupled host → Reconciled ledger host →
      HostStepped host observed after → Admitted observed → Holds ledger host →
        Holds (ledger.note observed) after)
    (known : HostKnown history host) (holds : Holds (hostLedger history) host)
    {moves : List HostMove}
    (admitted : ∀ stage ∈ stages hostStep host moves, Admitted stage.output) :
    HostKnown (history ++ stages hostStep host moves) (finalState hostStep host moves) ∧
      Holds (hostLedger (history ++ stages hostStep host moves))
        (finalState hostStep host moves) := by
  refine history_invariant (fun history host => HostKnown history host ∧
    Holds (hostLedger history) host) (fun stage => Admitted stage.output) ?_ history ⟨known, holds⟩
    admitted
  rintro history host move ⟨known, holds⟩ admitted
  refine ⟨known.step move, ?_⟩
  rw [hostLedger_concat]
  exact kept _ _ _ _ known.coupled known.reconciled (hostStep_stepped known.coupled move) admitted
    holds

end HostKnown

theorem host_known (moves : List HostMove) :
    HostKnown (stages hostStep {} moves) (finalState hostStep {} moves) := by
  have everywhere : ∀ stage ∈ stages hostStep {} moves, True := fun _ _ => trivial
  exact history_invariant HostKnown (fun _ => True)
    (fun history host move known _ => known.step move) [] hostKnown_initial everywhere

/-- A call that has returned false leaves what it has issued in closed generations. -/
theorem refusal_concluded {moves : List HostMove} {before after : List HostStage}
    {refusal : HostStage} {number : ℕ}
    (run : stages hostStep {} moves = before ++ refusal :: after)
    (refused : refusal.output = .returned number false) :
    ∃ rest, after = stages hostStep refusal.after rest ∧
      finalState hostStep {} moves = finalState hostStep refusal.after rest ∧
      HostKnown (before ++ [refusal]) refusal.after ∧
      Concluded number (hostLedger (before ++ [refusal])) refusal.after := by
  obtain ⟨first, move, rest, rfl, rfl, later, final⟩ := stages_split_final run
  have known := host_known first
  refine ⟨rest, later, final, known.step move, ?_⟩
  rw [hostLedger_concat]
  have answered := hostStep_answered (finalState hostStep {} first) move
  have observed : (hostStep (finalState hostStep {} first) move).1 = .returned number false :=
    refused
  dsimp only [stageOf]
  rw [observed] at answered ⊢
  generalize (hostStep (finalState hostStep {} first) move).2 = next at answered ⊢
  cases answered with
  | other plain => exact absurd plain id
  | returned at_ =>
      refine ⟨Function.update_self _ _ _, fun submission member mine => ?_⟩
      have issued := known.reconciled.calls submission member
      rw [mine, at_] at issued
      exact issued

/-- What holds of a call for good, once a tick or a stop has run its course. -/
structure Over (number : ℕ) (ledger : HostLedger) (host : BaresipNativeRegistrationHost) : Prop where
  past : Past number ledger host
  freed : Freed number ledger host

theorem Over.step {number : ℕ} {ledger : HostLedger} {host after : BaresipNativeRegistrationHost}
    {observed : HostObserved} (over_ : Over number ledger host) (coupled : ThreadsCoupled host)
    (reconciled : Reconciled ledger host) (stepped : HostStepped host observed after) :
    Over number (ledger.note observed) after :=
  ⟨over_.past.step coupled reconciled stepped, over_.freed.step over_.past stepped⟩

theorem Over.stays {number : ℕ} {history : List HostStage} {host : BaresipNativeRegistrationHost}
    (known : HostKnown history host) (over_ : Over number (hostLedger history) host)
    (moves : List HostMove) :
    ¬ StillSubmitted number (hostLedger (history ++ stages hostStep host moves))
      (finalState hostStep host moves) := by
  have kept (ledger : HostLedger) (host after : BaresipNativeRegistrationHost)
      (observed : HostObserved) (coupled : ThreadsCoupled host)
      (reconciled : Reconciled ledger host) (stepped : HostStepped host observed after)
      (_ : True) (over_ : Over number ledger host) : Over number (ledger.note observed) after :=
    over_.step coupled reconciled stepped
  have everywhere : ∀ stage ∈ stages hostStep host moves, True := fun _ _ => trivial
  exact (known.carries (fun _ => True) kept over_ everywhere).2.freed.not_submitted

theorem Concluded.carried {number : ℕ} {history : List HostStage}
    {host : BaresipNativeRegistrationHost} (concluded : Concluded number (hostLedger history) host)
    (known : HostKnown history host) (moves : List HostMove) :
    HostKnown (history ++ stages hostStep host moves) (finalState hostStep host moves) ∧
      Concluded number (hostLedger (history ++ stages hostStep host moves))
        (finalState hostStep host moves) :=
  known.carries (fun _ => True)
    (fun _ _ _ _ _ _ stepped _ concluded => concluded.step stepped) concluded fun _ _ => trivial

/-- `on_stop` comes to its end with the gateway stopped. -/
theorem Over.of_clearing {number : ℕ} {ledger : HostLedger} {host : BaresipNativeRegistrationHost}
    (coupled : ThreadsCoupled host) (concluded : Concluded number ledger host)
    (at_ : host.owner = .clearing) : Over number ledger host := by
  have idle : host.dispatch.point = .idle := by
    have point := coupled.point
    rw [at_] at point
    exact point
  constructor
  · refine .of_frameless concluded ?_
    rw [idle]
    rfl
  · intro _ _ _
    by_contra held
    have holds := (coupled.held held).1
    rw [at_] at holds
    cases holds

/-- Behind `on_stop` nothing of a call that has returned false is submitted. -/
theorem stopped_cleared {moves : List HostMove} {before between behind : List HostStage}
    {refusal stop : HostStage} {number : ℕ}
    (run : stages hostStep {} moves = before ++ refusal :: (between ++ stop :: behind))
    (refused : refusal.output = .returned number false) (stopped : stop.output = .stopped) :
    ¬ StillSubmitted number (hostLedger (stages hostStep {} moves))
      (finalState hostStep {} moves) := by
  obtain ⟨rest, later, final, known, concluded⟩ := refusal_concluded run refused
  obtain ⟨second, move, last, rfl, rfl, rfl, ending⟩ := stages_split_final later.symm
  obtain ⟨known, concluded⟩ := concluded.carried known second
  have at_ : (finalState hostStep refusal.after second).owner = .clearing := by
    have answered := hostStep_answered (finalState hostStep refusal.after second) move
    have observed : (hostStep (finalState hostStep refusal.after second) move).1 = .stopped :=
      stopped
    rw [observed] at answered
    generalize (hostStep (finalState hostStep refusal.after second) move).2 = next at answered
    cases answered with
    | other plain => exact absurd plain id
    | stopped at_ dispatch => exact at_
  have stays := Over.stays known (.of_clearing known.coupled concluded at_) (move :: last)
  rw [run, final, ending]
  simp only [List.append_assoc, List.singleton_append] at stays
  exact stays

/-- A call that is concluded before the drain is past for the tick, which ends without it. -/
theorem drained_ends {number : ℕ} {history : List HostStage} {host : BaresipNativeRegistrationHost}
    {move : HostMove} {batch : RegistrationBatch} (known : HostKnown history host)
    (concluded : Concluded number (hostLedger history) host)
    (drained : (hostStep host move).1 = .dispatched (.drained batch)) (minded : ¬ host.Stopping) :
    Past number (hostLedger (history ++ [stageOf hostStep host move])) (hostStep host move).2 ∧
      Ends number (hostLedger (history ++ [stageOf hostStep host move])) (hostStep host move).2 := by
  have stepped := hostStep_stepped known.coupled move
  have next := known.step move
  have attentive := next.attentive
  have frameless (idle : host.dispatch.point = .idle) : host.dispatch.point.frame? = none := by
    rw [idle]
    rfl
  rw [hostLedger_concat]
  dsimp only [stageOf]
  generalize (hostStep host move).1 = observed at stepped drained ⊢
  generalize (hostStep host move).2 = after at stepped attentive ⊢
  have later := concluded.step stepped
  have past (idle : host.dispatch.point = .idle) : Past number _ after :=
    (Past.of_frameless concluded (frameless idle)).step known.coupled known.reconciled stepped
  cases stepped with
  | elsewhere unseen same calls minds =>
      rw [drained] at unseen
      exact absurd unseen id
  | called other unseen live keeps =>
      rw [drained] at unseen
      exact absurd unseen id
  | submits | cancels | invalidated | began | turned => cases drained
  | worked sdk dispatch calls minds =>
      exact absurd (HostObserved.dispatched.inj drained) (ownerStep_undrained _ _ _)
  | drained idle owned dispatch calls loops lifecycle minds =>
      refine ⟨past idle, fun ticking submission member mine same => ?_⟩
      have minding : after.Minding := by
        refine ⟨loops, ?_⟩
        rw [BaresipNativeRegistrationHost.Stopping, lifecycle]
        exact minded
      refine attentive.condemned minding ?_
      have shut := (later.closed submission member mine).shut same.symm
      rw [dispatch] at shut ⊢
      rw [RegistrationHost.beginTick] at shut ⊢
      exact drain_silent owned (known.coupled.owned owned).2
        ((drain_opened _ _).symm.trans shut)

/-- A tick that returns has nothing submitted of a generation that has ended in it. -/
theorem Ends.freed {number : ℕ} {history : List HostStage} {host : BaresipNativeRegistrationHost}
    {outcome : RegistrationDispatchOutcome} (ends : Ends number (hostLedger history) host)
    (known : HostKnown history host) (at_ : host.dispatch.point = .returning outcome) :
    Freed number (hostLedger history) host := by
  intro submission started mine
  by_contra held
  obtain ⟨starter, same, generation⟩ := known.reconciled.starter held
  obtain rfl := Option.some.inj (same.symm.trans started)
  have issued : starter ∈ (hostLedger history).issued := by
    refine known.reconciled.order.subset ?_
    rw [HostLedger.pipeline, List.append_assoc]
    exact List.mem_append_left _ (known.started starter started)
  have condemned := ends (by rw [at_]; rfl) starter issued mine generation
  rw [at_] at condemned
  exact held condemned

theorem returned_point {host : BaresipNativeRegistrationHost} {move : HostMove}
    {outcome : RegistrationDispatchOutcome} (coupled : ThreadsCoupled host)
    (returned : (hostStep host move).1 = .dispatched (.returned outcome)) :
    host.dispatch.point = .returning outcome := by
  have stepped := hostStep_stepped coupled move
  generalize (hostStep host move).1 = observed at stepped returned
  generalize (hostStep host move).2 = after at stepped
  cases stepped with
  | elsewhere unseen same calls minds =>
      rw [returned] at unseen
      exact absurd unseen id
  | called other unseen live keeps =>
      rw [returned] at unseen
      exact absurd unseen id
  | submits | cancels | invalidated | began | turned => cases returned
  | drained idle owned dispatch calls loops lifecycle minds => cases returned
  | worked sdk dispatch calls minds =>
      have output := HostObserved.dispatched.inj returned
      have stepped := ownerStep_stepped host.dispatch sdk
      generalize (host.dispatch.ownerStep sdk).1 = observed at stepped output
      generalize (host.dispatch.ownerStep sdk).2 = next at stepped
      cases stepped with
      | returned at_ =>
          cases output
          exact at_
      | waits | checked | settled | executed | registered | unregisters | stopped | unregistered
      | invalidated => cases output

/-- Inside a tick what has been condemned stays so, up to its return. -/
theorem ends_carried {number : ℕ} {history : List HostStage} {host : BaresipNativeRegistrationHost}
    (known : HostKnown history host) (past : Past number (hostLedger history) host)
    (ends : Ends number (hostLedger history) host) {moves : List HostMove}
    (one : ∀ stage ∈ stages hostStep host moves, ∀ other,
      stage.output ≠ .dispatched (.drained other)) :
    HostKnown (history ++ stages hostStep host moves) (finalState hostStep host moves) ∧
      Past number (hostLedger (history ++ stages hostStep host moves))
        (finalState hostStep host moves) ∧
      Ends number (hostLedger (history ++ stages hostStep host moves))
        (finalState hostStep host moves) := by
  have kept (ledger : HostLedger) (host after : BaresipNativeRegistrationHost)
      (observed : HostObserved) (coupled : ThreadsCoupled host)
      (reconciled : Reconciled ledger host) (stepped : HostStepped host observed after)
      (undrained : ∀ other, observed ≠ .dispatched (.drained other))
      (before : Past number ledger host ∧ Ends number ledger host) :
      Past number (ledger.note observed) after ∧ Ends number (ledger.note observed) after :=
    ⟨before.1.step coupled reconciled stepped,
      before.2.step before.1.concluded stepped undrained⟩
  have carried := known.carries (fun observed => ∀ other, observed ≠ .dispatched (.drained other))
    kept ⟨past, ends⟩ one
  exact ⟨carried.1, carried.2.1, carried.2.2⟩

/--
A tick that drains the queue behind a call that has returned false, before a
`stop` has invalidated it, returns with nothing submitted that the call has started.
-/
theorem refused_cleared {moves : List HostMove} {before between during behind : List HostStage}
    {refusal drain return_ : HostStage} {number : ℕ} {batch : RegistrationBatch}
    {outcome : RegistrationDispatchOutcome}
    (run : stages hostStep {} moves =
      before ++ refusal :: (between ++ drain :: (during ++ return_ :: behind)))
    (refused : refusal.output = .returned number false)
    (drained : drain.output = .dispatched (.drained batch)) (minded : ¬ drain.before.Stopping)
    (one : ∀ stage ∈ during, ∀ other, stage.output ≠ .dispatched (.drained other))
    (returned : return_.output = .dispatched (.returned outcome)) :
    ¬ StillSubmitted number (hostLedger (stages hostStep {} moves))
      (finalState hostStep {} moves) := by
  obtain ⟨rest, later, final, known, concluded⟩ := refusal_concluded run refused
  obtain ⟨second, move, third, rfl, rfl, later, final'⟩ := stages_split_final later.symm
  obtain ⟨fourth, last, fifth, rfl, rfl, rfl, final''⟩ := stages_split_final later.symm
  obtain ⟨known, concluded⟩ := concluded.carried known second
  obtain ⟨past, ends⟩ := drained_ends known concluded drained minded
  obtain ⟨known, past, ends⟩ := ends_carried (known.step move) past ends one
  have at_ := returned_point known.coupled returned
  have stays := Over.stays known ⟨past, ends.freed known at_⟩ (last :: fifth)
  rw [run, final, final', final'']
  simp only [List.append_assoc, List.singleton_append] at stays
  exact stays

end AxeVoice.Native
