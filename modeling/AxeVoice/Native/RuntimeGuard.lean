import AxeVoice.Native.Agreement
import AxeVoice.Sip.MailboxHistory

/-!
# The runtime session guard

The guard on the user interface thread fences the mailbox whenever the process is
not running, and once more when it is first seen running.  Producers may act
between its fence and its drain.  What it shows of a session is the fold of every
event accepted for that session so far, or nothing.
-/

namespace AxeVoice.Native

open AxeVoice.Sip
open AxeVoice.Foundation

structure SipRuntimeSessionGuard where
  previous : RuntimeProcess := .stopped

namespace SipRuntimeSessionGuard

/-- The first Running tick fences events queued before process admission. -/
def fences (guard : SipRuntimeSessionGuard) (process : RuntimeProcess) : Bool :=
  process ≠ .running || guard.previous ≠ .running

/-- The process that `revoke` notes. -/
def revokedProcess (process : RuntimeProcess) : RuntimeProcess :=
  if process = .running then .stopped else process

theorem revokedProcess_ne (process : RuntimeProcess) : revokedProcess process ≠ .running := by
  unfold revokedProcess
  split
  · decide
  · next other => exact other

end SipRuntimeSessionGuard

/-- A call of the guard between its fence and its drain. -/
structure GuardCall where
  process : RuntimeProcess
  evidence : SipEvidence

structure GuardRun where
  mailbox : BaresipEventMailbox := {}
  projection : SipEventProjection := {}
  guard : SipRuntimeSessionGuard := {}
  entered : Option GuardCall := none

inductive GuardStep where
  | beginSession
  | enqueue (event : BaresipNativeEvent)
  | invalidateSession
  | observe (process : RuntimeProcess)
  | revoke (process : RuntimeProcess)
  | drain

/-- What a call of the guard returns, with the session that its drain saw. -/
structure GuardShown where
  process : RuntimeProcess
  session : UInt64
  observation : SipRuntimeObservation

/-- The operation of the mailbox that a step consists of. -/
def GuardStep.mailboxCall (run : GuardRun) : GuardStep → Option MailboxCall
  | .beginSession => some .beginSession
  | .enqueue event => some (.enqueue event)
  | .invalidateSession => some .invalidateSession
  | .observe process =>
      if run.entered.isNone ∧ run.guard.fences process then some .invalidateSession else none
  | .revoke _ => if run.entered.isNone then some .invalidateSession else none
  | .drain => if run.entered.isSome then some .drain else none

/-- The mailbox after the operation of a step. -/
def GuardStep.mailboxAfter (run : GuardRun) (step : GuardStep) : BaresipEventMailbox :=
  match step.mailboxCall run with
  | none => run.mailbox
  | some call => (mailboxStep run.mailbox call).2

/--
One atomic step.  The user interface thread is in one call of the guard at a time:
`observe` and `revoke` enter it and fence, `drain` is the rest of the call.
-/
def guardStep (run : GuardRun) (step : GuardStep) : Option GuardShown × GuardRun :=
  let moved := { run with mailbox := step.mailboxAfter run }
  match step, run.entered with
  | .observe process, none =>
      (none, { moved with
        guard := { previous := process }, entered := some ⟨process, .verifiedNativeApi⟩ })
  | .revoke process, none =>
      let process := SipRuntimeSessionGuard.revokedProcess process
      (none, { moved with guard := { previous := process }, entered := some ⟨process, .none⟩ })
  | .drain, some call =>
      let batch := run.mailbox.drain.1
      let projection := run.projection.observe call.process call.evidence batch
      (some ⟨call.process, batch.session, projection.snapshot⟩,
        { moved with projection := projection, entered := none })
  | _, _ => (none, moved)

abbrev GuardStage := Stage GuardRun GuardStep (Option GuardShown)

/-- The stage of the mailbox that a stage of the guard makes. -/
def GuardStage.mailboxStage (stage : GuardStage) : Option MailboxStage :=
  (stage.input.mailboxCall stage.before).map (stageOf mailboxStep stage.before.mailbox)

def mailboxHistory (history : List GuardStage) : List MailboxStage :=
  history.filterMap GuardStage.mailboxStage

theorem guardStep_mailbox (run : GuardRun) (step : GuardStep) :
    (guardStep run step).2.mailbox = step.mailboxAfter run := by
  unfold guardStep
  dsimp only
  split <;> rfl

theorem mailboxHistory_concat (history : List GuardStage) (run : GuardRun) (step : GuardStep) :
    mailboxHistory (history ++ [stageOf guardStep run step]) =
      mailboxHistory history ++
        ((step.mailboxCall run).map (stageOf mailboxStep run.mailbox)).toList := by
  unfold mailboxHistory
  rw [List.filterMap_append, List.filterMap_cons, List.filterMap_nil]
  have same : GuardStage.mailboxStage (stageOf guardStep run step) =
      (step.mailboxCall run).map (stageOf mailboxStep run.mailbox) := rfl
  rw [same]
  cases step.mailboxCall run <;> rfl

/-- The mailbox's own history goes on under every step of the guard. -/
theorem guard_logged {session : UInt64} {history : List GuardStage} {run : GuardRun}
    (step : GuardStep)
    (logged : SessionLogged session (mailboxHistory history) run.mailbox) :
    SessionLogged session (mailboxHistory (history ++ [stageOf guardStep run step]))
      (guardStep run step).2.mailbox := by
  rw [mailboxHistory_concat, guardStep_mailbox]
  unfold GuardStep.mailboxAfter
  cases step.mailboxCall run with
  | none => simpa using logged
  | some call =>
      exact .extend (stageOf mailboxStep run.mailbox call) logged
        (BaresipEventMailbox.mailboxStep_moved run.mailbox call)

/-- The fold of every event accepted for the session, in order. -/
def sessionFold (session : UInt64) (history : List MailboxStage) : Option SipRuntimeObservation :=
  applyBaresipEvents session (.opened .running .verifiedNativeApi session)
    (acceptedFor session history)

theorem applyBaresipEvents_append (session : UInt64) (state : SipRuntimeObservation)
    (first second : List BaresipNativeEvent) :
    applyBaresipEvents session state (first ++ second) =
      (applyBaresipEvents session state first).bind
        fun next => applyBaresipEvents session next second := by
  induction first generalizing state with
  | nil => rfl
  | cons event rest ih =>
      rw [List.cons_append, applyBaresipEvents_cons, applyBaresipEvents_cons session state event rest]
      cases applyBaresipEvents session state [event] with
      | none => rfl
      | some next => exact ih next

/-- The projection has folded all but the queued events of the current session. -/
def Folded (history : List MailboxStage) (run : GuardRun) : Prop :=
  ∀ session, session ≠ 0 → run.mailbox.session = session → run.mailbox.overflow = false →
    ((sessionState run.projection.legacy session).bind fun start =>
      applyBaresipEvents session start run.mailbox.queued) = sessionFold session history

/-- What holds between two steps. -/
structure Guarded (history : List GuardStage) (run : GuardRun) : Prop where
  logged : ∀ session, SessionLogged session (mailboxHistory history) run.mailbox
  tracked : Tracked run.mailbox.generation run.projection
  entered : ∀ call, run.entered = some call →
    run.guard.previous = call.process ∧ (call.process = .running → call.evidence = .verifiedNativeApi)
  folded : run.guard.previous = .running → Folded (mailboxHistory history) run

theorem guarded_initial : Guarded [] {} where
  logged := sessionLogged_initial
  tracked := tracked_initial _
  entered := nofun
  folded := nofun

/-- An operation of the mailbox under an armed guard. -/
theorem folded_moved {history : List GuardStage} {run : GuardRun} (guarded : Guarded history run)
    (folded : Folded (mailboxHistory history) run) (stage : MailboxStage)
    (before : stage.before = run.mailbox) (noDrain : stage.input ≠ .drain)
    (moved : stage.before.Moved stage.input stage.output stage.after) :
    Folded (mailboxHistory history ++ [stage]) { run with mailbox := stage.after } := by
  obtain ⟨_, input, output, after⟩ := stage
  dsimp only at before noDrain moved ⊢
  subst before
  intro session nonzero current intact
  dsimp only at current intact ⊢
  have accepted := acceptedFor_concat session (mailboxHistory history)
    ⟨run.mailbox, input, output, after⟩
  cases moved with
  | began _ room generation begun _ emptied =>
      have fresh : run.mailbox.generation < session := by
        rw [← current, begun]
        grind
      rw [sessionState_fresh guarded.tracked fresh, emptied, sessionFold, accepted,
        ((guarded.logged session).unissued fresh).1]
      rfl
  | exhausted _ full generation ended => exact absurd (current.symm.trans ended) nonzero
  | invalidated _ generation ended => exact absurd (current.symm.trans ended) nonzero
  | refused event =>
      have none_ : MailboxStage.accepted session
          ⟨run.mailbox, .enqueue event, .enqueued false, run.mailbox⟩ = [] := rfl
      rw [sessionFold, accepted, none_, List.append_nil]
      exact folded session nonzero current intact
  | overflowed _ _ _ _ _ _ lost => exact absurd (lost.symm.trans intact) (by decide)
  | accepted event _ live same was generation kept _ grown =>
      have known := folded session nonzero (kept.symm.trans current) was
      have ofSession : event.session = session := same.trans (kept.symm.trans current)
      have one : MailboxStage.accepted session
          ⟨run.mailbox, .enqueue event, .enqueued true, after⟩ = [event] := if_pos ofSession
      rw [sessionFold, accepted, one, grown, applyBaresipEvents_append]
      unfold sessionFold at known
      rw [← known, Option.bind_assoc]
      simp only [applyBaresipEvents_append]
  | drained => exact absurd rfl noDrain

/-- A step of a producer. -/
theorem Guarded.produced {history : List GuardStage} {run : GuardRun}
    (guarded : Guarded history run) {step : GuardStep} {call : MailboxCall}
    (operation : step.mailboxCall run = some call) (noDrain : call ≠ .drain)
    (unchanged : guardStep run step = (none, { run with mailbox := step.mailboxAfter run })) :
    Guarded (history ++ [stageOf guardStep run step]) (guardStep run step).2 := by
  have moved := BaresipEventMailbox.mailboxStep_moved run.mailbox call
  have after : step.mailboxAfter run = (mailboxStep run.mailbox call).2 := by
    unfold GuardStep.mailboxAfter
    rw [operation]
  refine ⟨fun session => guard_logged step (guarded.logged session), ?_, ?_, ?_⟩
  · rw [unchanged]
    dsimp only
    rw [after]
    exact guarded.tracked.mono moved.rises
  · rw [unchanged]
    exact guarded.entered
  · rw [unchanged, mailboxHistory_concat, operation]
    intro armed
    dsimp only
    rw [after]
    exact folded_moved guarded (guarded.folded armed) (stageOf mailboxStep run.mailbox call) rfl
      noDrain moved

/-- A fence leaves no session to fold. -/
theorem folded_invalidated (history : List MailboxStage) (run : GuardRun) (mailbox : BaresipEventMailbox)
    (ended : mailbox.session = 0) : Folded history { run with mailbox := mailbox } :=
  fun _ nonzero current => absurd (current.symm.trans ended) nonzero

/-- The projection in use is the legacy one. -/
theorem observe_legacy {issued : UInt64} {projection : SipEventProjection}
    (tracked : Tracked issued projection) (process : RuntimeProcess) (evidence : SipEvidence)
    (batch : Batch) :
    projection.observe process evidence batch =
      { projection with legacy := projection.legacy.observe process evidence batch } := by
  simp [SipEventProjection.observe, tracked.legacyMode]

theorem Guarded.entering {history : List GuardStage} {run : GuardRun}
    (guarded : Guarded history run) (process : RuntimeProcess) (idle : run.entered = none) :
    Guarded (history ++ [stageOf guardStep run (.observe process)])
      (guardStep run (.observe process)).2 := by
  have operation : (GuardStep.observe process).mailboxCall run =
      if run.guard.fences process then some .invalidateSession else none := by
    simp [GuardStep.mailboxCall, idle]
  have stepped : guardStep run (.observe process) = (none, { run with
      mailbox := (GuardStep.observe process).mailboxAfter run
      guard := { previous := process }, entered := some ⟨process, .verifiedNativeApi⟩ }) := by
    simp [guardStep, idle]
  refine ⟨fun session => guard_logged _ (guarded.logged session), ?_, ?_, ?_⟩
  · rw [stepped]
    dsimp only
    unfold GuardStep.mailboxAfter
    rw [operation]
    split
    · exact guarded.tracked
    · next fenced =>
        split at fenced
        · cases fenced
          exact guarded.tracked
        · cases fenced
  · rw [stepped]
    rintro call ⟨⟩
    exact ⟨rfl, fun _ => rfl⟩
  · rw [stepped, mailboxHistory_concat, operation]
    rintro rfl
    unfold GuardStep.mailboxAfter
    rw [operation]
    by_cases fences : run.guard.fences .running = true
    · rw [if_pos fences]
      exact folded_invalidated _ _ _ rfl
    · rw [if_neg fences]
      have armed : run.guard.previous = .running := by
        simpa [SipRuntimeSessionGuard.fences] using fences
      simpa [Folded] using guarded.folded armed

theorem Guarded.revoking {history : List GuardStage} {run : GuardRun}
    (guarded : Guarded history run) (process : RuntimeProcess) (idle : run.entered = none) :
    Guarded (history ++ [stageOf guardStep run (.revoke process)])
      (guardStep run (.revoke process)).2 := by
  have stopped := SipRuntimeSessionGuard.revokedProcess_ne process
  have stepped : guardStep run (.revoke process) = (none, { run with
      mailbox := run.mailbox.invalidateSession
      guard := { previous := SipRuntimeSessionGuard.revokedProcess process }
      entered := some ⟨SipRuntimeSessionGuard.revokedProcess process, .none⟩ }) := by
    simp [guardStep, GuardStep.mailboxAfter, GuardStep.mailboxCall, idle, mailboxStep]
  refine ⟨fun session => guard_logged _ (guarded.logged session), ?_, ?_, ?_⟩
  · rw [stepped]
    exact guarded.tracked
  · rw [stepped]
    rintro call ⟨⟩
    exact ⟨rfl, fun running => absurd running stopped⟩
  · rw [stepped]
    exact fun running => absurd running stopped

/-- The rest of a call while the process is running: what it shows, and what it leaves. -/
structure Drained (history : List MailboxStage) (run : GuardRun) (shown : SipRuntimeObservation)
    (projection : SipEventProjection) : Prop where
  trusted : run.mailbox.session ≠ 0 → run.mailbox.overflow = false →
    ∀ folded, sessionFold run.mailbox.session history = some folded → shown = folded
  untrusted : run.mailbox.session = 0 ∨ run.mailbox.overflow = true ∨
    sessionFold run.mailbox.session history = none → shown = .dropped .running
  state : run.mailbox.session ≠ 0 → run.mailbox.overflow = false →
    sessionState projection.legacy run.mailbox.session = sessionFold run.mailbox.session history

theorem Guarded.drain {history : List GuardStage} {run : GuardRun}
    (guarded : Guarded history run) (armed : run.guard.previous = .running) :
    let projection := run.projection.observe .running .verifiedNativeApi run.mailbox.drain.1
    Drained (mailboxHistory history) run projection.snapshot projection := by
  have observed := observe_legacy guarded.tracked .running .verifiedNativeApi run.mailbox.drain.1
  have shown : (run.projection.observe .running .verifiedNativeApi run.mailbox.drain.1).snapshot =
      (run.projection.legacy.observe .running .verifiedNativeApi run.mailbox.drain.1).state := by
    rw [observed]
    simp [SipEventProjection.snapshot, guarded.tracked.legacyMode, LegacySipEventProjection.snapshot]
  dsimp only
  rw [shown, observed]
  by_cases intact : run.mailbox.session ≠ 0 ∧ run.mailbox.overflow = false
  · obtain ⟨nonzero, whole⟩ := intact
    have settled := observe_settles run.projection.legacy nonzero run.mailbox.drain.1
      run.mailbox.drain_session (by rw [BaresipEventMailbox.drain_overflow]; exact whole)
      run.mailbox.drain_size_le
    rw [BaresipEventMailbox.drain_delivered whole, guarded.folded armed _ nonzero rfl whole] at settled
    have state := settled.sessionState
    refine ⟨fun _ _ folded known => ?_, fun cause => ?_, fun _ _ => state⟩
    · rw [known] at settled
      cases settled with
      | trusted => rfl
    · rcases cause with zero | lost | refused
      · exact absurd zero nonzero
      · exact absurd (whole.symm.trans lost) (by decide)
      · rw [refused] at settled
        cases settled with
        | rejected remembered dropped => exact dropped
  · refine ⟨fun nonzero whole => absurd ⟨nonzero, whole⟩ intact, fun _ => ?_,
      fun nonzero whole => absurd ⟨nonzero, whole⟩ intact⟩
    unfold LegacySipEventProjection.observe
    rw [BaresipEventMailbox.drain_session, BaresipEventMailbox.drain_overflow]
    by_cases zero : run.mailbox.session = 0
    · rw [if_pos (.inr zero)]
    · have lost : run.mailbox.overflow = true := by
        by_contra whole
        exact intact ⟨zero, by simpa using whole⟩
      rw [if_neg (by simp [zero])]
      split
      · rfl
      · rw [if_pos (.inl lost)]
        rfl

theorem Guarded.draining {history : List GuardStage} {run : GuardRun}
    (guarded : Guarded history run) {call : GuardCall} (entered : run.entered = some call) :
    Guarded (history ++ [stageOf guardStep run .drain]) (guardStep run .drain).2 := by
  have stepped : (guardStep run .drain).2 = { run with
      mailbox := run.mailbox.drain.2
      projection := run.projection.observe call.process call.evidence run.mailbox.drain.1
      entered := none } := by
    simp [guardStep, GuardStep.mailboxAfter, GuardStep.mailboxCall, entered, mailboxStep]
  have operation : GuardStep.drain.mailboxCall run = some .drain := by
    simp [GuardStep.mailboxCall, entered]
  refine ⟨fun session => guard_logged _ (guarded.logged session), ?_, ?_, ?_⟩
  · rw [stepped]
    refine guarded.tracked.observe _ _ _ ?_
    rw [BaresipEventMailbox.drain_session]
    exact (guarded.logged 0).sound.current_le
  · rw [stepped]
    intro call entered
    cases entered
  · rw [stepped, mailboxHistory_concat, operation]
    intro armed session nonzero current intact
    dsimp only at armed current intact ⊢
    obtain ⟨process, evidence⟩ := guarded.entered call entered
    rw [armed] at process
    have drained := (guarded.drain armed).state
    rw [evidence process.symm, ← process]
    subst current
    have accepted : MailboxStage.accepted run.mailbox.session
        (stageOf mailboxStep run.mailbox .drain) = [] := rfl
    rw [sessionFold, Option.map_some, Option.toList_some, acceptedFor_concat,
      BaresipEventMailbox.drain_after_session, accepted, List.append_nil,
      BaresipEventMailbox.drain_queued, drained nonzero intact]
    cases known : sessionFold run.mailbox.session (mailboxHistory history) with
    | none => exact known.symm
    | some folded => exact known.symm

/-- A step that is not taken while a call is under way, or while none is. -/
theorem Guarded.waiting {history : List GuardStage} {run : GuardRun}
    (guarded : Guarded history run) {step : GuardStep} (operation : step.mailboxCall run = none)
    (unchanged : guardStep run step = (none, { run with mailbox := step.mailboxAfter run })) :
    Guarded (history ++ [stageOf guardStep run step]) (guardStep run step).2 := by
  have same : guardStep run step = (none, run) := by
    rw [unchanged]
    unfold GuardStep.mailboxAfter
    rw [operation]
  have silent : mailboxHistory (history ++ [stageOf guardStep run step]) = mailboxHistory history := by
    rw [mailboxHistory_concat, operation]
    simp
  obtain ⟨logged, tracked, entered, folded⟩ := guarded
  rw [same]
  exact ⟨fun session => silent ▸ logged session, tracked, entered, silent ▸ folded⟩

theorem guarded_step (history : List GuardStage) (run : GuardRun) (step : GuardStep)
    (guarded : Guarded history run) :
    Guarded (history ++ [stageOf guardStep run step]) (guardStep run step).2 := by
  cases step with
  | beginSession => exact guarded.produced rfl nofun rfl
  | enqueue event => exact guarded.produced rfl nofun rfl
  | invalidateSession => exact guarded.produced rfl nofun rfl
  | observe process =>
      cases entered : run.entered with
      | none => exact guarded.entering process entered
      | some call =>
          refine guarded.waiting (by simp [GuardStep.mailboxCall, entered]) ?_
          simp [guardStep, entered]
  | revoke process =>
      cases entered : run.entered with
      | none => exact guarded.revoking process entered
      | some call =>
          refine guarded.waiting (by simp [GuardStep.mailboxCall, entered]) ?_
          simp [guardStep, entered]
  | drain =>
      cases entered : run.entered with
      | none =>
          refine guarded.waiting (by simp [GuardStep.mailboxCall, entered]) ?_
          simp [guardStep, entered]
      | some call => exact guarded.draining entered

theorem guard_guarded (steps : List GuardStep) :
    Guarded (stages guardStep {} steps) (finalState guardStep {} steps) :=
  history_invariant Guarded (fun _ => True)
    (fun history run step guarded _ => guarded_step history run step guarded) [] guarded_initial
    fun _ _ => trivial

/-! ## What is shown -/

/-- A call of the guard is shown by its drain alone. -/
theorem shown_of_output {run : GuardRun} {step : GuardStep} {shown : GuardShown}
    (output : (guardStep run step).1 = some shown) :
    step = .drain ∧ ∃ call, run.entered = some call ∧
      shown = ⟨call.process, run.mailbox.session,
        (run.projection.observe call.process call.evidence run.mailbox.drain.1).snapshot⟩ := by
  cases step with
  | drain =>
      cases entered : run.entered with
      | none => simp [guardStep, entered] at output
      | some call =>
          simp only [guardStep, entered, Option.some.injEq] at output
          rw [BaresipEventMailbox.drain_session] at output
          exact ⟨rfl, call, rfl, output.symm⟩
  | observe process => cases entered : run.entered <;> simp [guardStep, entered] at output
  | revoke process => cases entered : run.entered <;> simp [guardStep, entered] at output
  | _ => cases output

/-- While the process is not running nothing is shown as verified. -/
theorem Guarded.shown_stopped {history : List GuardStage} {run : GuardRun}
    (guarded : Guarded history run) {process : RuntimeProcess} (stopped : process ≠ .running)
    (evidence : SipEvidence) (batch : Batch) :
    (run.projection.observe process evidence batch).snapshot = .dropped process := by
  rw [observe_legacy guarded.tracked]
  simp [SipEventProjection.snapshot, guarded.tracked.legacyMode, LegacySipEventProjection.snapshot,
    LegacySipEventProjection.observe, stopped]

/-- What a verified observation proves of its session. -/
theorem Guarded.verified {history : List GuardStage} {run : GuardRun}
    (guarded : Guarded history run) {step : GuardStep} {shown : GuardShown} {session : UInt64}
    (output : (guardStep run step).1 = some shown)
    (verified : shown.observation.VerifiedFor session) :
    session ≠ 0 ∧ run.mailbox.session = session ∧ run.mailbox.overflow = false := by
  obtain ⟨-, call, entered, rfl⟩ := shown_of_output output
  obtain ⟨previous, evidence⟩ := guarded.entered call entered
  dsimp only at verified
  by_cases running : call.process = .running
  · rw [evidence running, running] at verified
    have drained := guarded.drain (previous.trans running)
    by_cases trusted : run.mailbox.session ≠ 0 ∧ run.mailbox.overflow = false ∧
        sessionFold run.mailbox.session (mailboxHistory history) ≠ none
    · obtain ⟨nonzero, intact, folds⟩ := trusted
      obtain ⟨folded, known⟩ := Option.ne_none_iff_exists'.mp folds
      rw [drained.trusted nonzero intact folded known] at verified
      have session_eq := (applyBaresipEvents_keeps known).2.1
      have same : run.mailbox.session = session := session_eq.symm.trans verified.2
      exact ⟨same ▸ nonzero, same, intact⟩
    · have dropped := drained.untrusted (by
        by_contra cause
        simp only [not_or] at cause
        exact trusted ⟨cause.1, by simpa using cause.2.1, cause.2.2⟩)
      rw [dropped] at verified
      exact absurd verified (not_verifiedFor_dropped _ _)
  · rw [guarded.shown_stopped running] at verified
    exact absurd verified (not_verifiedFor_dropped _ _)

/-- A call of `observe` begins. -/
def GuardStage.Enters (process : RuntimeProcess) (stage : GuardStage) : Prop :=
  stage.input = .observe process ∧ stage.before.entered = none

/-- A call begins that sees the process not running, or revokes. -/
def GuardStage.Stops (stage : GuardStage) : Prop :=
  (∃ process, process ≠ .running ∧ stage.Enters process) ∨
    ∃ process, stage.input = .revoke process ∧ stage.before.entered = none

/-- Since the last call that stopped the session no Running tick began. -/
def StoppedIn (history : List GuardStage) : Prop :=
  ∃ earlier stop between, history = earlier ++ stop :: between ∧ stop.Stops ∧
    ∀ stage ∈ between, ¬ stage.Enters .running

/--
What the guard shows of every run: while the process is running, the fold of all
that the session seen by the drain has accepted, or nothing; and never a session
for which something was accepted before the first Running tick after a stop.
-/
structure ShowsFolds (history : List GuardStage) : Prop where
  trusted : ∀ before stage after shown folded, history = before ++ stage :: after →
    stage.output = some shown → shown.process = .running → shown.session ≠ 0 →
    ¬ OverflowedIn shown.session (mailboxHistory before) →
    sessionFold shown.session (mailboxHistory before) = some folded → shown.observation = folded
  untrusted : ∀ before stage after shown, history = before ++ stage :: after →
    stage.output = some shown → shown.process = .running →
    (shown.session = 0 ∨ OverflowedIn shown.session (mailboxHistory before) ∨
      sessionFold shown.session (mailboxHistory before) = none) →
    shown.observation = .dropped .running
  fenced : ∀ before first during stage after shown session,
    history = before ++ first :: (during ++ stage :: after) → StoppedIn before →
    first.Enters .running → stage.output = some shown → shown.observation.VerifiedFor session →
    acceptedFor session (mailboxHistory before) = []

theorem enters_previous {run : GuardRun} (process : RuntimeProcess) (idle : run.entered = none) :
    (guardStep run (.observe process)).2.guard.previous = process := by
  simp [guardStep, idle]

theorem revokes_previous {run : GuardRun} (process : RuntimeProcess) (idle : run.entered = none) :
    (guardStep run (.revoke process)).2.guard.previous =
      SipRuntimeSessionGuard.revokedProcess process := by
  simp [guardStep, idle]

/-- The process noted last changes only where a call begins. -/
theorem guardStep_previous {run : GuardRun} {step : GuardStep}
    (stopped : run.guard.previous ≠ .running)
    (noTick : ¬ GuardStage.Enters .running (stageOf guardStep run step)) :
    (guardStep run step).2.guard.previous ≠ .running := by
  cases step with
  | observe process =>
      cases entered : run.entered with
      | none =>
          rw [enters_previous process entered]
          rintro rfl
          exact noTick ⟨rfl, entered⟩
      | some call => simpa [guardStep, entered] using stopped
  | revoke process =>
      cases entered : run.entered with
      | none =>
          rw [revokes_previous process entered]
          exact SipRuntimeSessionGuard.revokedProcess_ne process
      | some call => simpa [guardStep, entered] using stopped
  | drain => cases entered : run.entered <;> simpa [guardStep, entered] using stopped
  | _ => exact stopped

theorem stopped_previous {steps : List GuardStep} (stopped : StoppedIn (stages guardStep {} steps)) :
    (finalState guardStep {} steps).guard.previous ≠ .running := by
  obtain ⟨earlier, stop, between, split, stops, quiet⟩ := stopped
  obtain ⟨first, input, rest, rfl, rfl, rfl, rfl⟩ := stages_split split
  rw [finalState_append, finalState_cons]
  refine finalState_invariant_of_admitted (fun run => run.guard.previous ≠ .running)
    (fun stage : GuardStage => ¬ stage.Enters .running)
    (fun _ _ known noTick => guardStep_previous known noTick) ?_ quiet
  rcases stops with ⟨process, other, called, idle⟩ | ⟨process, called, idle⟩
  · obtain rfl : input = .observe process := called
    have noted := enters_previous process idle
    exact noted.symm ▸ other
  · obtain rfl : input = .revoke process := called
    have noted := revokes_previous process idle
    exact noted.symm ▸ SipRuntimeSessionGuard.revokedProcess_ne process

/-- A lost session stays lost under every step. -/
theorem guardStep_lost {session : UInt64} (nonzero : session ≠ 0) {run : GuardRun} (step : GuardStep)
    (lost : run.mailbox.Lost session) : (guardStep run step).2.mailbox.Lost session := by
  rw [guardStep_mailbox]
  unfold GuardStep.mailboxAfter
  split
  · exact lost
  · next call _ => exact (BaresipEventMailbox.mailboxStep_moved run.mailbox call).lost nonzero lost

/-- The first Running tick after a stop loses every session issued before it. -/
theorem lost_of_first {steps : List GuardStep} (stopped : StoppedIn (stages guardStep {} steps))
    (idle : (finalState guardStep {} steps).entered = none) {session : UInt64} (nonzero : session ≠ 0)
    (issued : session ≤ (finalState guardStep {} steps).mailbox.generation) :
    (guardStep (finalState guardStep {} steps) (.observe .running)).2.mailbox.Lost session := by
  have previous := stopped_previous stopped
  have operation : (GuardStep.observe .running).mailboxCall (finalState guardStep {} steps) =
      some .invalidateSession := by
    simp [GuardStep.mailboxCall, idle, SipRuntimeSessionGuard.fences, previous]
  rw [guardStep_mailbox]
  unfold GuardStep.mailboxAfter
  rw [operation]
  exact ⟨issued, fun ended => absurd ended.symm nonzero⟩

theorem guard_shows_folds (steps : List GuardStep) : ShowsFolds (stages guardStep {} steps) where
  trusted := by
    rintro before stage after shown folded split output running nonzero intact known
    obtain ⟨first, step, rest, rfl, rfl, rfl, rfl⟩ := stages_split split
    have guarded := guard_guarded first
    obtain ⟨rfl, call, entered, rfl⟩ := shown_of_output output
    obtain ⟨previous, evidence⟩ := guarded.entered call entered
    dsimp only at running nonzero intact known ⊢
    rw [evidence running, running]
    refine (guarded.drain (previous.trans running)).trusted nonzero ?_ folded known
    rw [← (guarded.logged _).overflow nonzero rfl] at intact
    simpa using intact
  untrusted := by
    rintro before stage after shown split output running cause
    obtain ⟨first, step, rest, rfl, rfl, rfl, rfl⟩ := stages_split split
    have guarded := guard_guarded first
    obtain ⟨rfl, call, entered, rfl⟩ := shown_of_output output
    obtain ⟨previous, evidence⟩ := guarded.entered call entered
    dsimp only at running cause ⊢
    rw [evidence running, running]
    refine (guarded.drain (previous.trans running)).untrusted ?_
    by_cases zero : (finalState guardStep {} first).mailbox.session = 0
    · exact .inl zero
    · rwa [(guarded.logged _).overflow zero rfl]
  fenced := by
    rintro before first during stage after shown session split stopped ⟨called, idle⟩ output verified
    obtain ⟨earlier, step, rest, rfl, rfl, rfl, later⟩ := stages_split split
    obtain rfl : step = .observe .running := called
    change (finalState guardStep {} earlier).entered = none at idle
    obtain ⟨between, step, final, rfl, rfl, rfl, rfl⟩ := stages_split later.symm
    have sameState : finalState guardStep {} (earlier ++ .observe .running :: between) =
        finalState guardStep (stageOf guardStep (finalState guardStep {} earlier)
          (.observe .running)).after between := by
      rw [finalState_append, finalState_cons]
      rfl
    have proved := (guard_guarded (earlier ++ .observe .running :: between)).verified
      (by rw [sameState]; exact output) verified
    rw [sameState] at proved
    by_contra accepted
    have issued : session ≤ (finalState guardStep {} earlier).mailbox.generation := by
      by_contra above
      exact accepted (((guard_guarded earlier).logged session).unissued (UInt64.not_le.mp above)).1
    have lasting (run : GuardRun) (step : GuardStep) (known : run.mailbox.Lost session) :
        (guardStep run step).2.mailbox.Lost session := guardStep_lost proved.1 step known
    have lost := finalState_invariant lasting (lost_of_first stopped idle proved.1 issued) between
    exact absurd (proved.2.2.symm.trans (lost.2 proved.2.1)) (by decide)

end AxeVoice.Native
