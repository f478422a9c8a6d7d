import AxeVoice.Command.Transitions
import AxeVoice.Foundation.HighWater
import Mathlib.Data.Prod.Lex
import Mathlib.Order.WithBot
import Mathlib.Data.Nat.Order.Lemmas

/-!
# Native commands at most once

The executor's memory is a family of high-water marks: the sequence, the answered
and the hung up call, and the point of the call history it last dialled at.  A
mark counts within a session, and a fenced session has the greatest one, so what
reaches the port lies above everything that reached it before.
-/

namespace AxeVoice.Command

open Foundation Sip SipCommandExecutor

variable {width : WCharWidth} {ctype : WideCtype width}

/-- A call of the native port with the request and the observation it was made for. -/
structure PortCall (width : WCharWidth) where
  request : SipCommandRequest width
  live : SipRuntimeObservation
  command : NativeCommand width

abbrev ExecutorStage (width : WCharWidth) :=
  Stage SipCommandExecutor (ExecutorCall width) (Outcome width)

/-- The call of the native port a stage made, if any. -/
def portCall (stage : ExecutorStage width) : Option (PortCall width) :=
  match stage.input, stage.output.command with
  | .dispatch request live _ _ _ _, some command => some ⟨request, live, command⟩
  | _, _ => none

/-- What the executor remembers of the commands it sent. -/
inductive Counter where
  | sequence
  | answer
  | hangup
  | dial

/-- The counted value; a dial counts one above the call it follows, so that none counts zero. -/
def SipCommandExecutor.count (executor : SipCommandExecutor) : Counter → ℕ
  | .sequence => executor.lastSequence.toNat
  | .answer => executor.lastAnswerId.toNat
  | .hangup => executor.lastHangupId.toNat
  | .dial => if executor.sentDial then executor.lastDialCall.toNat + 1 else 0

def PortCall.count (call : PortCall width) : Counter → Option ℕ
  | .sequence => some call.request.sequence.toNat
  | .answer => match call.command with
    | .answer callId => some callId.toNat
    | _ => none
  | .hangup => match call.command with
    | .hangup callId => some callId.toNat
    | _ => none
  | .dial => match call.command with
    | .originate _ => some (call.live.lastCallId.toNat + 1)
    | _ => none

/-- Sessions first; within a session the count, below everything once the session is fenced. -/
abbrev Mark := ℕ ×ₗ WithTop ℕ

def SipCommandExecutor.mark (counter : Counter) (executor : SipCommandExecutor) : Mark :=
  toLex (executor.session.toNat, if executor.fenced then ⊤ else .some (executor.count counter))

def PortCall.mark (call : PortCall width) (value : ℕ) : Mark :=
  toLex (call.request.session.toNat, .some value)

/-- The mark of the call a stage made, when the counter counts calls of its kind. -/
def issuedMark (counter : Counter) (stage : ExecutorStage width) : Option Mark :=
  (portCall stage).bind fun call => (call.count counter).map call.mark

/-- The session is the same and neither its fence nor a count is lost. -/
structure Ascends (before after : SipCommandExecutor) : Prop where
  session : after.session = before.session
  unfenced : after.fenced = false → before.fenced = false
  counts : after.fenced = false → ∀ counter, before.count counter ≤ after.count counter

theorem Ascends.refl (executor : SipCommandExecutor) : Ascends executor executor :=
  ⟨rfl, id, fun _ _ => le_rfl⟩

theorem Ascends.mark_le {before after : SipCommandExecutor} (ascends : Ascends before after)
    (counter : Counter) : before.mark counter ≤ after.mark counter := by
  refine Prod.Lex.toLex_le_toLex.mpr (.inr ⟨congrArg UInt64.toNat ascends.session.symm, ?_⟩)
  cases fenced : after.fenced with
  | true => simp
  | false =>
      have counts := ascends.counts fenced counter
      simpa [ascends.unfenced fenced] using counts

theorem mark_lt_of_session_lt {before after : SipCommandExecutor}
    (newer : before.session < after.session) (counter : Counter) :
    before.mark counter < after.mark counter :=
  Prod.Lex.toLex_lt_toLex.mpr (.inl newer)

theorem ascends_fence (executor : SipCommandExecutor) : Ascends executor executor.fence :=
  ⟨rfl, nofun, nofun⟩

/-- Recording a command that was not sent before raises its count and keeps the others. -/
theorem count_le_recordSent (executor : SipCommandExecutor) {request : SipCommandRequest width}
    {live : SipRuntimeObservation} (unsent : executor.alreadySent request live = false)
    (counter : Counter) :
    executor.count counter ≤ (executor.recordSent request live).count counter := by
  unfold alreadySent at unsent
  unfold recordSent
  cases action : request.action with
  | dial =>
      cases counter with
      | dial =>
          simp only [action, Bool.and_eq_false_iff, decide_eq_false_iff_not, UInt64.not_le]
            at unsent
          rcases unsent with never | later
          · simp [SipCommandExecutor.count, never]
          · have later := UInt64.lt_iff_toNat_lt.mp later
            simp only [SipCommandExecutor.count]
            split <;> simp only [if_true] <;> omega
      | sequence | answer | hangup => exact le_rfl
  | answer =>
      cases counter with
      | answer =>
          simp only [action, decide_eq_false_iff_not, UInt64.not_le] at unsent
          exact Nat.le_of_lt unsent
      | sequence | hangup | dial => exact le_rfl
  | hangup =>
      cases counter with
      | hangup =>
          simp only [action, decide_eq_false_iff_not, UInt64.not_le] at unsent
          exact Nat.le_of_lt unsent
      | sequence | answer | dial => exact le_rfl

theorem count_le_consume {executor : SipCommandExecutor} {sequence : UInt64} (nowMs : UInt64)
    (fresh : executor.lastSequence < sequence) (counter : Counter) :
    executor.count counter ≤ (executor.consume sequence nowMs).count counter := by
  cases counter with
  | sequence => exact Nat.le_of_lt fresh
  | answer | hangup | dial => exact le_rfl

theorem served_ascends {base next : SipCommandExecutor} {request : SipCommandRequest width}
    {live : SipRuntimeObservation} {nowMs : UInt64} {outcome : Outcome width}
    (served : Served base request live nowMs outcome next) : Ascends base next := by
  cases served with
  | clockRollback => exact ascends_fence base
  | duplicateRequest => exact ⟨rfl, id, fun _ counter => by cases counter <;> exact le_rfl⟩
  | commandTimedOut fresh => exact ⟨rfl, nofun, nofun⟩
  | pendingTransition fresh => exact ⟨rfl, id, fun _ => count_le_consume nowMs fresh⟩
  | refused result fresh progressed kind => exact ⟨rfl, id, fun _ => count_le_consume nowMs fresh⟩
  | submitted destination fresh progressed unsent =>
      have same : ((base.consume request.sequence nowMs).settle.recordSent request live).session =
          base.session ∧
          ((base.consume request.sequence nowMs).settle.recordSent request live).fenced =
            base.fenced := by
        unfold recordSent
        cases request.action <;> exact ⟨rfl, rfl⟩
      refine ⟨same.1, fun open_ => same.2 ▸ open_, fun _ counter => ?_⟩
      calc base.count counter
          ≤ (base.consume request.sequence nowMs).settle.count counter :=
            count_le_consume nowMs fresh counter
        _ ≤ ((base.consume request.sequence nowMs).settle.recordSent request live).count counter :=
            count_le_recordSent (base.consume request.sequence nowMs).settle unsent counter
  | nativeRejected destination fresh progressed unsent => exact ⟨rfl, nofun, nofun⟩

/-- A command not sent before lies above its count, which reaches it once it is recorded. -/
theorem unsent_count (executor : SipCommandExecutor) {request : SipCommandRequest width}
    {live : SipRuntimeObservation} (unsent : executor.alreadySent request live = false)
    {destination : WString width} {counter : Counter} (kind : counter ≠ .sequence) {value : ℕ}
    (counted : PortCall.count ⟨request, live, nativeCommand request destination⟩ counter =
      some value) :
    executor.count counter < value ∧ value ≤ (executor.recordSent request live).count counter := by
  unfold alreadySent at unsent
  unfold nativeCommand at counted
  unfold recordSent
  cases counter with
  | sequence => exact absurd rfl kind
  | answer =>
      cases action : request.action <;> simp only [action] at counted unsent <;> cases counted
      simp only [decide_eq_false_iff_not, UInt64.not_le] at unsent
      exact ⟨unsent, le_rfl⟩
  | hangup =>
      cases action : request.action <;> simp only [action] at counted unsent <;> cases counted
      simp only [decide_eq_false_iff_not, UInt64.not_le] at unsent
      exact ⟨unsent, le_rfl⟩
  | dial =>
      cases action : request.action <;> simp only [action] at counted unsent <;> cases counted
      simp only [Bool.and_eq_false_iff, decide_eq_false_iff_not, UInt64.not_le] at unsent
      refine ⟨?_, le_rfl⟩
      rcases unsent with never | later
      · simp [SipCommandExecutor.count, never]
      · have later := UInt64.lt_iff_toNat_lt.mp later
        simp only [SipCommandExecutor.count]
        split <;> omega

/-- The ways to reach the port: a fresh sequence, no pending command and nothing sent before. -/
theorem served_command {base next : SipCommandExecutor} {request : SipCommandRequest width}
    {live : SipRuntimeObservation} {nowMs : UInt64} {outcome : Outcome width}
    (served : Served base request live nowMs outcome next) {command : NativeCommand width}
    (issued : outcome.command = some command) :
    base.lastSequence < request.sequence ∧ ¬ (base.pending ∧ base.awaiting live) ∧
      base.alreadySent request live = false ∧
      (∃ destination, command = nativeCommand request destination) ∧
      (next.fenced = false →
        next = ((base.consume request.sequence nowMs).settle.recordSent request live).startPending
          live nowMs) := by
  cases served with
  | clockRollback => cases issued
  | duplicateRequest => cases issued
  | commandTimedOut fresh => cases issued
  | pendingTransition fresh => cases issued
  | refused result fresh progressed kind => cases issued
  | submitted destination fresh progressed unsent =>
      exact ⟨fresh, progressed, unsent, ⟨destination, (Option.some.inj issued).symm⟩, fun _ => rfl⟩
  | nativeRejected destination fresh progressed unsent =>
      exact ⟨fresh, progressed, unsent, ⟨destination, (Option.some.inj issued).symm⟩, nofun⟩

/-- A command that reached the port lay above its count, and an open session keeps it counted. -/
theorem served_count {base next : SipCommandExecutor} {request : SipCommandRequest width}
    {live : SipRuntimeObservation} {nowMs : UInt64} {outcome : Outcome width}
    (served : Served base request live nowMs outcome next) {command : NativeCommand width}
    (issued : outcome.command = some command) {counter : Counter} {value : ℕ}
    (counted : PortCall.count ⟨request, live, command⟩ counter = some value) :
    base.count counter < value ∧ (next.fenced = false → value ≤ next.count counter) := by
  obtain ⟨fresh, progressed, unsent, ⟨destination, rfl⟩, recorded⟩ := served_command served issued
  by_cases kind : counter = .sequence
  · subst kind
    cases counted
    refine ⟨fresh, fun unfenced => ?_⟩
    rw [recorded unfenced]
    unfold recordSent
    cases request.action <;> exact le_rfl
  · obtain ⟨below, above⟩ := unsent_count (base.consume request.sequence nowMs).settle unsent
      kind counted
    cases counter with
    | sequence => exact absurd rfl kind
    | answer | hangup | dial =>
        refine ⟨below, fun unfenced => ?_⟩
        rw [recorded unfenced]
        exact above

theorem dispatched_mark_le {executor next : SipCommandExecutor}
    {request : SipCommandRequest width} {live : SipRuntimeObservation}
    {activeSession nowMs : UInt64} {outcome : Outcome width}
    (dispatched : Dispatched executor request live activeSession nowMs outcome next)
    (counter : Counter) : executor.mark counter ≤ next.mark counter := by
  cases dispatched with
  | turnedAway disposition kind => exact le_rfl
  | staleProof current => exact (ascends_fence executor).mark_le counter
  | served notOlder unfenced observed rest =>
      have ascends := (served_ascends rest).mark_le counter
      unfold admitSession at ascends
      split at ascends
      · rename_i newer
        have opened : executor.mark counter < (beginNewSession request.session).mark counter :=
          mark_lt_of_session_lt newer counter
        exact opened.le.trans ascends
      · exact ascends

theorem watched_mark_le {executor next : SipCommandExecutor} {live : SipRuntimeObservation}
    {nowMs : UInt64} {disposition : SipCommandDisposition}
    (watched : Watched executor live nowMs disposition next) (counter : Counter) :
    executor.mark counter ≤ next.mark counter := by
  have timed (other : SipCommandExecutor) (session : other.session = executor.session)
      (fenced : other.fenced = executor.fenced)
      (counts : ∀ counter, other.count counter = executor.count counter) :
      Ascends executor other :=
    ⟨session, fun unfenced => fenced ▸ unfenced, fun _ counter => (counts counter).ge⟩
  cases watched with
  | still disposition kind => exact le_rfl
  | faulted disposition kind => exact (ascends_fence executor).mark_le counter
  | progressObserved progressed =>
      exact (timed _ rfl rfl fun counter => by cases counter <;> rfl).mark_le counter
  | commandTimedOut =>
      have clocked := timed { executor with lastNowMs := nowMs } rfl rfl fun counter => by
        cases counter <;> rfl
      exact (clocked.mark_le counter).trans ((ascends_fence _).mark_le counter)
  | pendingTransition =>
      exact (timed _ rfl rfl fun counter => by cases counter <;> rfl).mark_le counter

theorem admitSession_session {executor : SipCommandExecutor} {session : UInt64}
    (notOlder : executor.session ≤ session) : (executor.admitSession session).session = session := by
  unfold admitSession
  split
  · rfl
  · rename_i same
    exact UInt64.le_antisymm notOlder (UInt64.not_lt.mp same)

/-- A dispatch that reached the port: its mark lies above the old one, and the new one reaches it. -/
theorem dispatched_mark {executor next : SipCommandExecutor}
    {request : SipCommandRequest width} {live : SipRuntimeObservation}
    {activeSession nowMs : UInt64} {outcome : Outcome width}
    (dispatched : Dispatched executor request live activeSession nowMs outcome next)
    {command : NativeCommand width} (issued : outcome.command = some command)
    {counter : Counter} {value : ℕ}
    (counted : PortCall.count ⟨request, live, command⟩ counter = some value) :
    executor.mark counter < PortCall.mark ⟨request, live, command⟩ value ∧
      PortCall.mark ⟨request, live, command⟩ value ≤ next.mark counter := by
  cases dispatched with
  | turnedAway disposition kind => cases issued
  | staleProof current => cases issued
  | served notOlder unfenced observed rest =>
      obtain ⟨below, above⟩ := served_count rest issued counted
      have ascends := served_ascends rest
      have session := admitSession_session notOlder
      constructor
      · by_cases newer : executor.session < request.session
        · exact Prod.Lex.toLex_lt_toLex.mpr (.inl newer)
        · have same : executor.session = request.session :=
            UInt64.le_antisymm notOlder (UInt64.not_lt.mp newer)
          refine Prod.Lex.toLex_lt_toLex.mpr (.inr ⟨congrArg UInt64.toNat same, ?_⟩)
          rw [admitSession, if_neg newer] at below
          simpa [unfenced same.symm] using below
      · refine Prod.Lex.toLex_le_toLex.mpr
          (.inr ⟨congrArg UInt64.toNat (ascends.session.trans session).symm, ?_⟩)
        cases fenced : next.fenced with
        | true => simp
        | false => simpa using above fenced

theorem executorStep_mark_le (executor : SipCommandExecutor) (call : ExecutorCall width)
    (counter : Counter) :
    executor.mark counter ≤ (executorStep ctype executor call).2.mark counter := by
  cases call with
  | dispatch request live activeSession selected native nowMs =>
      exact dispatched_mark_le (dispatch_dispatched ctype executor request live activeSession
        selected native nowMs) counter
  | watchdog live activeSession nowMs =>
      exact watched_mark_le (watchdog_watched executor live activeSession nowMs) counter

theorem executorStep_issuedMark {executor : SipCommandExecutor} {call : ExecutorCall width}
    {counter : Counter} {value : Mark}
    (issued : issuedMark counter (stageOf (executorStep ctype) executor call) = some value) :
    executor.mark counter < value ∧ value ≤ (executorStep ctype executor call).2.mark counter := by
  obtain ⟨made, called, mapped⟩ := Option.bind_eq_some_iff.mp issued
  obtain ⟨count, counted, rfl⟩ := Option.map_eq_some_iff.mp mapped
  cases call with
  | watchdog live activeSession nowMs => cases called
  | dispatch request live activeSession selected native nowMs =>
      have dispatched := dispatch_dispatched ctype executor request live activeSession selected
        native nowMs
      cases command : (executorStep ctype executor (.dispatch request live activeSession selected
          native nowMs)).1.command with
      | none => simp [portCall, stageOf, command] at called
      | some command' =>
          simp only [portCall, stageOf, command, Option.some.injEq] at called
          subst called
          exact dispatched_mark dispatched command counted

/-- Each counter is a high-water mark of the commands it counts. -/
theorem executor_highWater (ctype : WideCtype width) (counter : Counter) :
    HighWater (executorStep ctype) (fun _ => True) (SipCommandExecutor.mark counter)
      (issuedMark counter) where
  preserved _ _ _ := trivial
  rises executor call _ := executorStep_mark_le executor call counter
  above _ _ _ _ issued := (executorStep_issuedMark issued).1
  reached _ _ _ _ issued := (executorStep_issuedMark issued).2

/-! ## The pending command -/

/-- Two observations show the same session and the same progress of its calls. -/
def SameProgress (first second : SipRuntimeObservation) : Prop :=
  first.session = second.session ∧ first.sip = second.sip ∧ first.callId = second.callId ∧
    first.lastCallId = second.lastCallId

/-- A command submitted under `origin` is pending, or its session is fenced. -/
def Waiting (origin : SipRuntimeObservation) (executor : SipCommandExecutor) : Prop :=
  executor.session = origin.session ∧
    (executor.fenced ∨ (executor.pending ∧ executor.awaiting origin))

theorem awaiting_of_sameProgress (executor : SipCommandExecutor)
    {live origin : SipRuntimeObservation} (same : SameProgress live origin) :
    executor.awaiting live = executor.awaiting origin := by
  unfold awaiting
  rw [same.2.1, same.2.2.1, same.2.2.2]

theorem served_waiting {base next : SipCommandExecutor} {request : SipCommandRequest width}
    {live origin : SipRuntimeObservation} {nowMs : UInt64} {outcome : Outcome width}
    (served : Served base request live nowMs outcome next) (session : base.session = origin.session)
    (pending : base.pending ∧ base.awaiting live) (awaiting : base.awaiting origin) :
    outcome.command = none ∧ Waiting origin next := by
  cases served with
  | clockRollback => exact ⟨rfl, session, .inl rfl⟩
  | duplicateRequest => exact ⟨rfl, session, .inr ⟨pending.1, awaiting⟩⟩
  | commandTimedOut fresh => exact ⟨rfl, session, .inl rfl⟩
  | pendingTransition fresh => exact ⟨rfl, session, .inr ⟨pending.1, awaiting⟩⟩
  | refused result fresh progressed kind => exact absurd pending progressed
  | submitted destination fresh progressed unsent => exact absurd pending progressed
  | nativeRejected destination fresh progressed unsent => exact absurd pending progressed

theorem dispatched_waiting {executor next : SipCommandExecutor}
    {request : SipCommandRequest width} {live origin : SipRuntimeObservation}
    {activeSession nowMs : UInt64} {outcome : Outcome width}
    (dispatched : Dispatched executor request live activeSession nowMs outcome next)
    (waiting : Waiting origin executor) (same : SameProgress live origin) :
    outcome.command = none ∧ Waiting origin next := by
  cases dispatched with
  | turnedAway disposition kind => exact ⟨rfl, waiting⟩
  | staleProof current => exact ⟨rfl, waiting.1, .inl rfl⟩
  | served notOlder unfenced observed rest =>
      have current : request.session = executor.session :=
        observed.symm.trans (same.1.trans waiting.1.symm)
      have admitted : executor.admitSession request.session = executor := by
        unfold admitSession
        rw [current]
        exact if_neg (UInt64.lt_irrefl _)
      rw [admitted] at rest
      rcases waiting.2 with fenced | pending
      · exact absurd fenced (Bool.eq_false_iff.mp (unfenced current))
      · have awaited := awaiting_of_sameProgress executor same
        exact served_waiting rest waiting.1 ⟨pending.1, awaited.trans pending.2⟩ pending.2

theorem watched_waiting {executor next : SipCommandExecutor} {live origin : SipRuntimeObservation}
    {nowMs : UInt64} {disposition : SipCommandDisposition}
    (watched : Watched executor live nowMs disposition next) (waiting : Waiting origin executor)
    (same : SameProgress live origin) : Waiting origin next := by
  cases watched with
  | still disposition kind => exact waiting
  | faulted disposition kind => exact ⟨waiting.1, .inl rfl⟩
  | progressObserved progressed =>
      rcases waiting.2 with fenced | pending
      · exact ⟨waiting.1, .inl fenced⟩
      · rw [awaiting_of_sameProgress _ same] at progressed
        exact absurd pending.2 progressed
  | commandTimedOut => exact ⟨waiting.1, .inl rfl⟩
  | pendingTransition => exact waiting

/-- As long as no progress is observed, nothing reaches the port and the command stays pending. -/
theorem executorStep_waiting {executor : SipCommandExecutor} {origin : SipRuntimeObservation}
    (waiting : Waiting origin executor) (call : ExecutorCall width)
    (same : SameProgress call.live origin) :
    portCall (stageOf (executorStep ctype) executor call) = none ∧
      Waiting origin (executorStep ctype executor call).2 := by
  cases call with
  | dispatch request live activeSession selected native nowMs =>
      obtain ⟨quiet, next⟩ := dispatched_waiting (dispatch_dispatched ctype executor request live
        activeSession selected native nowMs) waiting same
      refine ⟨?_, next⟩
      change (match ExecutorCall.dispatch request live activeSession selected native nowMs,
        (executor.dispatch ctype request live activeSession selected native nowMs).1.command with
        | .dispatch request live _ _ _ _, some command => some (PortCall.mk request live command)
        | _, _ => none) = none
      rw [quiet]
  | watchdog live activeSession nowMs =>
      exact ⟨rfl, watched_waiting (watchdog_watched executor live activeSession nowMs) waiting same⟩

theorem dispatched_submitted {executor next : SipCommandExecutor}
    {request : SipCommandRequest width} {live : SipRuntimeObservation}
    {activeSession nowMs : UInt64} {outcome : Outcome width}
    (dispatched : Dispatched executor request live activeSession nowMs outcome next)
    (submitted : outcome.result.disposition = .submitted) : Waiting live next := by
  cases dispatched with
  | turnedAway disposition kind =>
      rcases kind with rfl | rfl | ⟨rfl, _⟩ <;> cases submitted
  | staleProof current => cases submitted
  | served notOlder unfenced observed rest =>
      cases rest with
      | clockRollback => cases submitted
      | duplicateRequest => cases submitted
      | commandTimedOut fresh => cases submitted
      | pendingTransition fresh => cases submitted
      | refused result fresh progressed kind =>
          rcases kind with kind | kind <;> rw [kind] at submitted <;> cases submitted
      | submitted destination fresh progressed unsent =>
          refine ⟨?_, .inr ⟨rfl, by simp [awaiting, startPending]⟩⟩
          have session : (executor.admitSession request.session).session = live.session := by
            rw [admitSession_session notOlder, observed]
          rw [← session]
          change (recordSent _ request live).session = _
          unfold recordSent
          cases request.action <;> rfl
      | nativeRejected destination fresh progressed unsent => cases submitted

theorem watched_ne_submitted {executor next : SipCommandExecutor} {live : SipRuntimeObservation}
    {nowMs : UInt64} {disposition : SipCommandDisposition}
    (watched : Watched executor live nowMs disposition next) : disposition ≠ .submitted := by
  cases watched with
  | still disposition kind | faulted disposition kind =>
      rcases kind with rfl | rfl <;> exact nofun
  | progressObserved | commandTimedOut | pendingTransition => exact nofun

/-- A submitted command is pending under the observation of its dispatch. -/
theorem executorStep_submitted {executor : SipCommandExecutor} {call : ExecutorCall width}
    (submitted : (executorStep ctype executor call).1.result.disposition = .submitted) :
    Waiting call.live (executorStep ctype executor call).2 := by
  cases call with
  | dispatch request live activeSession selected native nowMs =>
      exact dispatched_submitted (dispatch_dispatched ctype executor request live activeSession
        selected native nowMs) submitted
  | watchdog live activeSession nowMs =>
      exact absurd submitted
        (watched_ne_submitted (watchdog_watched executor live activeSession nowMs))

/-- The disposition fences the session; a stale proof does so where it concerns the current one. -/
def SipCommandDisposition.Faults : SipCommandDisposition → (current : Prop) → Prop
  | .nativeRejected, _ | .commandTimedOut, _ | .clockRollback, _ => True
  | .staleSession, current => current
  | _, _ => False

def Faulted (stage : ExecutorStage width) : Prop :=
  stage.output.result.disposition.Faults <|
    match stage.input with
    | .dispatch request _ _ _ _ _ => request.session = stage.before.session
    | .watchdog _ _ _ => True

theorem dispatched_faulted {executor next : SipCommandExecutor}
    {request : SipCommandRequest width} {live : SipRuntimeObservation}
    {activeSession nowMs : UInt64} {outcome : Outcome width}
    (dispatched : Dispatched executor request live activeSession nowMs outcome next)
    (faulted : outcome.result.disposition.Faults (request.session = executor.session)) :
    next.fenced := by
  cases dispatched with
  | turnedAway disposition kind =>
      rcases kind with rfl | rfl | ⟨rfl, other⟩
      · exact faulted.elim
      · exact faulted.elim
      · exact absurd faulted other
  | staleProof current => rfl
  | served notOlder unfenced observed rest =>
      cases rest with
      | clockRollback => rfl
      | commandTimedOut fresh => rfl
      | nativeRejected destination fresh progressed unsent => rfl
      | duplicateRequest => exact faulted.elim
      | pendingTransition fresh => exact faulted.elim
      | submitted destination fresh progressed unsent => exact faulted.elim
      | refused result fresh progressed kind =>
          rcases kind with kind | kind <;> simp only [kind] at faulted <;> exact faulted.elim

theorem watched_faulted {executor next : SipCommandExecutor} {live : SipRuntimeObservation}
    {nowMs : UInt64} {disposition : SipCommandDisposition}
    (watched : Watched executor live nowMs disposition next) (faulted : disposition.Faults True) :
    next.fenced := by
  cases watched with
  | still disposition kind => rcases kind with rfl | rfl <;> exact faulted.elim
  | faulted disposition kind => rfl
  | progressObserved progressed => exact faulted.elim
  | commandTimedOut => rfl
  | pendingTransition => exact faulted.elim

theorem executorStep_faulted {executor : SipCommandExecutor} {call : ExecutorCall width}
    (faulted : Faulted (stageOf (executorStep ctype) executor call)) :
    (executorStep ctype executor call).2.fenced := by
  cases call with
  | dispatch request live activeSession selected native nowMs =>
      exact dispatched_faulted (dispatch_dispatched ctype executor request live activeSession
        selected native nowMs) faulted
  | watchdog live activeSession nowMs =>
      exact watched_faulted (watchdog_watched executor live activeSession nowMs) faulted

/-- Two calls of the port, in this order. -/
structure PortOrder (earlier later : PortCall width) : Prop where
  sequence : earlier.request.session = later.request.session →
    earlier.request.sequence < later.request.sequence
  answer : earlier.request.session = later.request.session →
    ∀ callId, earlier.command = .answer callId → later.command ≠ .answer callId
  hangup : earlier.request.session = later.request.session →
    ∀ callId, earlier.command = .hangup callId → later.command ≠ .hangup callId
  originate : earlier.request.session = later.request.session →
    ∀ first second, earlier.command = .originate first → later.command = .originate second →
      earlier.live.lastCallId < later.live.lastCallId

/-- What a run may do with the native port. -/
structure PortDiscipline (run : List (ExecutorStage width)) : Prop where
  ordered : run.Pairwise fun earlier later =>
    ∀ first ∈ portCall earlier, ∀ second ∈ portCall later, PortOrder first second
  notOlder : run.Pairwise fun earlier later =>
    ∀ call ∈ portCall later, earlier.after.session ≤ call.request.session
  fenced : run.Pairwise fun earlier later => earlier.after.fenced →
    ∀ call ∈ portCall later, earlier.after.session < call.request.session
  faults : ∀ stage ∈ run, Faulted stage → stage.after.fenced
  pending : ∀ before submitted between next after,
    run = before ++ submitted :: (between ++ next :: after) →
    submitted.output.result.disposition = .submitted → portCall next ≠ none →
    ∃ stage ∈ between ++ [next], ¬ SameProgress stage.input.live submitted.input.live

theorem portOrder_of_marks {earlier later : PortCall width}
    (below : ∀ counter first second, earlier.count counter = some first →
      later.count counter = some second → earlier.mark first < later.mark second) :
    PortOrder earlier later := by
  have within (session : earlier.request.session = later.request.session) (counter : Counter)
      (first second : ℕ) (one : earlier.count counter = some first)
      (other : later.count counter = some second) : first < second := by
    rcases Prod.Lex.toLex_lt_toLex.mp (below counter first second one other) with less | same
    · exact absurd (congrArg UInt64.toNat session) less.ne
    · exact WithTop.coe_lt_coe.mp same.2
  refine ⟨fun session => ?_, fun session callId one other => ?_, fun session callId one other => ?_,
    fun session first second one other => ?_⟩
  · exact within session .sequence _ _ rfl rfl
  · exact absurd (within session .answer callId.toNat callId.toNat
      (by simp [PortCall.count, one]) (by simp [PortCall.count, other])) (lt_irrefl _)
  · exact absurd (within session .hangup callId.toNat callId.toNat
      (by simp [PortCall.count, one]) (by simp [PortCall.count, other])) (lt_irrefl _)
  · have less := within session .dial (earlier.live.lastCallId.toNat + 1)
      (later.live.lastCallId.toNat + 1) (by simp [PortCall.count, one])
      (by simp [PortCall.count, other])
    exact UInt64.lt_iff_toNat_lt.mpr (Nat.lt_of_succ_lt_succ less)

theorem issuedMark_of_portCall {counter : Counter} {stage : ExecutorStage width}
    {call : PortCall width} {value : ℕ} (made : call ∈ portCall stage)
    (counted : call.count counter = some value) :
    call.mark value ∈ issuedMark counter stage := by
  have made : portCall stage = some call := made
  simp [issuedMark, made, counted]

theorem ports_ordered (executor : SipCommandExecutor) (calls : List (ExecutorCall width)) :
    (stages (executorStep ctype) executor calls).Pairwise fun earlier later =>
      ∀ first ∈ portCall earlier, ∀ second ∈ portCall later, PortOrder first second := by
  have increasing (counter : Counter) :=
    (executor_highWater ctype counter).issued_increasing executor trivial calls
  have all := (((increasing .sequence).and (increasing .answer)).and (increasing .hangup)).and
    (increasing .dial)
  refine all.imp ?_
  rintro earlier later ⟨⟨⟨sequence, answer⟩, hangup⟩, dial⟩ first made second made'
  refine portOrder_of_marks fun counter one other counted counted' => ?_
  have issued := issuedMark_of_portCall made counted
  have issued' := issuedMark_of_portCall made' counted'
  cases counter with
  | sequence => exact sequence _ issued _ issued'
  | answer => exact answer _ issued _ issued'
  | hangup => exact hangup _ issued _ issued'
  | dial => exact dial _ issued _ issued'

/-- What reaches the port lies above the mark an earlier stage has left. -/
theorem ports_above_earlier (executor : SipCommandExecutor) (calls : List (ExecutorCall width)) :
    (stages (executorStep ctype) executor calls).Pairwise fun earlier later =>
      ∀ call ∈ portCall later,
        earlier.after.mark .sequence < call.mark call.request.sequence.toNat :=
  ((executor_highWater ctype .sequence).issued_above_earlier executor trivial calls).imp
    fun above (call : PortCall width) made =>
      above (call.mark call.request.sequence.toNat) (issuedMark_of_portCall made rfl)

theorem session_le_of_mark_lt {executor : SipCommandExecutor} {call : PortCall width} {value : ℕ}
    (below : executor.mark .sequence < call.mark value) :
    executor.session ≤ call.request.session := by
  rcases Prod.Lex.toLex_lt_toLex.mp below with less | same
  · exact UInt64.le_iff_toNat_le.mpr (Nat.le_of_lt less)
  · exact UInt64.le_iff_toNat_le.mpr same.1.le

theorem session_lt_of_mark_lt {executor : SipCommandExecutor} {call : PortCall width} {value : ℕ}
    (fenced : executor.fenced) (below : executor.mark .sequence < call.mark value) :
    executor.session < call.request.session := by
  rcases Prod.Lex.toLex_lt_toLex.mp below with less | same
  · exact UInt64.lt_iff_toNat_lt.mpr less
  · exact absurd same.2 (by simp [fenced])

/-- No progress observed since a submission: nothing reached the port since. -/
theorem pending_until_progress {executor : SipCommandExecutor} {calls : List (ExecutorCall width)}
    {before between after : List (ExecutorStage width)} {submitted next : ExecutorStage width}
    (split : stages (executorStep ctype) executor calls =
      before ++ submitted :: (between ++ next :: after))
    (accepted : submitted.output.result.disposition = .submitted)
    (reached : portCall next ≠ none) :
    ∃ stage ∈ between ++ [next], ¬ SameProgress stage.input.live submitted.input.live := by
  by_contra unprogressed
  have unchanged : ∀ stage ∈ between ++ [next],
      SameProgress stage.input.live submitted.input.live := fun stage member =>
    not_not.mp fun changed => unprogressed ⟨stage, member, changed⟩
  obtain ⟨first, call, rest, -, -, rfl, later⟩ := stages_split split
  obtain ⟨middle, last, final, -, rfl, rfl, -⟩ := stages_split later.symm
  have waiting := finalState_invariant_of_admitted (Waiting call.live)
    (fun stage => SameProgress stage.input.live call.live)
    (fun current input known same => (executorStep_waiting known input same).2)
    (executorStep_submitted accepted) fun stage member =>
      unchanged stage (List.mem_append_left _ member)
  have same := unchanged _ (List.mem_append_right _ List.mem_cons_self)
  exact reached (executorStep_waiting waiting last same).1

/--
At most once native commands: whatever the executor is asked, observes and is
answered, its run keeps the port discipline.
-/
theorem native_commands_at_most_once (ctype : WideCtype width) (calls : List (ExecutorCall width)) :
    PortDiscipline (stages (executorStep ctype) {} calls) where
  ordered := ports_ordered {} calls
  notOlder := (ports_above_earlier {} calls).imp fun above call made =>
    session_le_of_mark_lt (above call made)
  fenced := (ports_above_earlier {} calls).imp fun above fenced call made =>
    session_lt_of_mark_lt fenced (above call made)
  faults := stages_forall_of_step (fun stage => Faulted stage → stage.after.fenced)
    (fun _ _ faulted => executorStep_faulted faulted) _ calls
  pending _ _ _ _ _ split accepted reached := pending_until_progress split accepted reached

end AxeVoice.Command
