import AxeVoice.Command.Executor

/-!
# What an entry of the executor can do

One inversion lemma for each entry point.  A dispatch is turned away, fences its
own session on a stale proof, or is served from the admitted state; a served
dispatch ends at the clock, at the sequence, at the pending command, at the
permission, or at the native port.
-/

namespace AxeVoice.Command

open Foundation Sip SipCommandExecutor

variable {width : WCharWidth} (ctype : WideCtype width)

namespace SipCommandExecutor

/-- The state once the clock reading and the sequence of a request are consumed. -/
def consume (executor : SipCommandExecutor) (sequence nowMs : UInt64) : SipCommandExecutor :=
  { executor with lastNowMs := nowMs, lastSequence := sequence }

/-- The state once the pending command has made progress. -/
def settle (executor : SipCommandExecutor) : SipCommandExecutor := { executor with pending := false }

theorem settle_of_idle (executor : SipCommandExecutor) (idle : executor.pending = false) :
    executor.settle = executor := by
  cases executor
  cases idle
  rfl

end SipCommandExecutor

/-- A dispatch served from the admitted state `base`. -/
inductive Served (base : SipCommandExecutor) (request : SipCommandRequest width)
    (live : SipRuntimeObservation) (nowMs : UInt64) :
    Outcome width → SipCommandExecutor → Prop
  | clockRollback : Served base request live nowMs (quiet .clockRollback) base.fence
  | duplicateRequest :
      Served base request live nowMs (quiet .duplicateRequest) { base with lastNowMs := nowMs }
  | commandTimedOut (fresh : base.lastSequence < request.sequence) :
      Served base request live nowMs (quiet .commandTimedOut)
        (base.consume request.sequence nowMs).fence
  | pendingTransition (fresh : base.lastSequence < request.sequence) :
      Served base request live nowMs (quiet .pendingTransition)
        (base.consume request.sequence nowMs)
  | refused (result : SipCommandResult) (fresh : base.lastSequence < request.sequence)
      (progressed : ¬ (base.pending ∧ base.awaiting live))
      (kind : result.disposition = .denied ∨ result.disposition = .duplicateCallAction) :
      Served base request live nowMs ⟨result, none⟩ (base.consume request.sequence nowMs).settle
  | submitted (destination : WString width) (fresh : base.lastSequence < request.sequence)
      (progressed : ¬ (base.pending ∧ base.awaiting live))
      (unsent : base.alreadySent request live = false) :
      Served base request live nowMs
        ⟨⟨.submitted, .none⟩, some (nativeCommand request destination)⟩
        (((base.consume request.sequence nowMs).settle.recordSent request live).startPending live
          nowMs)
  | nativeRejected (destination : WString width) (fresh : base.lastSequence < request.sequence)
      (progressed : ¬ (base.pending ∧ base.awaiting live))
      (unsent : base.alreadySent request live = false) :
      Served base request live nowMs
        ⟨⟨.nativeRejected, .none⟩, some (nativeCommand request destination)⟩
        (base.consume request.sequence nowMs).settle.fence

theorem dispatchPermitted_served (base : SipCommandExecutor) (request : SipCommandRequest width)
    (live : SipRuntimeObservation) (activeSession : UInt64) (selected : EngineSelection)
    (native : SipNativeCommandPort width) (nowMs : UInt64)
    (fresh : base.lastSequence < request.sequence)
    (progressed : ¬ (base.pending ∧ base.awaiting live)) :
    let served := (base.consume request.sequence nowMs).settle.dispatchPermitted ctype request live
      activeSession selected native nowMs
    Served base request live nowMs served.1 served.2 := by
  unfold dispatchPermitted
  dsimp only
  split
  · exact .refused _ fresh progressed (.inl rfl)
  · split
    · exact .refused _ fresh progressed (.inr rfl)
    · rename_i unsent
      have unsent : base.alreadySent request live = false := Bool.eq_false_iff.mpr unsent
      split
      · exact .submitted _ fresh progressed unsent
      · exact .nativeRejected _ fresh progressed unsent

theorem dispatchAdmitted_served (base : SipCommandExecutor) (request : SipCommandRequest width)
    (live : SipRuntimeObservation) (activeSession : UInt64) (selected : EngineSelection)
    (native : SipNativeCommandPort width) (nowMs : UInt64) :
    let served := base.dispatchAdmitted ctype request live activeSession selected native nowMs
    Served base request live nowMs served.1 served.2 := by
  unfold dispatchAdmitted
  dsimp only
  split
  · exact .clockRollback
  · split
    · exact .duplicateRequest
    · rename_i fresh
      have fresh : base.lastSequence < request.sequence := UInt64.not_le.mp fresh
      split
      · split
        · split
          · exact .commandTimedOut fresh
          · exact .pendingTransition fresh
        · rename_i changed
          exact dispatchPermitted_served ctype base request live activeSession selected native nowMs
            fresh fun both => changed both.2
      · rename_i idle
        have settled : base.consume request.sequence nowMs =
            (base.consume request.sequence nowMs).settle :=
          (settle_of_idle (base.consume request.sequence nowMs)
            (Bool.eq_false_iff.mpr idle)).symm
        have served := dispatchPermitted_served ctype base request live activeSession selected
          native nowMs fresh fun both => idle both.1
        rw [← settled] at served
        exact served

/-- A dispatch, as a whole. -/
inductive Dispatched (executor : SipCommandExecutor) (request : SipCommandRequest width)
    (live : SipRuntimeObservation) (activeSession nowMs : UInt64) :
    Outcome width → SipCommandExecutor → Prop
  | turnedAway (disposition : SipCommandDisposition)
      (kind : disposition = .invalidRequest ∨ disposition = .fenced ∨
        (disposition = .staleSession ∧ request.session ≠ executor.session)) :
      Dispatched executor request live activeSession nowMs (quiet disposition) executor
  | staleProof (current : request.session = executor.session) :
      Dispatched executor request live activeSession nowMs (quiet .staleSession) executor.fence
  | served {outcome : Outcome width} {next : SipCommandExecutor}
      (notOlder : executor.session ≤ request.session)
      (unfenced : request.session = executor.session → executor.fenced = false)
      (observed : live.session = request.session)
      (rest : Served (executor.admitSession request.session) request live nowMs outcome next) :
      Dispatched executor request live activeSession nowMs outcome next

theorem dispatch_dispatched (executor : SipCommandExecutor) (request : SipCommandRequest width)
    (live : SipRuntimeObservation) (activeSession : UInt64) (selected : EngineSelection)
    (native : SipNativeCommandPort width) (nowMs : UInt64) :
    let dispatched := executor.dispatch ctype request live activeSession selected native nowMs
    Dispatched executor request live activeSession nowMs dispatched.1 dispatched.2 := by
  unfold dispatch
  split
  · exact .turnedAway _ (.inl rfl)
  · rename_i valid
    simp only [Bool.or_eq_true, decide_eq_true_eq, not_or] at valid
    split
    · rename_i older
      exact .turnedAway _ (.inr (.inr ⟨rfl, UInt64.ne_of_lt older⟩))
    · rename_i notOlder
      split
      · exact .turnedAway _ (.inr (.inl rfl))
      · rename_i unfenced
        split
        · by_cases current : request.session = executor.session
          · rw [if_pos current]
            exact .staleProof current
          · rw [if_neg current]
            exact .turnedAway _ (.inr (.inr ⟨rfl, current⟩))
        · rename_i proven
          simp only [Bool.or_eq_true, decide_eq_true_eq, Bool.not_eq_true', not_or, not_not,
            Bool.not_eq_false] at proven
          have observed := ((sipProofIsCurrent_iff live activeSession).mp proven.2).2.2.2
          refine .served (UInt64.not_lt.mp notOlder) (fun current => ?_)
            (observed.trans proven.1.symm)
            (dispatchAdmitted_served ctype _ request live activeSession selected native nowMs)
          have opened : executor.session ≠ 0 := current ▸ valid.1.1
          simpa [opened, current] using unfenced

/-- A watchdog call, as a whole. -/
inductive Watched (executor : SipCommandExecutor) (live : SipRuntimeObservation)
    (nowMs : UInt64) : SipCommandDisposition → SipCommandExecutor → Prop
  | still (disposition : SipCommandDisposition)
      (kind : disposition = .fenced ∨ disposition = .idle) :
      Watched executor live nowMs disposition executor
  | faulted (disposition : SipCommandDisposition)
      (kind : disposition = .staleSession ∨ disposition = .clockRollback) :
      Watched executor live nowMs disposition executor.fence
  | progressObserved (progressed : ¬ executor.awaiting live) :
      Watched executor live nowMs .progressObserved { executor with lastNowMs := nowMs }.settle
  | commandTimedOut :
      Watched executor live nowMs .commandTimedOut { executor with lastNowMs := nowMs }.fence
  | pendingTransition :
      Watched executor live nowMs .pendingTransition { executor with lastNowMs := nowMs }

theorem watchdog_watched (executor : SipCommandExecutor) (live : SipRuntimeObservation)
    (activeSession nowMs : UInt64) :
    let watched := executor.watchdog live activeSession nowMs
    Watched executor live nowMs watched.1 watched.2 := by
  unfold watchdog
  split
  · exact .still _ (.inl rfl)
  · split
    · exact .still _ (.inr rfl)
    · split
      · exact .faulted _ (.inl rfl)
      · split
        · exact .faulted _ (.inr rfl)
        · dsimp only
          split
          · rename_i progressed
            have changed : executor.awaiting live = false := (Bool.not_eq_true' _).mp progressed
            exact .progressObserved (Bool.eq_false_iff.mp changed)
          · split
            · exact .commandTimedOut
            · exact .pendingTransition

end AxeVoice.Command
