import AxeVoice.Foundation.Reactive
import AxeVoice.Sip.ProjectionGate

/-!
# Revoked generations

Runs that mix the producer's mailbox operations with drains and `observe` calls
of both overloads.  The generations that the mailbox will not deliver again are
the spent ones of the revocation gates.  The gate of the account-bound projection
starts empty: what the legacy projection rejected is not carried over, so the
first account-token call needs care.
-/

namespace AxeVoice.Sip

open AxeVoice.Foundation

/-- The producer's mailbox, the batch drained last and the projection. -/
structure ProjectionRun where
  mailbox : BaresipEventMailbox := {}
  held : Batch := {}
  projection : SipEventProjection := {}

inductive ProjectionStep where
  | beginSession
  | enqueue (event : BaresipNativeEvent)
  | invalidateSession
  | drain
  | observe (process : RuntimeProcess) (evidence : SipEvidence)
  | observeAccount (process : RuntimeProcess) (evidence : SipEvidence) (token : UInt64)

/-- A step of the mailbox, which leaves the projection alone. -/
def ProjectionStep.OfMailbox : ProjectionStep → Prop
  | .observe .. => False
  | .observeAccount .. => False
  | _ => True

/-- One atomic step; an `observe` call is given the batch drained last and shows its result. -/
def projectionStep (run : ProjectionRun) :
    ProjectionStep → Option SipRuntimeObservation × ProjectionRun
  | .beginSession => (none, { run with mailbox := run.mailbox.beginSession.2 })
  | .enqueue event => (none, { run with mailbox := (run.mailbox.enqueue event).2 })
  | .invalidateSession => (none, { run with mailbox := run.mailbox.invalidateSession })
  | .drain => (none, { run with held := run.mailbox.drain.1, mailbox := run.mailbox.drain.2 })
  | .observe process evidence =>
      let projection := run.projection.observe process evidence run.held
      (some projection.snapshot, { run with projection := projection })
  | .observeAccount process evidence token =>
      let projection := run.projection.observeAccount process evidence run.held token
      (some projection.snapshot, { run with projection := projection })

namespace ProjectionRun

/-- The mailbox will not deliver this generation again, except as an overflow. -/
def Spent (run : ProjectionRun) (generation : UInt64) : Prop :=
  generation ≠ 0 ∧ generation ≤ run.mailbox.generation ∧
    (run.held.session = generation → run.held.overflow = true) ∧
    (run.mailbox.session = generation → run.mailbox.overflow = true)

/-- What the mailbox guarantees about the batch drained last. -/
structure Ordered (run : ProjectionRun) : Prop where
  held_le : run.held.session ≤ run.mailbox.generation
  current_le : run.mailbox.session ≤ run.mailbox.generation
  lost : run.held.overflow = true → run.held.session ≠ 0 →
    run.mailbox.session = run.held.session → run.mailbox.overflow = true

/-- The gate of the sub-projection in use. -/
def gate (run : ProjectionRun) : Gate UInt64 :=
  if run.projection.identityMode then run.projection.accountGate else run.projection.legacy.gate

structure Sound (run : ProjectionRun) : Prop where
  ordered : run.Ordered
  legacy : run.projection.legacy.Consistent
  account : run.projection.AccountConsistent
  gate : run.gate.Sound run.held.session run.Spent
  unused : run.projection.identityMode = false →
    run.projection.accountGate = ⟨0, 0⟩

/-- No spent generation comes back when the mailbox advances under a held batch. -/
theorem Ordered.advance {run : ProjectionRun} {mailbox : BaresipEventMailbox}
    (ordered : run.Ordered) (advances : run.mailbox.Advances mailbox) :
    let next : ProjectionRun := { run with mailbox := mailbox }
    next.Ordered ∧ ∀ generation, run.Spent generation → next.Spent generation := by
  obtain ⟨held_le, current_le, lost⟩ := ordered
  obtain ⟨issued, current, bounded⟩ := advances
  refine ⟨⟨UInt64.le_trans held_le issued, bounded current_le, ?_⟩, ?_⟩
  · intro overflow nonzero same
    rcases current with ⟨kept, keeps⟩ | ended | begun
    · exact keeps (lost overflow nonzero (kept.symm.trans same))
    · exact absurd (same.symm.trans ended) nonzero
    · simp only at same
      grind
  · rintro generation ⟨nonzero, known, heldLost, currentLost⟩
    refine ⟨nonzero, UInt64.le_trans known issued, heldLost, fun same => ?_⟩
    rcases current with ⟨kept, keeps⟩ | ended | begun
    · exact keeps (currentLost (kept.symm.trans same))
    · exact absurd (same.symm.trans ended) nonzero
    · simp only at same
      grind

/-- A drain replaces the held batch; the generation it held is current or spent. -/
theorem Ordered.drained {run : ProjectionRun} (ordered : run.Ordered) :
    let next : ProjectionRun := { run with
      held := run.mailbox.drain.1, mailbox := run.mailbox.drain.2 }
    next.Ordered ∧ (∀ generation, run.Spent generation → next.Spent generation) ∧
      (run.held.session ≠ 0 →
        run.held.session = next.held.session ∨ next.Spent run.held.session) := by
  obtain ⟨held_le, current_le, lost⟩ := ordered
  refine ⟨⟨?_, current_le, ?_⟩, ?_, ?_⟩
  · simpa using current_le
  · intro heldLost _ _
    simpa using heldLost
  · rintro generation ⟨nonzero, known, _, currentLost⟩
    exact ⟨nonzero, known, by simpa using currentLost, by simpa using currentLost⟩
  · intro nonzero
    by_cases same : run.held.session = run.mailbox.session
    · exact .inl (by simpa using same)
    · refine .inr ⟨nonzero, held_le, ?_, ?_⟩
      · intro now
        exact absurd (by simpa using now.symm) same
      · intro now
        exact absurd now.symm same

/-- What the mailbox does between two calls. -/
theorem mailbox_step {run : ProjectionRun} {step : ProjectionStep} (ordered : run.Ordered)
    (ofMailbox : step.OfMailbox) :
    (projectionStep run step).2.projection = run.projection ∧
      (projectionStep run step).2.Ordered ∧
      (∀ generation, run.Spent generation → (projectionStep run step).2.Spent generation) ∧
      (run.held.session ≠ 0 → run.held.session = (projectionStep run step).2.held.session ∨
        (projectionStep run step).2.Spent run.held.session) := by
  cases step with
  | beginSession =>
      have advanced := ordered.advance run.mailbox.beginSession_advances
      exact ⟨rfl, advanced.1, advanced.2, fun _ => .inl rfl⟩
  | enqueue event =>
      have advanced := ordered.advance (run.mailbox.enqueue_advances event)
      exact ⟨rfl, advanced.1, advanced.2, fun _ => .inl rfl⟩
  | invalidateSession =>
      have advanced := ordered.advance run.mailbox.invalidateSession_advances
      exact ⟨rfl, advanced.1, advanced.2, fun _ => .inl rfl⟩
  | drain => exact ⟨rfl, ordered.drained⟩
  | observe process evidence => cases ofMailbox
  | observeAccount process evidence token => cases ofMailbox

/-- The generation will not be trusted again. -/
def Closed (run : ProjectionRun) (generation : UInt64) : Prop :=
  run.gate.Closed run.Spent generation

/--
The one step that needs care is the first call with an account token.  It must not
come while the legacy projection holds the batch's session as rejected, and when
the legacy projection trusts that session the call must not itself withdraw the
proof.  An overflowed batch is harmless: its session is spent.
-/
def KeepsRevocation (run : ProjectionRun) : ProjectionStep → Prop
  | .observeAccount process evidence token =>
      run.projection.identityMode = false → run.held.session ≠ 0 → run.held.overflow = false →
        run.projection.legacy.rejectedSession ≠ run.held.session ∧
          (run.projection.legacy.state.session = run.held.session →
            process = .running ∧ evidence = .verifiedNativeApi ∧ token ≠ 0)
  | _ => True

theorem spent_unusable {run : ProjectionRun} (spent : run.Spent run.held.session) :
    ¬ run.held.overflow = false := by
  rw [spent.2.2.1 rfl]
  decide

/-- The held generation is spent once its batch overflowed. -/
theorem Ordered.spent_of_lost {run : ProjectionRun} (ordered : run.Ordered)
    (nonzero : run.held.session ≠ 0) (lost : run.held.overflow = true) :
    run.Spent run.held.session :=
  ⟨nonzero, ordered.held_le, fun _ => lost, fun same => ordered.lost lost nonzero same⟩

theorem Ordered.withProjection {run : ProjectionRun} (ordered : run.Ordered)
    (projection : SipEventProjection) : ({ run with projection := projection }).Ordered :=
  ⟨ordered.held_le, ordered.current_le, ordered.lost⟩

/-- What a call does to the proof: the run stays sound, closed generations stay closed and
untrusted, and a trusted generation that is dropped is closed. -/
structure CallEffect (run next : ProjectionRun) : Prop where
  sound : next.Sound
  closed : ∀ generation, generation ≠ 0 → run.Closed generation →
    next.Closed generation ∧ next.gate.trusted ≠ generation
  dropped : ∀ generation, generation ≠ 0 → run.gate.trusted = generation →
    next.gate.trusted ≠ generation → next.Closed generation

/-- A call answered by the projection that was already in use. -/
theorem callEffect_of_call {run : ProjectionRun} {projection : SipEventProjection}
    (sound : run.Sound) (legacy : projection.legacy.Consistent)
    (account : projection.AccountConsistent)
    (unused : projection.identityMode = false → projection.accountGate = ⟨0, 0⟩)
    (call : Gate.Call run.held.session (run.held.overflow = false) run.gate
      { run with projection := projection }.gate) :
    CallEffect run { run with projection := projection } where
  sound := ⟨sound.ordered.withProjection projection, legacy, account, call.sound sound.gate, unused⟩
  closed _ nonzero closed :=
    ⟨call.closed sound.gate nonzero closed, call.not_trusted nonzero spent_unusable closed⟩
  dropped _ nonzero trusted dropped := call.closed_of_dropped sound.gate nonzero trusted dropped

/-- The first account-token call, answered by a gate that knows nothing yet. -/
theorem callEffect_of_switch {run : ProjectionRun} {projection : SipEventProjection}
    (sound : run.Sound) (legacy : projection.legacy.Consistent)
    (account : projection.AccountConsistent) (mode : projection.identityMode = true)
    (call : Gate.Call run.held.session (run.held.overflow = false) ⟨0, 0⟩
      { run with projection := projection }.gate)
    (unrejected : run.held.session ≠ 0 → run.held.overflow = false →
      run.gate.rejected ≠ run.held.session)
    (answered : run.held.session ≠ 0 → run.held.overflow = false →
      run.gate.trusted = run.held.session →
        { run with projection := projection }.gate.trusted = run.held.session ∨
          { run with projection := projection }.gate.rejected = run.held.session) :
    CallEffect run { run with projection := projection } := by
  have heldSpent : run.held.session ≠ 0 → run.held.overflow ≠ false →
      run.Spent run.held.session :=
    fun nonzero lost => sound.ordered.spent_of_lost nonzero (by simpa using lost)
  refine ⟨⟨sound.ordered.withProjection projection, legacy, account, call.sound Gate.sound_fresh, ?_⟩, ?_, ?_⟩
  · intro legacyMode
    rw [mode] at legacyMode
    cases legacyMode
  · intro generation nonzero closed
    have gone : run.Spent generation := by
      rcases closed with rejected | gone
      · subst rejected
        rcases sound.gate.rejected nonzero with same | gone
        · rw [same] at nonzero ⊢
          by_cases intact : run.held.overflow = false
          · exact absurd same (unrejected nonzero intact)
          · exact heldSpent nonzero intact
        · exact gone
      · exact gone
    exact ⟨.inr gone, call.not_trusted nonzero spent_unusable (.inr gone)⟩
  · intro generation nonzero trusted dropped
    subst trusted
    rcases sound.gate.trusted nonzero with same | gone
    · rw [same] at nonzero dropped ⊢
      by_cases intact : run.held.overflow = false
      · rcases answered nonzero intact same with kept | remembered
        · exact absurd kept dropped
        · exact .inl remembered
      · exact .inr (heldSpent nonzero intact)
    · exact .inr gone

/-- Every call that keeps the revocations has that effect. -/
theorem call_effect {run : ProjectionRun} {step : ProjectionStep} (sound : run.Sound)
    (ofCall : ¬ step.OfMailbox) (keeps : run.KeepsRevocation step) :
    CallEffect run (projectionStep run step).2 := by
  have legacy := sound.legacy
  have account := sound.account
  have unused := sound.unused
  cases step with
  | observe process evidence =>
      cases mode : run.projection.identityMode with
      | false =>
          obtain ⟨consistent, call⟩ :=
            LegacySipEventProjection.observe_call legacy process evidence run.held
          simp only [projectionStep, SipEventProjection.observe, mode]
          refine callEffect_of_call sound consistent account (fun _ => unused mode) ?_
          simpa [gate, mode] using call
      | true =>
          obtain ⟨consistent, call⟩ := SipEventProjection.observeAccount_call account process
            evidence run.held run.projection.bound.expectedAccountToken
          simp only [projectionStep, SipEventProjection.observe, mode, if_true]
          refine callEffect_of_call sound (by simpa using legacy) consistent (by simp) ?_
          simpa [gate, mode] using call
  | observeAccount process evidence token =>
      obtain ⟨consistent, call⟩ :=
        SipEventProjection.observeAccount_call account process evidence run.held token
      simp only [projectionStep]
      cases mode : run.projection.identityMode with
      | false =>
          have old : run.gate = run.projection.legacy.gate := by simp [gate, mode]
          have fresh : run.projection.rejectedSession = 0 := congrArg Gate.rejected (unused mode)
          refine callEffect_of_switch sound (by simpa using legacy) consistent (by simp) ?_ ?_ ?_
          · simpa [gate, unused mode] using call
          · intro nonzero intact
            rw [old]
            exact (keeps mode nonzero intact).1
          · intro nonzero intact trusted
            rw [old] at trusted
            obtain ⟨rfl, rfl, token⟩ := (keeps mode nonzero intact).2 trusted
            simpa [gate, SipEventProjection.accountGate] using
              SipEventProjection.observeAccount_fresh fresh nonzero token
      | true =>
          refine callEffect_of_call sound (by simpa using legacy) consistent (by simp) ?_
          simpa [gate, mode] using call
  | _ => exact absurd trivial ofCall

theorem sound_initial : Sound {} where
  ordered := ⟨by decide, by decide, by decide⟩
  legacy := by simp [LegacySipEventProjection.Consistent]
  account := by simp [SipEventProjection.AccountConsistent]
  gate := Gate.sound_fresh
  unused _ := rfl

/-- What a mailbox step does to the proof: nothing, and no closed generation opens. -/
theorem mailbox_effect {run : ProjectionRun} {step : ProjectionStep} (sound : run.Sound)
    (ofMailbox : step.OfMailbox) :
    (projectionStep run step).2.Sound ∧
      (∀ generation, run.Closed generation → (projectionStep run step).2.Closed generation) ∧
      (projectionStep run step).2.gate = run.gate := by
  obtain ⟨projection, ordered, spent, present⟩ := mailbox_step sound.ordered ofMailbox
  have sameGate : (projectionStep run step).2.gate = run.gate := by
    unfold gate
    rw [projection]
  refine ⟨⟨ordered, ?_, ?_, ?_, ?_⟩, ?_, sameGate⟩
  · rw [projection]
    exact sound.legacy
  · rw [projection]
    exact sound.account
  · rw [sameGate]
    exact sound.gate.move spent present
  · rw [projection]
    exact sound.unused
  · intro generation closed
    unfold Closed
    rw [sameGate]
    exact Gate.Closed.move closed (spent generation)

/-- The observation shown carries verified evidence exactly for the trusted generation. -/
theorem Sound.verifiedFor_iff {run : ProjectionRun} (sound : run.Sound) (generation : UInt64) :
    run.projection.snapshot.VerifiedFor generation ↔
      generation ≠ 0 ∧ run.gate.trusted = generation := by
  have legacy := sound.legacy
  have account := sound.account
  unfold LegacySipEventProjection.Consistent at legacy
  unfold SipEventProjection.AccountConsistent at account
  cases mode : run.projection.identityMode with
  | false =>
      simp only [SipRuntimeObservation.VerifiedFor, SipEventProjection.snapshot, mode,
        ProjectionRun.gate, LegacySipEventProjection.snapshot, LegacySipEventProjection.gate]
      grind
  | true =>
      simp only [SipRuntimeObservation.VerifiedFor, SipEventProjection.snapshot, mode,
        ProjectionRun.gate, SipEventProjection.accountGate]
      grind

end ProjectionRun

theorem ProjectionRun.Sound.step {run : ProjectionRun} {step : ProjectionStep}
    (sound : run.Sound) (keeps : run.KeepsRevocation step) : (projectionStep run step).2.Sound := by
  by_cases ofMailbox : step.OfMailbox
  · exact (mailbox_effect sound ofMailbox).1
  · exact (call_effect sound ofMailbox keeps).sound

/-! ## Histories -/

abbrev ProjectionStage := Stage ProjectionRun ProjectionStep (Option SipRuntimeObservation)

/-- An `observe` call showed verified evidence for this session. -/
def ProjectionStage.Shows (session : UInt64) (stage : ProjectionStage) : Prop :=
  ∃ observation, stage.output = some observation ∧ observation.VerifiedFor session

/-- An `observe` call showed no verified evidence for this session. -/
def ProjectionStage.Drops (session : UInt64) (stage : ProjectionStage) : Prop :=
  ∃ observation, stage.output = some observation ∧ ¬ observation.VerifiedFor session

/-- After an `observe` call the projection in use remembers this session as rejected, as it
does whenever the call refused the batch for an overflow or an invalid event. -/
def ProjectionStage.Rejects (session : UInt64) (stage : ProjectionStage) : Prop :=
  session ≠ 0 ∧ stage.output ≠ none ∧ stage.after.gate.rejected = session

/-- The session was shown as verified and dropped later, or an `observe` call rejected it. -/
def RevokedIn (session : UInt64) (history : List ProjectionStage) : Prop :=
  (∃ stage ∈ history, stage.Rejects session) ∨
    ∃ before later after, history = before ++ later :: after ∧ later.Drops session ∧
      ∃ earlier ∈ before, earlier.Shows session

/-- No observation made after a revocation carries verified evidence for the session. -/
def NeverTrustedAgain (session : UInt64) (history : List ProjectionStage) : Prop :=
  ∀ before stage after, history = before ++ stage :: after →
    RevokedIn session before → ¬ stage.Shows session

theorem revokedIn_concat {session : UInt64} {history : List ProjectionStage}
    {last : ProjectionStage} (revoked : RevokedIn session (history ++ [last])) :
    RevokedIn session history ∨ last.Rejects session ∨
      (last.Drops session ∧ ∃ earlier ∈ history, earlier.Shows session) := by
  rcases revoked with ⟨stage, member, rejects⟩ | ⟨before, later, after, split, drops, shown⟩
  · rcases List.mem_append.mp member with earlier | same
    · exact .inl (.inl ⟨stage, earlier, rejects⟩)
    · exact .inr (.inl (List.mem_singleton.mp same ▸ rejects))
  · rcases split_concat split with ⟨rfl, rfl⟩ | ⟨rest, eq⟩
    · exact .inr (.inr ⟨drops, shown⟩)
    · exact .inl (.inr ⟨before, later, rest, eq, drops, shown⟩)

/-- What a history has shown so far of one session, against the state it ends in. -/
structure SessionHistory (session : UInt64) (history : List ProjectionStage)
    (run : ProjectionRun) : Prop where
  sound : run.Sound
  shown : (∃ stage ∈ history, stage.Shows session) →
    run.gate.trusted = session ∨ run.Closed session
  revoked : RevokedIn session history → run.Closed session
  never : NeverTrustedAgain session history

/-- A silent last stage adds nothing to what a history has shown. -/
theorem sessionHistory_silent {session : UInt64} {history : List ProjectionStage}
    {run : ProjectionRun} (last : ProjectionStage) (known : SessionHistory session history run)
    (silent : last.output = none) (sound : last.after.Sound)
    (closed : run.Closed session → last.after.Closed session)
    (gate : last.after.gate = run.gate) :
    SessionHistory session (history ++ [last]) last.after := by
  have notShown : ¬ last.Shows session := by
    rintro ⟨observation, output, _⟩
    rw [silent] at output
    cases output
  refine ⟨sound, ?_, ?_, ?_⟩
  · rintro ⟨stage, member, shows⟩
    rcases List.mem_append.mp member with earlier | same
    · rw [gate]
      exact (known.shown ⟨stage, earlier, shows⟩).imp id closed
    · rw [List.mem_singleton.mp same] at shows
      exact absurd shows notShown
  · intro revoked
    rcases revokedIn_concat revoked with before | rejects | ⟨⟨observation, output, _⟩, _⟩
    · exact closed (known.revoked before)
    · exact absurd silent rejects.2.1
    · rw [silent] at output
      cases output
  · intro before stage after split revoked
    rcases split_concat split with ⟨rfl, rfl⟩ | ⟨rest, eq⟩
    · exact notShown
    · exact known.never before stage rest eq revoked

/-- A call that keeps the revocations extends what a history has shown. -/
theorem sessionHistory_call {session : UInt64} (nonzero : session ≠ 0)
    {history : List ProjectionStage} {run : ProjectionRun} (last : ProjectionStage)
    (known : SessionHistory session history run)
    (effect : ProjectionRun.CallEffect run last.after)
    (output : last.output = some last.after.projection.snapshot) :
    SessionHistory session (history ++ [last]) last.after := by
  obtain ⟨sound, closed, dropped⟩ := effect
  have shows_iff : last.Shows session ↔ last.after.gate.trusted = session := by
    simp [ProjectionStage.Shows, output, sound.verifiedFor_iff, nonzero]
  have drops_iff : last.Drops session ↔ last.after.gate.trusted ≠ session := by
    simp [ProjectionStage.Drops, output, sound.verifiedFor_iff, nonzero]
  have carried : run.gate.trusted = session ∨ run.Closed session →
      last.after.gate.trusted = session ∨ last.after.Closed session := by
    rintro (trusted | gone)
    · by_cases still : last.after.gate.trusted = session
      · exact .inl still
      · exact .inr (dropped session nonzero trusted still)
    · exact .inr (closed session nonzero gone).1
  refine ⟨sound, ?_, ?_, ?_⟩
  · rintro ⟨stage, member, shows⟩
    rcases List.mem_append.mp member with earlier | same
    · exact carried (known.shown ⟨stage, earlier, shows⟩)
    · rw [List.mem_singleton.mp same] at shows
      exact .inl (shows_iff.mp shows)
  · intro revoked
    rcases revokedIn_concat revoked with before | rejects | ⟨drops, shown⟩
    · exact (closed session nonzero (known.revoked before)).1
    · exact .inl rejects.2.2
    · exact (carried (known.shown shown)).resolve_left (drops_iff.mp drops)
  · intro before stage after split revoked
    rcases split_concat split with ⟨rfl, rfl⟩ | ⟨rest, eq⟩
    · rw [shows_iff]
      exact (closed session nonzero (known.revoked revoked)).2
    · exact known.never before stage rest eq revoked

/-- No observation carries verified evidence without a session. -/
theorem zero_never_shown {run : ProjectionRun} {step : ProjectionStep}
    (sound : (projectionStep run step).2.Sound) :
    ¬ ProjectionStage.Shows 0 (stageOf projectionStep run step) := by
  rintro ⟨observation, output, verified⟩
  cases step with
  | observe process evidence =>
      cases output
      exact ((sound.verifiedFor_iff 0).mp verified).1 rfl
  | observeAccount process evidence token =>
      cases output
      exact ((sound.verifiedFor_iff 0).mp verified).1 rfl
  | _ => cases output

theorem sessionHistory_step {session : UInt64} (nonzero : session ≠ 0)
    (history : List ProjectionStage) (run : ProjectionRun) (step : ProjectionStep)
    (known : SessionHistory session history run) (keeps : run.KeepsRevocation step) :
    SessionHistory session (history ++ [stageOf projectionStep run step])
      (projectionStep run step).2 := by
  by_cases ofMailbox : step.OfMailbox
  · obtain ⟨sound, closed, gate⟩ := ProjectionRun.mailbox_effect known.sound ofMailbox
    have silent : (projectionStep run step).1 = none := by
      cases step <;> first | rfl | cases ofMailbox
    exact sessionHistory_silent (stageOf projectionStep run step) known silent sound
      (closed session) gate
  · have effect := ProjectionRun.call_effect known.sound ofMailbox keeps
    have output : (projectionStep run step).1 =
        some (projectionStep run step).2.projection.snapshot := by
      cases step <;> first | rfl | exact absurd trivial ofMailbox
    exact sessionHistory_call nonzero (stageOf projectionStep run step) known effect output

/--
Revocation is final in every run whose first account-token call keeps it: once a
session was shown as verified and dropped, or rejected by a call, no later
observation carries verified evidence for it.
-/
theorem revoked_session_never_trusted_again {steps : List ProjectionStep}
    (keeps : ∀ stage ∈ stages projectionStep {} steps, stage.before.KeepsRevocation stage.input)
    (session : UInt64) : NeverTrustedAgain session (stages projectionStep {} steps) := by
  by_cases nonzero : session = 0
  · subst nonzero
    have none_shows := stages_forall_of_admitted ProjectionRun.Sound
      (fun stage : ProjectionStage => stage.before.KeepsRevocation stage.input)
      (fun stage : ProjectionStage => ¬ stage.Shows 0) (fun _ _ sound allowed => sound.step allowed)
      (fun run step sound allowed => zero_never_shown (sound.step allowed))
      ProjectionRun.sound_initial keeps
    intro before stage after split _
    exact none_shows stage (split ▸ List.mem_append_right _ List.mem_cons_self)
  · have initial : SessionHistory session [] {} :=
      ⟨ProjectionRun.sound_initial, by simp, by simp [RevokedIn],
        fun before stage after split => by simp at split⟩
    have final := history_invariant (SessionHistory session) (fun stage : ProjectionStage =>
        stage.before.KeepsRevocation stage.input) (sessionHistory_step nonzero) [] initial keeps
    exact final.never

instance (run : ProjectionRun) (step : ProjectionStep) : Decidable (run.KeepsRevocation step) :=
  match step with
  | .observeAccount .. => inferInstanceAs (Decidable (_ → _))
  | .beginSession | .enqueue _ | .invalidateSession | .drain | .observe .. => isTrue trivial

theorem revoked_session_never_trusted_again_account :
    NeverTrustedAgain 1 (stages projectionStep {}
      [.beginSession, .drain, .observeAccount .running .verifiedNativeApi 7,
        .observe .stopped .none, .observeAccount .running .verifiedNativeApi 7]) :=
  revoked_session_never_trusted_again (by decide) 1

/-- A run in which the first account-token call comes after the legacy projection
dropped its session. -/
def forgottenRejection : List ProjectionStep :=
  [.beginSession, .drain, .observe .running .verifiedNativeApi, .observe .stopped .none,
    .observeAccount .running .verifiedNativeApi 7]

/-- The account-bound projection trusts session 1 again after the legacy one dropped it. -/
theorem forgottenRejection_trusted_again :
    ¬ NeverTrustedAgain 1 (stages projectionStep {} forgottenRejection) := by
  intro never
  let shown := finalState projectionStep {} (forgottenRejection.take 2)
  let dropped := finalState projectionStep {} (forgottenRejection.take 3)
  let switched := finalState projectionStep {} (forgottenRejection.take 4)
  refine never (stages projectionStep {} (forgottenRejection.take 4))
    (stageOf projectionStep switched (.observeAccount .running .verifiedNativeApi 7)) [] rfl
    (.inr ⟨stages projectionStep {} (forgottenRejection.take 3),
      stageOf projectionStep dropped (.observe .stopped .none), [], rfl, ⟨_, rfl, by decide⟩,
      stageOf projectionStep shown (.observe .running .verifiedNativeApi),
      .tail _ (.tail _ (.head _)), ⟨_, rfl, by decide⟩⟩)
    ⟨_, rfl, by decide⟩

/-- An account-bound projection that knows nothing opens the session of an empty batch. -/
theorem SipEventProjection.observeAccount_opens {projection : SipEventProjection} (batch : Batch)
    {token : UInt64}
    (untrusted : projection.bound.observation.session = 0) (unused : projection.rejectedSession = 0)
    (nonzero : batch.session ≠ 0) (intact : batch.overflow = false)
    (fits : batch.size ≤ kCapacity) (empty : batch.delivered = []) (account : token ≠ 0) :
    (projection.observeAccount .running .verifiedNativeApi batch token).snapshot.VerifiedFor
      batch.session := by
  have fresh : SipEventProjection.boundFor { projection with identityMode := true } .running
      .verifiedNativeApi batch.session token =
        { observation := .opened .running .verifiedNativeApi batch.session
          expectedAccountToken := token } := by
    unfold SipEventProjection.boundFor
    rw [if_pos (.inl (by rw [untrusted]; exact nonzero.symm))]
  unfold SipEventProjection.observeAccount
  dsimp only
  rw [if_neg (by simpa using nonzero), if_neg (by rw [unused]; exact nonzero),
    if_neg (by simpa [intact] using fits), if_neg (by simpa using account), fresh,
    if_neg (not_not_intro rfl), empty]
  exact ⟨rfl, rfl⟩

/--
The condition on the first account-token call is tight: if the mailbox is still in
the session and the call does not itself reject it, the proof is shown at once, or
two drains and one further call bring it back.
-/
theorem switch_forgets_rejection {run : ProjectionRun} {process : RuntimeProcess}
    {evidence : SipEvidence} {token : UInt64} (sound : run.Sound)
    (legacyMode : run.projection.identityMode = false) (nonzero : run.held.session ≠ 0)
    (current : run.mailbox.session = run.held.session) (intact : run.mailbox.overflow = false)
    (unrecorded : (run.projection.observeAccount process evidence run.held token).rejectedSession ≠
      run.held.session) :
    let switch : ProjectionStep := .observeAccount process evidence token
    let again : ProjectionStep := .observeAccount .running .verifiedNativeApi 1
    (stageOf projectionStep run switch : ProjectionStage).output = some
        (finalState projectionStep run [switch]).projection.snapshot ∧
      ((finalState projectionStep run [switch]).projection.snapshot.VerifiedFor run.held.session ∨
        (finalState projectionStep run [switch, .drain, .drain, again]).projection.snapshot.VerifiedFor
          run.held.session) := by
  refine ⟨rfl, ?_⟩
  obtain ⟨consistent, call⟩ :=
    SipEventProjection.observeAccount_call sound.account process evidence run.held token
  rw [sound.unused legacyMode] at call
  generalize after : run.projection.observeAccount process evidence run.held token = switched
    at consistent call unrecorded
  have mode : switched.identityMode = true := by simp [← after]
  have opens : switched.accountGate = ⟨0, 0⟩ → (switched.observeAccount .running .verifiedNativeApi
      run.mailbox.drain.2.drain.1 1).snapshot.VerifiedFor run.held.session := by
    intro empty
    have drained : run.mailbox.drain.2.overflow = false := intact
    have session : run.mailbox.drain.2.drain.1.session = run.held.session := by simp [current]
    have opened := SipEventProjection.observeAccount_opens run.mailbox.drain.2.drain.1
      (congrArg Gate.trusted empty) (congrArg Gate.rejected empty) (by rw [session]; exact nonzero)
      (by simpa using intact) (BaresipEventMailbox.drain_size_le _)
      (BaresipEventMailbox.drain_delivered drained) (by decide : (1 : UInt64) ≠ 0)
    rwa [session] at opened
  have verified : switched.accountGate.trusted = run.held.session →
      switched.snapshot.VerifiedFor run.held.session := by
    intro trusted
    simp only [SipEventProjection.snapshot, mode, if_true]
    exact ⟨consistent.mpr (by rw [show switched.bound.observation.session = _ from trusted]; exact nonzero),
      trusted⟩
  simp only [finalState_cons, finalState_nil, projectionStep, after]
  generalize gate : switched.accountGate = next at call
  cases call with
  | idle untrusted => exact .inr (opens gate)
  | stopped trusted => exact absurd rfl trusted
  | remembered same _ => exact absurd same nonzero
  | turnedAway _ => exact absurd (congrArg Gate.rejected gate) unrecorded
  | accepted _ fresh good => exact .inl (verified (congrArg Gate.trusted gate))

end AxeVoice.Sip
