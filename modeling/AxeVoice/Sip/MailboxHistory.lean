import AxeVoice.Foundation.EventSource
import AxeVoice.Sip.Mailbox

/-!
# What the mailbox delivers

Runs of the four mailbox operations.  For each session the history of a run tells
which events were accepted and which were delivered by an intact batch.  While a
session is current and has not overflowed, what was delivered and what is still
queued are together exactly what was accepted.
-/

namespace AxeVoice.Sip

open AxeVoice.Foundation

inductive MailboxCall where
  | beginSession
  | invalidateSession
  | enqueue (event : BaresipNativeEvent)
  | drain

inductive MailboxAnswer where
  | began (session : UInt64)
  | invalidated
  | enqueued (accepted : Bool)
  | drained (batch : Batch)

def mailboxStep (mailbox : BaresipEventMailbox) :
    MailboxCall → MailboxAnswer × BaresipEventMailbox
  | .beginSession => (.began mailbox.beginSession.1, mailbox.beginSession.2)
  | .invalidateSession => (.invalidated, mailbox.invalidateSession)
  | .enqueue event => (.enqueued (mailbox.enqueue event).1, (mailbox.enqueue event).2)
  | .drain => (.drained mailbox.drain.1, mailbox.drain.2)

abbrev MailboxStage := Stage BaresipEventMailbox MailboxCall MailboxAnswer

namespace MailboxStage

/-- The event that this stage accepted for the session. -/
def accepted (session : UInt64) (stage : MailboxStage) : List BaresipNativeEvent :=
  match stage.input, stage.output with
  | .enqueue event, .enqueued true => if event.session = session then [event] else []
  | _, _ => []

/-- The events that this stage delivered in an intact batch of the session. -/
def delivered (session : UInt64) (stage : MailboxStage) : List BaresipNativeEvent :=
  match stage.output with
  | .drained batch =>
      if batch.session = session ∧ batch.overflow = false then batch.delivered else []
  | _ => []

/-- The ring of the session was full for this event. -/
def Overflows (session : UInt64) (stage : MailboxStage) : Prop :=
  ∃ event, stage.input = .enqueue event ∧ stage.before.session = session ∧
    stage.before.overflow = false ∧ stage.after.overflow = true

/-- Nothing of the session passes through this stage. -/
def Silent (session : UInt64) (stage : MailboxStage) : Prop :=
  (∀ event, stage.input = .enqueue event → event.session = session →
    stage.output = .enqueued false) ∧
  ∀ batch, stage.output = .drained batch → ∀ event ∈ batch.delivered, event.session ≠ session

end MailboxStage

def acceptedFor (session : UInt64) (history : List MailboxStage) : List BaresipNativeEvent :=
  history.flatMap (MailboxStage.accepted session)

def deliveredFor (session : UInt64) (history : List MailboxStage) : List BaresipNativeEvent :=
  history.flatMap (MailboxStage.delivered session)

def OverflowedIn (session : UInt64) (history : List MailboxStage) : Prop :=
  ∃ stage ∈ history, stage.Overflows session

/-- The session was begun, and neither overflowed nor ended since. -/
def OpenIn (session : UInt64) (history : List MailboxStage) : Prop :=
  session ≠ 0 ∧ ∃ earlier begun during, history = earlier ++ begun :: during ∧
    begun.output = .began session ∧
    ∀ stage ∈ during, stage.input ≠ .beginSession ∧ stage.input ≠ .invalidateSession ∧
      ¬ stage.Overflows session

/-- How many calls of `begin_session` the history holds. -/
def beginsIn (history : List MailboxStage) : Nat :=
  history.countP fun stage => match stage.input with
    | .beginSession => true
    | _ => false

theorem acceptedFor_append (session : UInt64) (first second : List MailboxStage) :
    acceptedFor session (first ++ second) =
      acceptedFor session first ++ acceptedFor session second :=
  List.flatMap_append

theorem deliveredFor_append (session : UInt64) (first second : List MailboxStage) :
    deliveredFor session (first ++ second) =
      deliveredFor session first ++ deliveredFor session second :=
  List.flatMap_append

theorem acceptedFor_concat (session : UInt64) (history : List MailboxStage)
    (stage : MailboxStage) :
    acceptedFor session (history ++ [stage]) =
      acceptedFor session history ++ stage.accepted session := by
  simp [acceptedFor]

theorem deliveredFor_concat (session : UInt64) (history : List MailboxStage)
    (stage : MailboxStage) :
    deliveredFor session (history ++ [stage]) =
      deliveredFor session history ++ stage.delivered session := by
  simp [deliveredFor]

theorem overflowedIn_concat {session : UInt64} {history : List MailboxStage}
    {stage : MailboxStage} :
    OverflowedIn session (history ++ [stage]) ↔
      OverflowedIn session history ∨ stage.Overflows session := by
  constructor
  · rintro ⟨found, member, overflows⟩
    rcases List.mem_append.mp member with earlier | last
    · exact .inl ⟨found, earlier, overflows⟩
    · exact .inr (List.mem_singleton.mp last ▸ overflows)
  · rintro (⟨found, member, overflows⟩ | overflows)
    · exact ⟨found, List.mem_append_left _ member, overflows⟩
    · exact ⟨stage, List.mem_append_right _ List.mem_cons_self, overflows⟩

namespace BaresipEventMailbox

/-- What holds of the mailbox between two operations. -/
structure Sound (mailbox : BaresipEventMailbox) : Prop where
  current_le : mailbox.session ≤ mailbox.generation
  own : ∀ event ∈ mailbox.queued, event.session = mailbox.session
  idle : mailbox.session = 0 → mailbox.queued = []
  lost : mailbox.overflow = true → mailbox.queued = []

theorem sound_initial : Sound {} :=
  ⟨by decide, by simp [queued], fun _ => queued_eq_nil rfl, by simp⟩

/-- Everything that one operation does, as far as the sessions and the queue go. -/
inductive Moved (before : BaresipEventMailbox) :
    MailboxCall → MailboxAnswer → BaresipEventMailbox → Prop where
  | began (after : BaresipEventMailbox) (room : before.generation ≠ uint64Max)
      (generation : after.generation = before.generation + 1)
      (session : after.session = before.generation + 1) (intact : after.overflow = false)
      (emptied : after.queued = []) :
      Moved before .beginSession (.began (before.generation + 1)) after
  | exhausted (after : BaresipEventMailbox) (full : before.generation = uint64Max)
      (generation : after.generation = before.generation) (session : after.session = 0)
      (emptied : after.queued = []) :
      Moved before .beginSession (.began 0) after
  | invalidated (after : BaresipEventMailbox) (generation : after.generation = before.generation)
      (session : after.session = 0) (emptied : after.queued = []) :
      Moved before .invalidateSession .invalidated after
  | refused (event : BaresipNativeEvent) : Moved before (.enqueue event) (.enqueued false) before
  | overflowed (event : BaresipNativeEvent) (after : BaresipEventMailbox)
      (live : before.session ≠ 0) (same : event.session = before.session)
      (generation : after.generation = before.generation)
      (session : after.session = before.session) (lost : after.overflow = true)
      (emptied : after.queued = []) :
      Moved before (.enqueue event) (.enqueued false) after
  | accepted (event : BaresipNativeEvent) (after : BaresipEventMailbox)
      (live : before.session ≠ 0) (same : event.session = before.session)
      (was : before.overflow = false) (generation : after.generation = before.generation)
      (session : after.session = before.session) (intact : after.overflow = false)
      (grown : after.queued = before.queued ++ [event]) :
      Moved before (.enqueue event) (.enqueued true) after
  | drained (batch : Batch) (after : BaresipEventMailbox)
      (batchSession : batch.session = before.session)
      (batchOverflow : batch.overflow = before.overflow)
      (handed : before.overflow = false → batch.delivered = before.queued)
      (withheld : before.overflow = true → batch.delivered = [])
      (generation : after.generation = before.generation)
      (session : after.session = before.session) (overflow : after.overflow = before.overflow)
      (emptied : after.queued = []) :
      Moved before .drain (.drained batch) after

/-- A drain after an overflow delivers nothing. -/
theorem drain_withheld {mailbox : BaresipEventMailbox} (lost : mailbox.overflow = true) :
    mailbox.drain.1.delivered = [] := by
  simp [drain, lost, Batch.delivered]

theorem mailboxStep_moved (mailbox : BaresipEventMailbox) (call : MailboxCall) :
    mailbox.Moved call (mailboxStep mailbox call).1 (mailboxStep mailbox call).2 := by
  cases call with
  | beginSession =>
      simp only [mailboxStep, beginSession]
      split
      · next full => exact .exhausted _ full rfl rfl (queued_eq_nil rfl)
      · next room => exact .began _ room rfl rfl rfl (queued_eq_nil rfl)
  | invalidateSession => exact .invalidated _ rfl rfl (queued_eq_nil rfl)
  | enqueue event =>
      simp only [mailboxStep]
      rcases mailbox.enqueue_cases event with
        unchanged | ⟨live, same, answer, lost, session, generation, emptied⟩ |
          ⟨live, same, was, answer, intact, session, generation, grown⟩
      · rw [unchanged]
        exact .refused event
      · rw [answer]
        exact .overflowed event _ live same generation session lost emptied
      · rw [answer]
        exact .accepted event _ live same was generation session intact grown
  | drain =>
      exact .drained _ _ mailbox.drain_session mailbox.drain_overflow drain_delivered
        drain_withheld rfl rfl rfl mailbox.drain_queued

variable {before after : BaresipEventMailbox} {call : MailboxCall} {answer : MailboxAnswer}

theorem Moved.sound (moved : before.Moved call answer after) (sound : before.Sound) :
    after.Sound := by
  obtain ⟨current_le, own, idle, lost⟩ := sound
  have empty : after.queued = [] → after.session ≤ after.generation → after.Sound :=
    fun emptied bound => ⟨bound, by simp [emptied], fun _ => emptied, fun _ => emptied⟩
  cases moved with
  | began _ room generation session intact emptied =>
      apply empty emptied
      rw [session, generation]
      exact UInt64.le_refl _
  | exhausted _ full generation session emptied =>
      apply empty emptied
      rw [session]
      exact UInt64.zero_le
  | invalidated _ generation session emptied =>
      apply empty emptied
      rw [session]
      exact UInt64.zero_le
  | refused event => exact ⟨current_le, own, idle, lost⟩
  | overflowed event _ live same generation session lost emptied =>
      apply empty emptied
      rw [session, generation]
      exact current_le
  | accepted event _ live same was generation session intact grown =>
      refine ⟨by rw [session, generation]; exact current_le, ?_, ?_, ?_⟩
      · intro queued member
        rw [grown] at member
        rcases List.mem_append.mp member with older | newest
        · rw [session]
          exact own queued older
        · rw [List.mem_singleton.mp newest, session]
          exact same
      · intro ended
        exact absurd (session.symm.trans ended) live
      · intro overflow
        rw [intact] at overflow
        cases overflow
  | drained batch _ _ _ _ _ generation session overflow emptied =>
      apply empty emptied
      rw [session, generation]
      exact current_le

end BaresipEventMailbox

open BaresipEventMailbox

/-- What the history tells of the session, against the mailbox in which it ends. -/
structure SessionLogged (session : UInt64) (history : List MailboxStage)
    (mailbox : BaresipEventMailbox) : Prop where
  sound : mailbox.Sound
  unissued : mailbox.generation < session →
    acceptedFor session history = [] ∧ deliveredFor session history = [] ∧
      ¬ OverflowedIn session history
  intact : session ≠ 0 → mailbox.session = session → mailbox.overflow = false →
    deliveredFor session history ++ mailbox.queued = acceptedFor session history
  overflow : session ≠ 0 → mailbox.session = session →
    (mailbox.overflow = true ↔ OverflowedIn session history)
  delivered : deliveredFor session history <+: acceptedFor session history

theorem sessionLogged_initial (session : UInt64) : SessionLogged session [] {} where
  sound := sound_initial
  unissued _ := ⟨rfl, rfl, by simp [OverflowedIn]⟩
  intact nonzero current := absurd current.symm nonzero
  overflow nonzero current := absurd current.symm nonzero
  delivered := List.prefix_refl _

/-- A stage that neither accepts nor delivers an event of the session, nor overflows. -/
structure MailboxStage.Idle (session : UInt64) (stage : MailboxStage) : Prop where
  accepted : stage.accepted session = []
  delivered : stage.delivered session = []
  overflow : ¬ stage.Overflows session

/-- An idle stage adds nothing to the log. -/
theorem SessionLogged.idle {session : UInt64} {history : List MailboxStage}
    {mailbox : BaresipEventMailbox} (logged : SessionLogged session history mailbox)
    {stage : MailboxStage} (idle : stage.Idle session) (sound : stage.after.Sound)
    (grows : mailbox.generation ≤ stage.after.generation)
    (kept : session ≠ 0 → stage.after.session = session →
      (mailbox.session = session ∧ stage.after.overflow = mailbox.overflow ∧
        stage.after.queued = mailbox.queued) ∨
      (mailbox.generation < session ∧ stage.after.overflow = false ∧ stage.after.queued = [])) :
    SessionLogged session (history ++ [stage]) stage.after := by
  have accepted : acceptedFor session (history ++ [stage]) = acceptedFor session history := by
    rw [acceptedFor_concat, idle.accepted, List.append_nil]
  have delivered : deliveredFor session (history ++ [stage]) = deliveredFor session history := by
    rw [deliveredFor_concat, idle.delivered, List.append_nil]
  have overflowed : OverflowedIn session (history ++ [stage]) ↔ OverflowedIn session history := by
    rw [overflowedIn_concat, or_iff_left idle.overflow]
  refine ⟨sound, ?_, ?_, ?_, by rw [accepted, delivered]; exact logged.delivered⟩
  · intro fresh
    rw [accepted, delivered, overflowed]
    exact logged.unissued (UInt64.lt_of_le_of_lt grows fresh)
  · intro nonzero current intact
    rw [accepted, delivered]
    rcases kept nonzero current with ⟨same, overflow, queued⟩ | ⟨fresh, _, queued⟩
    · rw [queued]
      exact logged.intact nonzero same (overflow.symm.trans intact)
    · rw [queued, (logged.unissued fresh).1, (logged.unissued fresh).2.1, List.append_nil]
  · intro nonzero current
    rw [overflowed]
    rcases kept nonzero current with ⟨same, overflow, _⟩ | ⟨fresh, overflow, _⟩
    · rw [overflow]
      exact logged.overflow nonzero same
    · rw [overflow]
      simpa using (logged.unissued fresh).2.2

/-- An overflow of the current session is on record from then on. -/
theorem SessionLogged.overflowed {session : UInt64} {history : List MailboxStage}
    {before after : BaresipEventMailbox} {event : BaresipNativeEvent}
    (logged : SessionLogged session history before) (sound : after.Sound)
    (live : before.session ≠ 0) (generation : after.generation = before.generation)
    (kept : after.session = before.session) (lost : after.overflow = true) :
    SessionLogged session (history ++ [⟨before, .enqueue event, .enqueued false, after⟩]) after := by
  by_cases ofSession : before.session = session
  · subst ofSession
    have issued : ¬ after.generation < before.session := by
      rw [generation]
      exact UInt64.not_lt.mpr logged.sound.current_le
    have known : OverflowedIn before.session (history ++
        [⟨before, .enqueue event, .enqueued false, after⟩]) := by
      rw [overflowedIn_concat]
      cases was : before.overflow with
      | true => exact .inl ((logged.overflow live rfl).mp was)
      | false => exact .inr ⟨event, rfl, rfl, was, lost⟩
    refine ⟨sound, fun fresh => absurd fresh issued, fun _ _ intact => ?_,
      fun _ _ => iff_of_true lost known, ?_⟩
    · exact absurd (lost.symm.trans intact) (by decide)
    · rw [acceptedFor_concat, deliveredFor_concat]
      simpa [MailboxStage.accepted, MailboxStage.delivered] using logged.delivered
  · refine logged.idle ⟨rfl, rfl, ?_⟩ sound ?_ ?_
    · rintro ⟨_, _, current, _⟩
      exact ofSession current
    · rw [generation]
      exact UInt64.le_refl _
    · intro _ current
      exact absurd (kept.symm.trans current) ofSession

/-- An accepted event is one more accepted and one more queued. -/
theorem SessionLogged.enqueued {session : UInt64} {history : List MailboxStage}
    {before after : BaresipEventMailbox} {event : BaresipNativeEvent}
    (logged : SessionLogged session history before) (sound : after.Sound)
    (live : before.session ≠ 0) (same : event.session = before.session)
    (was : before.overflow = false) (generation : after.generation = before.generation)
    (kept : after.session = before.session) (intact : after.overflow = false)
    (grown : after.queued = before.queued ++ [event]) :
    SessionLogged session (history ++ [⟨before, .enqueue event, .enqueued true, after⟩]) after := by
  by_cases ofSession : before.session = session
  · subst ofSession
    have issued : ¬ after.generation < before.session := by
      rw [generation]
      exact UInt64.not_lt.mpr logged.sound.current_le
    have accepted : MailboxStage.accepted before.session
        ⟨before, .enqueue event, .enqueued true, after⟩ = [event] := if_pos same
    have delivered : MailboxStage.delivered before.session
        ⟨before, .enqueue event, .enqueued true, after⟩ = [] := rfl
    have balance := logged.intact live rfl was
    refine ⟨sound, fun fresh => absurd fresh issued, fun _ _ _ => ?_, fun _ _ => ?_, ?_⟩
    · rw [acceptedFor_concat, deliveredFor_concat, accepted, delivered, List.append_nil, grown,
        ← balance, List.append_assoc]
    · have known := logged.overflow live rfl
      rw [was] at known
      rw [intact, overflowedIn_concat, ← known]
      simp [MailboxStage.Overflows, intact]
    · rw [acceptedFor_concat, deliveredFor_concat, accepted, delivered, List.append_nil]
      exact logged.delivered.trans (List.prefix_append _ _)
  · refine logged.idle ⟨if_neg ?_, rfl, ?_⟩ sound ?_ ?_
    · rw [same]
      exact ofSession
    · rintro ⟨_, _, current, _⟩
      exact ofSession current
    · rw [generation]
      exact UInt64.le_refl _
    · intro _ current
      exact absurd (kept.symm.trans current) ofSession

/-- A drain delivers what was queued, unless the session is not the current one or overflowed. -/
theorem SessionLogged.drained {session : UInt64} {history : List MailboxStage}
    {before after : BaresipEventMailbox} {batch : Batch}
    (logged : SessionLogged session history before) (sound : after.Sound)
    (batchSession : batch.session = before.session) (batchOverflow : batch.overflow = before.overflow)
    (handed : before.overflow = false → batch.delivered = before.queued)
    (generation : after.generation = before.generation) (kept : after.session = before.session)
    (overflow : after.overflow = before.overflow) (emptied : after.queued = []) :
    SessionLogged session (history ++ [⟨before, .drain, .drained batch, after⟩]) after := by
  have quiet : ¬ MailboxStage.Overflows session ⟨before, .drain, .drained batch, after⟩ := by
    rintro ⟨_, input, _⟩
    cases input
  by_cases delivers : session ≠ 0 ∧ before.session = session ∧ before.overflow = false
  · obtain ⟨nonzero, rfl, intact⟩ := delivers
    have delivered : MailboxStage.delivered before.session
        ⟨before, .drain, .drained batch, after⟩ = before.queued := by
      simp only [MailboxStage.delivered]
      rw [if_pos ⟨batchSession, batchOverflow.trans intact⟩, handed intact]
    have accepted : MailboxStage.accepted before.session
        ⟨before, .drain, .drained batch, after⟩ = [] := rfl
    have issued : ¬ after.generation < before.session := by
      rw [generation]
      exact UInt64.not_lt.mpr logged.sound.current_le
    have balance : deliveredFor before.session (history ++
          [⟨before, .drain, .drained batch, after⟩]) =
        acceptedFor before.session (history ++ [⟨before, .drain, .drained batch, after⟩]) := by
      rw [acceptedFor_concat, deliveredFor_concat, delivered, accepted, List.append_nil]
      exact logged.intact nonzero rfl intact
    refine ⟨sound, fun fresh => absurd fresh issued, fun _ _ _ => ?_, fun _ _ => ?_, ?_⟩
    · rw [emptied, List.append_nil]
      exact balance
    · rw [overflow, overflowedIn_concat, or_iff_left quiet]
      exact logged.overflow nonzero rfl
    · exact ⟨[], by rw [List.append_nil, balance]⟩
  · have delivered : MailboxStage.delivered session
        ⟨before, .drain, .drained batch, after⟩ = [] := by
      simp only [MailboxStage.delivered]
      split
      · next ofBatch =>
          have current := batchSession.symm.trans ofBatch.1
          have intact := batchOverflow.symm.trans ofBatch.2
          have zero : session = 0 := by
            by_contra nonzero
            exact delivers ⟨nonzero, current, intact⟩
          rw [handed intact]
          exact logged.sound.idle (current.trans zero)
      · rfl
    refine logged.idle ⟨rfl, delivered, quiet⟩ sound ?_ ?_
    · rw [generation]
      exact UInt64.le_refl _
    · intro nonzero current
      have same := kept.symm.trans current
      have lost : before.overflow = true := by
        by_contra intact
        exact delivers ⟨nonzero, same, by simpa using intact⟩
      exact .inl ⟨same, overflow, emptied.trans (logged.sound.lost lost).symm⟩

/-- Every stage of the mailbox extends the log of every session. -/
theorem SessionLogged.extend {session : UInt64} {history : List MailboxStage}
    (stage : MailboxStage) (logged : SessionLogged session history stage.before)
    (moved : stage.before.Moved stage.input stage.output stage.after) :
    SessionLogged session (history ++ [stage]) stage.after := by
  have sound := moved.sound logged.sound
  obtain ⟨before, input, output, after⟩ := stage
  dsimp only at logged moved sound ⊢
  cases moved with
  | began _ room generation begun intact emptied =>
      have grows : before.generation < before.generation + 1 := by grind
      refine logged.idle ⟨rfl, rfl, by rintro ⟨_, input, _⟩; cases input⟩ sound ?_ ?_
      · rw [generation]
        exact UInt64.le_of_lt grows
      · intro _ current
        refine .inr ⟨?_, intact, emptied⟩
        rw [← current, begun]
        exact grows
  | exhausted _ full generation ended emptied =>
      refine logged.idle ⟨rfl, rfl, by rintro ⟨_, input, _⟩; cases input⟩ sound ?_ ?_
      · rw [generation]
        exact UInt64.le_refl _
      · intro nonzero current
        exact absurd (current.symm.trans ended) nonzero
  | invalidated _ generation ended emptied =>
      refine logged.idle ⟨rfl, rfl, by rintro ⟨_, input, _⟩; cases input⟩ sound ?_ ?_
      · rw [generation]
        exact UInt64.le_refl _
      · intro nonzero current
        exact absurd (current.symm.trans ended) nonzero
  | refused event =>
      refine logged.idle ⟨rfl, rfl, ?_⟩ sound (UInt64.le_refl _) ?_
      · rintro ⟨_, _, _, was, is⟩
        exact absurd (was.symm.trans is) (by decide)
      · exact fun _ current => .inl ⟨current, rfl, rfl⟩
  | overflowed event _ live same generation kept lost emptied =>
      exact logged.overflowed sound live generation kept lost
  | accepted event _ live same was generation kept intact grown =>
      exact logged.enqueued sound live same was generation kept intact grown
  | drained batch _ batchSession batchOverflow handed withheld generation kept overflow emptied =>
      exact logged.drained sound batchSession batchOverflow handed generation kept overflow emptied

/-! ## Whole runs -/

theorem mailbox_logged (session : UInt64) (calls : List MailboxCall) :
    SessionLogged session (stages mailboxStep {} calls) (finalState mailboxStep {} calls) :=
  history_invariant (SessionLogged session) (fun _ => True)
    (fun _ mailbox call logged _ =>
      .extend (stageOf mailboxStep mailbox call) logged (mailboxStep_moved mailbox call))
    [] (sessionLogged_initial session) fun _ _ => trivial

theorem mailbox_sound (calls : List MailboxCall) : (finalState mailboxStep {} calls).Sound :=
  (mailbox_logged 0 calls).sound

namespace BaresipEventMailbox

variable {before after : BaresipEventMailbox} {call : MailboxCall} {answer : MailboxAnswer}
  {session : UInt64}

/-- An issued session that is over, or has overflowed. -/
def Lost (session : UInt64) (mailbox : BaresipEventMailbox) : Prop :=
  session ≤ mailbox.generation ∧ (mailbox.session = session → mailbox.overflow = true)

theorem Moved.lost (moved : before.Moved call answer after) (nonzero : session ≠ 0)
    (lost : before.Lost session) : after.Lost session := by
  obtain ⟨issued, gone⟩ := lost
  cases moved with
  | began _ room generation begun intact emptied =>
      have grows : before.generation < before.generation + 1 := by grind
      have newer : session < before.generation + 1 := UInt64.lt_of_le_of_lt issued grows
      refine ⟨by rw [generation]; exact UInt64.le_of_lt newer, fun current => ?_⟩
      rw [← current, begun] at newer
      exact absurd newer (UInt64.lt_irrefl _)
  | exhausted _ full generation ended emptied =>
      exact ⟨generation ▸ issued, fun current => absurd (current.symm.trans ended) nonzero⟩
  | invalidated _ generation ended emptied =>
      exact ⟨generation ▸ issued, fun current => absurd (current.symm.trans ended) nonzero⟩
  | refused event => exact ⟨issued, gone⟩
  | overflowed event _ live same generation kept lost emptied =>
      exact ⟨generation ▸ issued, fun _ => lost⟩
  | accepted event _ live same was generation kept intact grown =>
      refine ⟨generation ▸ issued, fun current => ?_⟩
      exact absurd (was.symm.trans (gone (kept.symm.trans current))) (by decide)
  | drained batch _ batchSession batchOverflow handed withheld generation kept overflow emptied =>
      exact ⟨generation ▸ issued, fun current => overflow.trans (gone (kept.symm.trans current))⟩

/-- Nothing of a lost session passes through the mailbox any more. -/
theorem Moved.silent (moved : before.Moved call answer after) (sound : before.Sound)
    (lost : before.Lost session) : MailboxStage.Silent session ⟨before, call, answer, after⟩ := by
  constructor
  · rintro event rfl ofSession
    cases moved with
    | refused => rfl
    | overflowed => rfl
    | accepted _ _ live same was =>
        have current := same.symm.trans ofSession
        exact absurd (was.symm.trans (lost.2 current)) (by decide)
  · rintro batch rfl event member ofSession
    cases moved with
    | drained _ _ batchSession batchOverflow handed withheld =>
        cases intact : before.overflow with
        | true =>
            rw [withheld intact] at member
            cases member
        | false =>
            rw [handed intact] at member
            have current := (sound.own event member).symm.trans ofSession
            exact absurd (intact.symm.trans (lost.2 current)) (by decide)

/-- Everything that a batch delivers is of the session of the batch. -/
theorem Moved.delivers_own (moved : before.Moved call answer after) (sound : before.Sound)
    {batch : Batch} (drained : answer = .drained batch) :
    ∀ event ∈ batch.delivered, event.session = batch.session := by
  subst drained
  intro event member
  cases moved with
  | drained _ _ batchSession batchOverflow handed withheld =>
      cases intact : before.overflow with
      | true =>
          rw [withheld intact] at member
          cases member
      | false =>
          rw [handed intact] at member
          exact (sound.own event member).trans batchSession.symm

/-- The mailbox is in this session, which has not overflowed. -/
def InSession (session : UInt64) (mailbox : BaresipEventMailbox) : Prop :=
  mailbox.session = session ∧ mailbox.overflow = false

/-- A session lasts until the next session, an invalidation or an overflow. -/
theorem Moved.inSession (moved : before.Moved call answer after)
    (inSession : before.InSession session) (noBegin : call ≠ .beginSession)
    (noEnd : call ≠ .invalidateSession)
    (noOverflow : ¬ MailboxStage.Overflows session ⟨before, call, answer, after⟩) :
    after.InSession session := by
  obtain ⟨current, intact⟩ := inSession
  cases moved with
  | began => exact absurd rfl noBegin
  | exhausted => exact absurd rfl noBegin
  | invalidated => exact absurd rfl noEnd
  | refused event => exact ⟨current, intact⟩
  | overflowed event _ live same generation kept lost emptied =>
      exact absurd ⟨event, rfl, current, intact, lost⟩ noOverflow
  | accepted event _ live same was generation kept intact grown =>
      exact ⟨kept.trans current, intact⟩
  | drained batch _ batchSession batchOverflow handed withheld generation kept overflow emptied =>
      exact ⟨kept.trans current, overflow.trans intact⟩

end BaresipEventMailbox

/-- A session that is open in the history of a run is the current one where the run ends. -/
theorem inSession_of_openIn {calls : List MailboxCall} {session : UInt64}
    (opened : OpenIn session (stages mailboxStep {} calls)) :
    (finalState mailboxStep {} calls).InSession session := by
  obtain ⟨nonzero, earlier, begun, during, split, output, kept⟩ := opened
  obtain ⟨first, input, rest, rfl, rfl, rfl, rfl⟩ := stages_split split
  have moved := mailboxStep_moved (finalState mailboxStep {} first) input
  rw [show (mailboxStep (finalState mailboxStep {} first) input).1 = .began session from output]
    at moved
  have begins : (mailboxStep (finalState mailboxStep {} first) input).2.InSession session := by
    generalize (mailboxStep (finalState mailboxStep {} first) input).2 = after at moved
    cases moved with
    | began _ room generation current intact emptied => exact ⟨current, intact⟩
    | exhausted => exact absurd rfl nonzero
  rw [finalState_append, finalState_cons]
  exact finalState_invariant_of_admitted (InSession session)
    (fun stage : MailboxStage => stage.input ≠ .beginSession ∧ stage.input ≠ .invalidateSession ∧
      ¬ stage.Overflows session)
    (fun mailbox call inSession admitted => (mailboxStep_moved mailbox call).inSession inSession
      admitted.1 admitted.2.1 admitted.2.2) begins kept

/-- A drain of an open session leaves nothing accepted undelivered. -/
theorem delivered_eq_accepted {calls : List MailboxCall} {session : UInt64}
    {before after : List MailboxStage} {drain : MailboxStage}
    (split : stages mailboxStep {} calls = before ++ drain :: after) (input : drain.input = .drain)
    (opened : OpenIn session before) (quiet : ∀ stage ∈ after, stage.accepted session = []) :
    deliveredFor session (stages mailboxStep {} calls) =
      acceptedFor session (stages mailboxStep {} calls) := by
  have whole := (mailbox_logged session calls).delivered
  rw [split] at whole ⊢
  obtain ⟨first, call, rest, rfl, rfl, rfl, rfl⟩ := stages_split split
  obtain rfl : call = .drain := input
  have current := inSession_of_openIn opened
  have logged := (mailbox_logged session first).extend (stageOf mailboxStep _ .drain)
    (mailboxStep_moved _ _)
  have balance := logged.intact opened.1 current.1 current.2
  have emptied : (stageOf mailboxStep (finalState mailboxStep {} first) .drain).after.queued = [] :=
    drain_queued _
  rw [emptied, List.append_nil] at balance
  generalize stages mailboxStep (stageOf mailboxStep (finalState mailboxStep {} first) .drain).after
    rest = later at whole quiet ⊢
  have nothing : acceptedFor session later = [] := by
    rw [acceptedFor, List.flatMap_eq_nil_iff]
    exact quiet
  rw [List.append_cons] at whole ⊢
  rw [deliveredFor_append, acceptedFor_append, nothing, List.append_nil, balance] at whole ⊢
  have none_ : deliveredFor session later = [] := by
    have bound := whole.length_le
    rw [List.length_append] at bound
    exact List.eq_nil_of_length_eq_zero (by omega)
  rw [none_, List.append_nil]

theorem BaresipEventMailbox.Moved.generation {before after : BaresipEventMailbox}
    {call : MailboxCall} {answer : MailboxAnswer} (moved : before.Moved call answer after)
    (noBegin : call ≠ .beginSession) : after.generation = before.generation := by
  cases moved with
  | began => exact absurd rfl noBegin
  | exhausted => exact absurd rfl noBegin
  | invalidated _ generation => exact generation
  | refused => rfl
  | overflowed _ _ _ _ generation => exact generation
  | accepted _ _ _ _ _ generation => exact generation
  | drained _ _ _ _ _ _ generation => exact generation

theorem BaresipEventMailbox.Moved.rises {before after : BaresipEventMailbox}
    {call : MailboxCall} {answer : MailboxAnswer} (moved : before.Moved call answer after) :
    before.generation ≤ after.generation := by
  by_cases begins : call = .beginSession
  · subst begins
    cases moved with
    | began _ room generation =>
        have grows : before.generation < before.generation + 1 := by grind
        rw [generation]
        exact UInt64.le_of_lt grows
    | exhausted _ full generation =>
        rw [generation]
        exact UInt64.le_refl _
  · rw [moved.generation begins]
    exact UInt64.le_refl _

/-- The generation counts the sessions begun, up to its greatest value. -/
def Counted (history : List MailboxStage) (mailbox : BaresipEventMailbox) : Prop :=
  mailbox.generation.toNat = min (beginsIn history) uint64Max.toNat

/-- What `begin_session` answers after so many earlier calls. -/
def numberAfter (begins : Nat) : Nat :=
  if begins < uint64Max.toNat then begins + 1 else 0

theorem begins_counted {history : List MailboxStage} {mailbox : BaresipEventMailbox}
    {call : MailboxCall} (counted : Counted history mailbox) :
    Counted (history ++ [stageOf mailboxStep mailbox call]) (mailboxStep mailbox call).2 ∧
      ∀ number, (mailboxStep mailbox call).1 = .began number →
        number.toNat = numberAfter (beginsIn history) := by
  have moved := mailboxStep_moved mailbox call
  unfold Counted at counted ⊢
  unfold numberAfter
  have appended : beginsIn (history ++ [stageOf mailboxStep mailbox call]) =
      beginsIn history + beginsIn [stageOf mailboxStep mailbox call] := List.countP_append
  rw [appended]
  cases call with
  | beginSession =>
      have one : beginsIn [stageOf mailboxStep mailbox .beginSession] = 1 := rfl
      rw [one]
      generalize (mailboxStep mailbox .beginSession).1 = answer at moved ⊢
      generalize (mailboxStep mailbox .beginSession).2 = after at moved ⊢
      cases moved with
      | began _ room generation =>
          have next := EventSource.toNat_succ room
          have below : mailbox.generation.toNat ≠ uint64Max.toNat :=
            fun full => room (UInt64.toNat_inj.mp full)
          refine ⟨by rw [generation, next]; omega, ?_⟩
          rintro _ ⟨⟩
          rw [next]
          split <;> omega
      | exhausted _ full generation =>
          rw [full] at counted
          refine ⟨by rw [generation, full]; omega, ?_⟩
          rintro _ ⟨⟩
          rw [if_neg (by omega)]
          rfl
  | invalidateSession =>
      rw [moved.generation nofun]
      exact ⟨counted, nofun⟩
  | enqueue event =>
      rw [moved.generation nofun]
      exact ⟨counted, nofun⟩
  | drain =>
      rw [moved.generation nofun]
      exact ⟨counted, nofun⟩

theorem mailbox_counted (calls : List MailboxCall) :
    Counted (stages mailboxStep {} calls) (finalState mailboxStep {} calls) :=
  history_invariant Counted (fun _ => True) (fun _ _ _ counted _ => (begins_counted counted).1)
    [] (show Counted [] {} from rfl) fun _ _ => trivial

/--
What the mailbox promises of every run: a gap-free history of each session or
nothing, no event in a batch of another session, and numbers that are never issued
twice.
-/
structure DeliversHistory (history : List MailboxStage) : Prop where
  ordered : ∀ session, deliveredFor session history <+: acceptedFor session history
  complete : ∀ session before drain after, history = before ++ drain :: after →
    drain.input = .drain → OpenIn session before →
    (∀ stage ∈ after, stage.accepted session = []) →
      deliveredFor session history = acceptedFor session history
  lost : ∀ session before overflow after, history = before ++ overflow :: after →
    overflow.Overflows session → ∀ stage ∈ after, stage.Silent session
  own : ∀ stage ∈ history, ∀ batch, stage.output = .drained batch →
    ∀ event ∈ batch.delivered, event.session = batch.session
  numbered : ∀ before begun after number, history = before ++ begun :: after →
    begun.output = .began number → number.toNat = numberAfter (beginsIn before)
  increasing : history.Pairwise fun earlier later => ∀ first second,
    earlier.output = .began first → later.output = .began second → second ≠ 0 →
      first ≠ 0 ∧ first < second

/-- The answers of `begin_session` ascend until the numbers are used up. -/
theorem begins_increasing (calls : List MailboxCall) :
    (stages mailboxStep {} calls).Pairwise fun earlier later => ∀ first second,
      earlier.output = .began first → later.output = .began second → second ≠ 0 →
        first ≠ 0 ∧ first < second := by
  refine stages_pairwise (fun _ => True)
    (fun earlier mailbox => ∀ first, earlier.output = .began first →
      first ≤ mailbox.generation ∧ (first = 0 → mailbox.generation = uint64Max)) _
    (fun _ _ _ => trivial) ?_ ?_ ?_ trivial calls
  · intro mailbox call _ first output
    have moved := mailboxStep_moved mailbox call
    rw [show (mailboxStep mailbox call).1 = .began first from output] at moved
    generalize (mailboxStep mailbox call).2 = after at moved ⊢
    cases moved with
    | began _ room generation =>
        rw [generation]
        refine ⟨UInt64.le_refl _, fun zero => ?_⟩
        exact absurd (EventSource.toNat_succ room) (by rw [zero]; exact nofun)
    | exhausted _ full generation =>
        exact ⟨UInt64.zero_le, fun _ => generation.trans full⟩
  · intro earlier mailbox call _ known first output
    obtain ⟨issued, exhausted⟩ := known first output
    have rises := (mailboxStep_moved mailbox call).rises
    refine ⟨UInt64.le_trans issued rises, fun zero => ?_⟩
    rw [exhausted zero] at rises
    have bound := (mailboxStep mailbox call).2.generation.toNat_lt
    exact UInt64.le_antisymm (UInt64.le_iff_toNat_le.mpr (by simp only [uint64Max]; grind)) rises
  · intro earlier mailbox call _ known first second firstOutput secondOutput nonzero
    obtain ⟨issued, exhausted⟩ := known first firstOutput
    have moved := mailboxStep_moved mailbox call
    rw [show (mailboxStep mailbox call).1 = .began second from secondOutput] at moved
    generalize (mailboxStep mailbox call).2 = after at moved
    cases moved with
    | began _ room =>
        have grows : mailbox.generation < mailbox.generation + 1 := by grind
        exact ⟨fun zero => room (exhausted zero), UInt64.lt_of_le_of_lt issued grows⟩
    | exhausted => exact absurd rfl nonzero

theorem mailbox_delivers_history (calls : List MailboxCall) :
    DeliversHistory (stages mailboxStep {} calls) where
  ordered session := (mailbox_logged session calls).delivered
  complete session before drain after split input opened quiet :=
    delivered_eq_accepted split input opened quiet
  lost := by
    rintro session before overflow after split overflows
    obtain ⟨first, input, rest, rfl, rfl, rfl, rfl⟩ := stages_split split
    obtain ⟨event, called, current, was, is⟩ := overflows
    have sound := mailbox_sound first
    obtain rfl : input = .enqueue event := called
    have moved := mailboxStep_moved (finalState mailboxStep {} first) (.enqueue event)
    have begins : (mailboxStep (finalState mailboxStep {} first) (.enqueue event)).2.Lost session := by
      have kept := moved.generation nofun
      refine ⟨?_, fun _ => is⟩
      rw [kept, ← current]
      exact sound.current_le
    have live : session ≠ 0 := by
      simp only [stageOf] at current was is
      generalize (mailboxStep (finalState mailboxStep {} first) (.enqueue event)).1 = answer at moved
      generalize (mailboxStep (finalState mailboxStep {} first) (.enqueue event)).2 = after at moved is
      rw [← current]
      cases moved with
      | refused => exact absurd (was.symm.trans is) (by decide)
      | overflowed _ _ live => exact live
      | accepted _ _ live => exact live
    have preserved (mailbox : BaresipEventMailbox) (call : MailboxCall)
        (known : mailbox.Sound ∧ mailbox.Lost session) :
        (mailboxStep mailbox call).2.Sound ∧ (mailboxStep mailbox call).2.Lost session :=
      ⟨(mailboxStep_moved mailbox call).sound known.1,
        (mailboxStep_moved mailbox call).lost live known.2⟩
    exact stages_forall preserved
      (fun mailbox call known => (mailboxStep_moved mailbox call).silent known.1 known.2)
      ⟨moved.sound sound, begins⟩ rest
  own := stages_forall (fun mailbox call sound => (mailboxStep_moved mailbox call).sound sound)
    (fun mailbox call sound _ drained => (mailboxStep_moved mailbox call).delivers_own sound drained)
    sound_initial calls
  numbered before begun after number split output := by
    obtain ⟨first, input, rest, rfl, rfl, rfl, rfl⟩ := stages_split split
    exact (begins_counted (mailbox_counted first)).2 number output
  increasing := begins_increasing calls

end AxeVoice.Sip
