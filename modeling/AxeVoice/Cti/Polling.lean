import AxeVoice.Cti.Journal
import AxeVoice.Cti.Lifecycle

/-!
# Polling the request events and the journal

Both rings retain a suffix of a log numbered from one.  A page tells a gap from
the oldest event retained, so it can be trusted wherever one is retained, and
where the cursor is the latest sequence; a queue that was cleared retains none.
-/

namespace AxeVoice.Cti

open Foundation Sip

variable {width : WCharWidth}

def CtiRequestEventsPage.asPage (page : CtiRequestEventsPage) : EventPage CtiRequestTransition :=
  ⟨page.latestSequence, page.oldestSequence, page.gap, page.events⟩

def queueSource : EventSource (CtiRequestQueue width) CtiRequestTransition where
  sequence := CtiRequestTransition.sequence
  retained := CtiRequestQueue.events
  latest := CtiRequestQueue.eventSequence

theorem queueSource_page (queue : CtiRequestQueue width) (cursor : UInt64) :
    queueSource.page queue cursor = (queue.eventsAfter cursor).asPage := by
  have oldest : queueSource.oldest queue = queue.oldestSequence := by
    have retained : queueSource.retained queue = queue.events := rfl
    unfold EventSource.oldest CtiRequestQueue.oldestSequence
    rw [retained]
    cases queue.events <;> rfl
  simp only [EventSource.page, oldest]
  rfl

/-- The queue is sound and logs its transitions. -/
structure LoggedQueue (log : List CtiRequestTransition) (queue : CtiRequestQueue width) :
    Prop where
  sound : Sound queue
  logged : queueSource.Logged log queue

theorem loggedQueue_initial : LoggedQueue [] ({} : CtiRequestQueue width) :=
  ⟨sound_initial, numbered_nil, List.suffix_refl _, rfl⟩

theorem logged_appended {log : List CtiRequestTransition} {queue after : CtiRequestQueue width}
    (logged : queueSource.Logged log queue) {id : UInt64} {state : CtiRequestState}
    (appended : Appended queue after id state) :
    queueSource.Logged (log ++ (queueSource.appended queue after).toList) after := by
  by_cases exhausted : queue.eventSequence = CtiRequestQueue.maxSequence
  · obtain ⟨counter, events⟩ := appended.exhausted exhausted
    exact logged.still counter events
  · obtain ⟨counter, events⟩ := appended.numbered exhausted
    exact logged.push (by decide : 0 < CtiRequestQueue.eventCapacity) exhausted rfl counter events

theorem loggedQueue_step (log : List CtiRequestTransition) (queue : CtiRequestQueue width)
    (operation : CtiOperation width) (known : LoggedQueue log queue) :
    LoggedQueue (log ++ (queueSource.appended queue (queueStep queue operation).2).toList)
      (queueStep queue operation).2 := by
  refine ⟨queueStep_sound queue operation known.sound, ?_⟩
  have recorded := queueStep_recorded queue operation known.sound
  generalize (queueStep queue operation).2 = after at recorded
  cases recorded with
  | nothing unchanged =>
      subst unchanged
      exact known.logged.still rfl rfl
  | forgotten clear cleared =>
      subst cleared
      exact known.logged.forget rfl rfl
  | issued id issue fresh counted recorded others event => exact logged_appended known.logged event
  | moved id old new moves counted found recorded others event =>
      exact logged_appended known.logged event

theorem queue_logged (operations : List (CtiOperation width)) :
    LoggedQueue (queueSource.runLog (stages queueStep ({} : CtiRequestQueue width) operations))
      (finalState queueStep ({} : CtiRequestQueue width) operations) :=
  EventSource.run_logged LoggedQueue (fun _ _ => True)
    (fun log queue operation known _ => loggedQueue_step log queue operation known)
    loggedQueue_initial fun _ _ => trivial

/-- An event is retained, or the cursor is the latest sequence: the gap flag can be trusted. -/
def Trusted (queue : CtiRequestQueue width) (cursor : UInt64) : Prop :=
  queue.events ≠ [] ∨ cursor = queue.eventSequence

/-- An observation that is recorded finds a counter that can still be incremented. -/
def Available (journal : CtiEventJournal) (state : SipRuntimeObservation) : Prop :=
  journal.changes state = true → journal.sequence ≠ 0xFFFFFFFFFFFFFFFF

/-- The page of a cursor, after any run, and the events of a client that polls during a run. -/
structure PollingFaithful (width : WCharWidth) : Prop where
  queuePage : ∀ (operations : List (CtiOperation width)) (cursor : UInt64),
    let queue := finalState queueStep {} operations
    cursor ≤ queue.eventSequence →
      (queueSource.Serves (queueSource.runLog (stages queueStep {} operations)) queue cursor
          (queue.eventsAfter cursor).asPage ↔
        Trusted queue cursor)
  journalPage : ∀ (observations : List SipRuntimeObservation) (cursor : UInt64),
    (∀ stage ∈ stages journalStep {} observations, Available stage.before stage.input) →
    let journal := finalState journalStep {} observations
    cursor ≤ journal.sequence →
      journalSource.Serves (journalSource.runLog (stages journalStep {} observations)) journal
        cursor (journal.after cursor).asPage
  queueClient : ∀ turns : List (Turn (CtiOperation width)),
    let run := stages (queueSource.pollingStep queueStep) ({}, {}) (turns ++ [.poll])
    let client := (finalState (queueSource.pollingStep queueStep) ({}, {}) (turns ++ [.poll])).2
    (∀ stage ∈ run, EventSource.Admissible (fun _ _ => True) Trusted stage) →
      client.warned = false → client.received = queueSource.pollingLog run
  journalClient : ∀ turns : List (Turn SipRuntimeObservation),
    let run := stages (journalSource.pollingStep journalStep) ({}, {}) (turns ++ [.poll])
    let client := (finalState (journalSource.pollingStep journalStep) ({}, {}) (turns ++ [.poll])).2
    (∀ stage ∈ run, EventSource.Admissible Available (fun _ _ => True) stage) →
      client.warned = false → client.received = journalSource.pollingLog run

theorem journaled_step (log : List CtiPublicEvent) (journal : CtiEventJournal)
    (state : SipRuntimeObservation) (journaled : Journaled log journal)
    (available : Available journal state) :
    Journaled (log ++ (journalSource.appended journal (journalStep journal state).2).toList)
      (journalStep journal state).2 :=
  journaled_observe log journal state journaled available

/-- A journal that logs its changes has every gap flag right. -/
theorem journaled_trusted {log : List CtiPublicEvent} {journal : CtiEventJournal}
    (journaled : Journaled log journal) {cursor : UInt64} (known : cursor ≤ journal.sequence) :
    journal.events ≠ [] ∨ cursor = journal.sequence := by
  by_cases empty : journal.events = []
  · right
    have zero := journaled.nonempty empty
    rw [zero] at known ⊢
    exact UInt64.le_antisymm known (UInt64.le_iff_toNat_le.mpr (Nat.zero_le _))
  · exact .inl empty

/--
Polling is faithful: a page of the request queue exactly where the queue retains
an event or the cursor is the latest sequence, a page of the journal as long as
no change is recorded behind its last number, and so is what a client receives by
such polls.
-/
theorem polling_faithful (width : WCharWidth) : PollingFaithful width where
  queuePage operations cursor known := by
    rw [← queueSource_page]
    exact (queue_logged operations).logged.serves_iff known
  journalPage observations cursor available known := by
    have journaled := EventSource.run_logged Journaled Available journaled_step journaled_initial
      available
    rw [← journalSource_page]
    exact (journaled.logged.serves_iff known).mpr (journaled_trusted journaled known)
  queueClient turns admitted silent :=
    EventSource.polled_received LoggedQueue (fun _ _ => True) Trusted
      (fun _ _ known => known.logged) (fun _ _ _ _ _ trusted => trusted)
      (fun log queue operation known _ => loggedQueue_step log queue operation known)
      loggedQueue_initial admitted silent
  journalClient turns admitted silent :=
    EventSource.polled_received Journaled Available (fun _ _ => True)
      (fun _ _ journaled => journaled.logged)
      (fun _ _ _ journaled known _ => journaled_trusted journaled known)
      journaled_step journaled_initial admitted silent

/-- A queue cleared after one submission. -/
def submittedThenCleared : List (CtiOperation .utf16) :=
  [.submit (wideText .utf16 "1001"), .clear]

/-- The first transition is lost to the clear, and the page from the beginning tells no gap. -/
theorem submittedThenCleared_silent :
    ¬ ∀ (operations : List (CtiOperation .utf16)) (cursor : UInt64),
      let queue := finalState queueStep {} operations
      cursor ≤ queue.eventSequence →
        queueSource.Serves (queueSource.runLog (stages queueStep {} operations)) queue cursor
          (queue.eventsAfter cursor).asPage := by
  intro law
  have serves := law submittedThenCleared 0 (by decide)
  -- the transition of the submission is in the log and not on the page
  refine absurd (serves.gap.mpr ⟨⟨1, 1, .queued⟩, ?_, ?_, ?_, ?_⟩) ?_ <;> decide

end AxeVoice.Cti
