import AxeVoice.Foundation.BoundedRing
import AxeVoice.Foundation.EventSource
import AxeVoice.Sip.Observation

/-!
# The CTI event journal

The public, de-identified view of the SIP state: the journal records an event
whenever an observation changes the snapshot or the tokens behind it, and keeps
the newest events in a ring.
-/

namespace AxeVoice.Cti

open Foundation Sip

inductive CtiPhase where
  | offline
  | unverified
  | registering
  | registered
  | dialing
  | ringing
  | inCall
  | failed
  deriving DecidableEq, Repr

def ctiPhase (observed : SipRuntimeObservation) : CtiPhase :=
  if observed.process = .stopped || observed.process = .stopping then .offline
  else if observed.process = .failed then .failed
  else if !sipProofIsCurrent observed observed.session then .unverified
  else
    match observed.sip with
    | .registering => .registering
    | .registered => .registered
    | .calling => .dialing
    | .ringing => .ringing
    | .inCall => .inCall
    | .failed => .failed
    | .disconnected => .offline
    | .unavailable => .unverified

def ctiRegistered (observed : SipRuntimeObservation) : Bool :=
  sipProofIsCurrent observed observed.session &&
    (observed.sip = .registered || observed.sip = .calling || observed.sip = .ringing ||
      observed.sip = .inCall)

structure CtiPublicSnapshot where
  phase : CtiPhase := .offline
  registered : Bool := false
  activeCall : Bool := false
  sequence : UInt64 := 0
  deriving DecidableEq, Repr

structure CtiPublicEvent where
  sequence : UInt64 := 0
  phase : CtiPhase := .offline
  deriving DecidableEq, Repr

structure CtiEventsPage where
  latestSequence : UInt64 := 0
  oldestSequence : UInt64 := 0
  gap : Bool := false
  events : List CtiPublicEvent := []
  deriving DecidableEq, Repr

structure CtiEventJournal where
  initialized : Bool := false
  sequence : UInt64 := 0
  lastSession : UInt64 := 0
  lastCallId : UInt64 := 0
  current : CtiPublicSnapshot := {}
  events : List CtiPublicEvent := []
  deriving DecidableEq, Repr

namespace CtiEventJournal

def capacity : ℕ := 32

def observedActive (state : SipRuntimeObservation) : Bool :=
  sipProofIsCurrent state state.session && state.callId ≠ 0 &&
    (state.sip = .calling || state.sip = .ringing || state.sip = .inCall)

def changes (journal : CtiEventJournal) (state : SipRuntimeObservation) : Bool :=
  !journal.initialized || ctiPhase state ≠ journal.current.phase ||
    ctiRegistered state ≠ journal.current.registered ||
    observedActive state ≠ journal.current.activeCall ||
    state.session ≠ journal.lastSession || state.callId ≠ journal.lastCallId

def observe (journal : CtiEventJournal) (state : SipRuntimeObservation) : CtiEventJournal :=
  if !journal.changes state then journal
  else
    -- the sequence is incremented unguarded
    { initialized := true
      sequence := journal.sequence + 1
      lastSession := state.session
      lastCallId := state.callId
      current := ⟨ctiPhase state, ctiRegistered state, observedActive state, journal.sequence + 1⟩
      events := pushBounded capacity journal.events ⟨journal.sequence + 1, ctiPhase state⟩ }

def snapshot (journal : CtiEventJournal) : CtiPublicSnapshot := journal.current

def oldestSequence (journal : CtiEventJournal) : UInt64 :=
  match journal.events with
  | [] => 0
  | event :: _ => event.sequence

def after (journal : CtiEventJournal) (cursor : UInt64) : CtiEventsPage where
  latestSequence := journal.sequence
  oldestSequence := journal.oldestSequence
  gap := journal.oldestSequence > 0 && cursor < journal.oldestSequence - 1
  events := journal.events.filter fun event => event.sequence > cursor

end CtiEventJournal

def journalStep (journal : CtiEventJournal) (state : SipRuntimeObservation) :
    Unit × CtiEventJournal :=
  ((), journal.observe state)

def CtiEventsPage.asPage (page : CtiEventsPage) : EventPage CtiPublicEvent :=
  ⟨page.latestSequence, page.oldestSequence, page.gap, page.events⟩

def journalSource : EventSource CtiEventJournal CtiPublicEvent where
  sequence := CtiPublicEvent.sequence
  retained := CtiEventJournal.events
  latest := CtiEventJournal.sequence

theorem journalSource_page (journal : CtiEventJournal) (cursor : UInt64) :
    journalSource.page journal cursor = (journal.after cursor).asPage := by
  have oldest : journalSource.oldest journal = journal.oldestSequence := by
    have retained : journalSource.retained journal = journal.events := rfl
    unfold EventSource.oldest CtiEventJournal.oldestSequence
    rw [retained]
    cases journal.events <;> rfl
  simp only [EventSource.page, oldest]
  rfl

/-- The journal logs its changes, and retains one as soon as there was one. -/
structure Journaled (log : List CtiPublicEvent) (journal : CtiEventJournal) : Prop where
  logged : journalSource.Logged log journal
  nonempty : journal.events = [] → journal.sequence = 0

theorem journaled_initial : Journaled [] {} :=
  ⟨⟨numbered_nil, List.suffix_refl _, rfl⟩, fun _ => rfl⟩

/-- An observation that finds the counter available, or changes nothing, keeps the log. -/
theorem journaled_observe (log : List CtiPublicEvent) (journal : CtiEventJournal)
    (state : SipRuntimeObservation) (journaled : Journaled log journal)
    (available : journal.changes state = true → journal.sequence ≠ 0xFFFFFFFFFFFFFFFF) :
    Journaled (log ++ (journalSource.appended journal (journal.observe state)).toList)
      (journal.observe state) := by
  unfold CtiEventJournal.observe
  by_cases unchanged : !journal.changes state
  · have still : journalSource.appended journal journal = none := if_pos rfl
    rw [if_pos unchanged, still]
    simpa using journaled
  · have counted := available (by simpa using unchanged)
    rw [if_neg unchanged]
    refine ⟨journaled.logged.push (by decide : 0 < CtiEventJournal.capacity) counted rfl rfl rfl,
      fun empty => ?_⟩
    obtain ⟨kept, -, split⟩ := pushBounded_eq_append (by decide : 0 < CtiEventJournal.capacity)
      journal.events ⟨journal.sequence + 1, ctiPhase state⟩
    have nonempty := split.symm.trans empty
    simp at nonempty

end AxeVoice.Cti
