import AxeVoice.Foundation.Conveyance
import AxeVoice.Native.CallCommands
import Mathlib.Logic.Relation

/-!
# What is asked of the SDK for a call

The port notes in the adapter that it has answered, hung up or transferred a
call, before the SDK may call back.  The callbacks keep the notes as long as the
call lives, and no later call of the process gets the same session and token: so
the notes hold for the call for ever.
-/

namespace AxeVoice.Native

open Audio Foundation Sip

variable {width : WCharWidth} {ctype : WideCtype width}

inductive PortNote where
  | hungUp
  | answered
  | transferred
  deriving DecidableEq

def PortNote.on (note : PortNote) (adapter : BaresipSdkEventAdapter) : Bool :=
  match note with
  | .hungUp => adapter.hangupSent
  | .answered => adapter.answerSent
  | .transferred => adapter.transferAttempted

/-- The adapter but for the notes, of which none is taken back. -/
structure NotesMore (before after : BaresipSdkEventAdapter) : Prop where
  same : SameButNotes before after
  kept : ∀ note : PortNote, note.on before = true → note.on after = true

theorem notesMore_refl (adapter : BaresipSdkEventAdapter) : NotesMore adapter adapter :=
  ⟨sameButNotes_refl adapter, fun _ on => on⟩

namespace BaresipSdkCallPort

variable {port : BaresipSdkCallPort} {adapter after : BaresipSdkEventAdapter}
  {answers : CallAnswers} {token : UInt64}

/-- The port calls the SDK for the call that the adapter holds, which is not hung up. -/
structure Holds (port : BaresipSdkCallPort) (adapter : BaresipSdkEventAdapter) (token : UInt64) :
    Prop where
  active : adapter.active = true
  session : adapter.captured.mailboxSession = port.capturedSession
  token : adapter.activeToken = token
  call : adapter.activeCall ≠ 0
  unhung : adapter.hangupSent = false

theorem resolve_isSome {uaIsregistered : Bool}
    (resolved : (port.resolve adapter uaIsregistered token).isSome = true) :
    adapter.active = true ∧ adapter.captured.mailboxSession = port.capturedSession ∧
      adapter.activeToken = token ∧ adapter.activeCall ≠ 0 := by
  unfold resolve at resolved
  split at resolved
  · cases resolved
  · next allowed =>
      simp only [ownsSession, Bool.or_eq_true, Bool.not_eq_true', decide_eq_true_eq, not_or,
        Bool.not_eq_false, Bool.and_eq_true] at allowed
      obtain ⟨⟨⟨⟨⟨⟨⟨-, active⟩, session⟩, -⟩, -⟩, -⟩, same⟩, call⟩ := allowed
      exact ⟨active, session, (not_not.mp same).symm, call⟩

theorem holds_of_established {uaIsregistered : Bool}
    (established : port.established adapter uaIsregistered token = true) :
    Holds port adapter token ∧ adapter.callEstablished = true := by
  simp only [BaresipSdkCallPort.established, Bool.and_eq_true, Bool.not_eq_true'] at established
  obtain ⟨⟨resolved, talking⟩, unhung⟩ := established
  obtain ⟨active, session, same, call⟩ := resolve_isSome resolved
  exact ⟨⟨active, session, same, call, unhung⟩, talking⟩

/-- What the port has found, and what it has noted, before it calls the SDK. -/
structure Asks (port : BaresipSdkCallPort) (adapter : BaresipSdkEventAdapter) (token : UInt64)
    (action : NativeCallAction) (after : BaresipSdkEventAdapter) : Prop where
  holds : Holds port adapter token
  notes : NotesMore adapter after
  hangup : action = .hangup → after.hangupSent = true
  answer : action = .answer → adapter.activeIncoming = true ∧ adapter.callEstablished = false ∧
    adapter.answerSent = false ∧ after.answerSent = true
  transfer : action = .transfer → adapter.transferAttempted = false ∧ after.transferAttempted = true
  dtmf : action = .dtmf → adapter.transferAttempted = false
  media : action ≠ .answer → action ≠ .hangup → adapter.callEstablished = true

theorem answer_asks (asked : port.answer adapter answers token = some after) :
    Asks port adapter token .answer after := by
  unfold answer at asked
  split at asked
  · cases asked
  · next allowed =>
      cases asked
      simp only [Bool.or_eq_true, not_or, Bool.not_eq_true, Option.isNone_eq_false_iff,
        Bool.not_eq_false'] at allowed
      obtain ⟨⟨⟨⟨resolved, incoming⟩, opening⟩, unanswered⟩, unhung⟩ := allowed
      obtain ⟨active, session, same, call⟩ := resolve_isSome resolved
      refine ⟨⟨active, session, same, call, unhung⟩, ⟨⟨_, _, _, _, rfl⟩, fun note on => ?_⟩, nofun,
        fun _ => ⟨incoming, opening, unanswered, rfl⟩, nofun, nofun, fun other => absurd rfl other⟩
      cases note with
      | answered => rfl
      | hungUp | transferred => exact on

theorem hangup_asks (asked : port.hangup adapter answers token = some after) :
    Asks port adapter token .hangup after := by
  unfold hangup at asked
  split at asked
  · cases asked
  · next allowed =>
      cases asked
      simp only [Bool.or_eq_true, not_or, Bool.not_eq_true, Option.isNone_eq_false_iff] at allowed
      obtain ⟨active, session, same, call⟩ := resolve_isSome allowed.1
      refine ⟨⟨active, session, same, call, allowed.2⟩, ⟨⟨_, _, _, _, rfl⟩, fun note on => ?_⟩,
        fun _ => rfl, nofun, nofun, nofun, fun _ other => absurd rfl other⟩
      cases note with
      | hungUp => rfl
      | answered | transferred => exact on

theorem transfer_asks {uri : Bytes}
    (asked : port.transfer adapter ctype answers token uri = .ok after) :
    Asks port adapter token .transfer after := by
  unfold transfer at asked
  split at asked
  · cases asked
  split at asked
  · cases asked
  · next established =>
      split at asked
      · cases asked
      · next first =>
          cases asked
          obtain ⟨holds, talking⟩ := holds_of_established (by simpa using established)
          refine ⟨holds, ⟨⟨_, _, _, _, rfl⟩, fun note on => ?_⟩, nofun, nofun,
            fun _ => ⟨by simpa using first, rfl⟩, nofun, fun _ _ => talking⟩
          cases note with
          | transferred => rfl
          | hungUp | answered => exact on

theorem setMuted_asks (asked : port.setMuted adapter answers token = some after) :
    Asks port adapter token .setMute after := by
  unfold setMuted at asked
  split at asked
  · cases asked
  · next established =>
      cases asked
      obtain ⟨holds, talking⟩ := holds_of_established (by
        simp only [Bool.or_eq_true, Bool.not_eq_true', not_or, Bool.not_eq_false] at established
        exact established.1)
      exact ⟨holds, notesMore_refl adapter, nofun, nofun, nofun, nofun, fun _ _ => talking⟩

theorem setHeld_asks {desired : Bool}
    (asked : port.setHeld adapter answers token desired = .ok after) :
    Asks port adapter token .setHold after := by
  unfold setHeld at asked
  split at asked
  · cases asked
  · next established =>
      split at asked
      · cases asked
      · cases asked
        obtain ⟨holds, talking⟩ := holds_of_established (by simpa using established)
        exact ⟨holds, notesMore_refl adapter, nofun, nofun, nofun, nofun, fun _ _ => talking⟩

theorem sendDtmfInfo_asks {key : UInt8}
    (asked : port.sendDtmfInfo adapter answers token key = .ok after) :
    Asks port adapter token .dtmf after := by
  unfold sendDtmfInfo at asked
  split at asked
  · cases asked
  split at asked
  · cases asked
  · next allowed =>
      split at asked
      · cases asked
      · cases asked
        simp only [Bool.or_eq_true, Bool.not_eq_true', not_or, Bool.not_eq_false] at allowed
        obtain ⟨holds, talking⟩ := holds_of_established allowed.1.1
        exact ⟨holds, notesMore_refl adapter, nofun, nofun, nofun,
          fun _ => by simpa using allowed.1.2, fun _ _ => talking⟩

theorem transferred_notesMore (port : BaresipSdkCallPort) (adapter : BaresipSdkEventAdapter)
    (uaIsregistered : Bool) (token : UInt64) (error : Int32) :
    NotesMore adapter (port.transferred adapter uaIsregistered token error) := by
  unfold transferred
  split
  · refine ⟨⟨_, _, _, _, rfl⟩, fun note on => ?_⟩
    cases note <;> exact on
  · exact notesMore_refl adapter

end BaresipSdkCallPort

namespace BaresipSdkEventAdapter

variable {adapter : BaresipSdkEventAdapter}

/-- Behind an event there is no call, or the notes of the call are as they were. -/
def NotesStand (adapter after : BaresipSdkEventAdapter) : Prop :=
  adapter.activeCall ≠ 0 → after.activeCall = 0 ∨ ∀ note : PortNote, note.on after = note.on adapter

theorem notesStand_refl (adapter : BaresipSdkEventAdapter) : NotesStand adapter adapter :=
  fun _ => .inr fun _ => rfl

theorem notesStand_closed {adapter after : BaresipSdkEventAdapter} (closed : after.activeCall = 0) :
    NotesStand adapter after := fun _ => .inl closed

theorem publishRegistration_notes (captured : CapturedSession) (kind : BaresipEventKind)
    (registered : Bool) :
    NotesStand adapter (adapter.publishRegistration captured kind registered) := by
  unfold publishRegistration
  dsimp only
  split
  · exact notesStand_closed rfl
  · exact fun _ => .inr fun note => by cases note <;> rfl

theorem openCall_notes (captured : CapturedSession) (incoming : Bool) (call : Address)
    (uaIsregistered : Nat → Bool) :
    NotesStand adapter (adapter.openCall captured incoming call uaIsregistered) := by
  intro busy
  left
  unfold openCall
  split
  · rfl
  split
  · rfl
  · rw [if_pos (.inr (.inl busy))]
    rfl

theorem changeCall_notes (captured : CapturedSession) (closed : Bool) (call : Address) :
    NotesStand adapter (adapter.changeCall captured closed call) := by
  unfold changeCall
  split
  · exact notesStand_closed rfl
  cases closed with
  | true =>
      simp only [if_true]
      split
      · exact notesStand_closed rfl
      · exact notesStand_closed rfl
  | false =>
      simp only [Bool.false_eq_true, if_false]
      split
      · exact notesStand_closed rfl
      · exact fun _ => .inr fun note => by cases note <;> rfl

theorem onOwnedEvent_notes (captured : CapturedSession) (type : BeventEv) (event : Bevent)
    (uaIsregistered : Nat → Bool) :
    NotesStand adapter (adapter.onOwnedEvent captured type event uaIsregistered) := by
  cases type with
  | audioError => exact notesStand_closed rfl
  | registering =>
      simp only [onOwnedEvent]
      split
      · split
        · exact notesStand_closed rfl
        · exact notesStand_refl adapter
      · exact publishRegistration_notes _ _ _
  | registerOk =>
      simp only [onOwnedEvent]
      split
      · exact notesStand_closed rfl
      split
      · exact notesStand_refl adapter
      · exact publishRegistration_notes _ _ _
  | registerFail => exact publishRegistration_notes captured .registerFail false
  | unregistering => exact publishRegistration_notes captured .unregistering false
  | callTransferFailed =>
      simp only [onOwnedEvent]
      split
      · exact fun _ => .inr fun note => by cases note <;> rfl
      · exact notesStand_refl adapter
  | callIncoming => exact openCall_notes captured true event.call uaIsregistered
  | callOutgoing => exact openCall_notes captured false event.call uaIsregistered
  | callEstablished => exact changeCall_notes captured false event.call
  | callClosed => exact changeCall_notes captured true event.call
  | exit | shutdown | unsupported => exact notesStand_refl adapter

theorem onEvent_notes (captured : CapturedSession) (type : BeventEv) (event : Option Bevent)
    (uaIsregistered : Nat → Bool) :
    NotesStand adapter (adapter.onEvent captured type event uaIsregistered) := by
  unfold onEvent
  split
  · exact notesStand_refl adapter
  cases type with
  | exit => exact notesStand_closed rfl
  | unsupported code => exact notesStand_refl adapter
  | _ =>
      cases event with
      | none => exact notesStand_refl adapter
      | some event =>
          dsimp only
          split
          · exact notesStand_refl adapter
          split
          · exact notesStand_closed rfl
          · exact onOwnedEvent_notes _ _ _ _

theorem callback_notes (type : BeventEv) (event : Option Bevent) (context : Option Nat)
    (uaIsregistered : Nat → Bool) :
    NotesStand adapter (adapter.callback type event context uaIsregistered) := by
  unfold callback
  split
  · exact notesStand_refl adapter
  next captured _ =>
  split
  · exact notesStand_refl adapter
  next lifecycle _ =>
  intro busy
  have stands : NotesStand { adapter with lifecycle := lifecycle } _ :=
    onEvent_notes captured type event uaIsregistered
  rcases stands busy with closed | same
  · exact .inl closed
  · refine .inr fun note => ?_
    have kept := same note
    cases note <;> exact kept

/-- Everything that the owner, or the SDK, does to the adapter. -/
inductive AdapterMove (adapter : BaresipSdkEventAdapter) : BaresipSdkEventAdapter → Prop
  | noted {after : BaresipSdkEventAdapter} (notes : NotesMore adapter after) :
      AdapterMove adapter after
  | started (ownedUa : Address) (outcome : StartOutcome) :
      AdapterMove adapter (adapter.start ownedUa outcome).2
  | stopped : AdapterMove adapter adapter.stop
  | heard (delivery : Delivery) (context : Option Nat) :
      AdapterMove adapter
        (adapter.callback delivery.type delivery.event context delivery.uaIsregistered)
  | drained : AdapterMove adapter (adapter.withMailbox adapter.mailbox.drain.2)

/-- The tokens of a session are minted in increasing order. -/
structure Minting (adapter : BaresipSdkEventAdapter) : Prop where
  sound : adapter.Sound
  minted : adapter.active = true → adapter.activeToken ≤ adapter.nativeKey

theorem minting_initial : Minting {} := ⟨sound_initial, nofun⟩

theorem Sound.noted {after : BaresipSdkEventAdapter} (sound : adapter.Sound)
    (same : SameButNotes adapter after) : after.Sound := by
  obtain ⟨hangupSent, answerSent, transferAttempted, transferFailed, rfl⟩ := same
  exact ⟨sound.quiet, sound.epochs, sound.issued, fun active =>
    (sound.kept active).imp fun _ represents => { represents with }⟩

/-- The active call of a session, behind an event that another call may have begun with. -/
inductive CallFollows (adapter after : BaresipSdkEventAdapter) : Prop
  | ended (inactive : after.active = false)
  | minted (fresh : adapter.nativeKey < after.nativeKey)
      (newest : after.activeToken = after.nativeKey)
      (session : after.captured.mailboxSession = adapter.captured.mailboxSession)
  | kept (count : after.nativeKey = adapter.nativeKey)
      (token : after.activeToken = adapter.activeToken ∨ after.activeToken = 0)
      (session : after.captured.mailboxSession = adapter.captured.mailboxSession)

theorem Represents.activeToken {session : SdkSession} (represents : adapter.Represents session) :
    adapter.activeToken = (session.call.map SdkCall.token).getD 0 := by
  have call := represents.call
  cases held : session.call with
  | none =>
      rw [held] at call
      exact call.2.1
  | some active =>
      rw [held] at call
      exact call.2.2.1

/-- An event of the SDK keeps the call, ends it, or begins one with the next token. -/
theorem callback_followed {session : SdkSession} (represents : adapter.Represents session)
    (delivery : Delivery) (context : Option Nat) :
    CallFollows adapter
      (adapter.callback delivery.type delivery.event context delivery.uaIsregistered) := by
  have follows := callback_follows represents delivery context
  generalize adapter.callback delivery.type delivery.event context delivery.uaIsregistered = after
    at follows
  rcases follows with rfl | follows
  · exact .kept rfl (.inl rfl) rfl
  cases reacted : session.react adapter.owner delivery with
  | closes =>
      rw [reacted] at follows
      exact .ended (inactive_of_uncaptured follows)
  | stays =>
      rw [reacted] at follows
      obtain ⟨next, lifecycle⟩ := follows
      have mailbox : after.mailbox.session = adapter.mailbox.session := by
        rw [BaresipSdkEventAdapter.mailbox, lifecycle]
        rfl
      exact .kept (next.nativeKey.trans represents.nativeKey.symm)
        (.inl (next.activeToken.trans represents.activeToken.symm))
        (represents.captured_eq next mailbox)
  | publishes kind token session' =>
      rw [reacted] at follows
      simp only [Follows] at follows
      split at follows
      · exact .ended (inactive_of_uncaptured follows)
      next room =>
      obtain ⟨next, -, mailbox⟩ := follows
      have current := (represents.enqueued room kind token).2
      have same : after.captured.mailboxSession = adapter.captured.mailboxSession := by
        refine represents.captured_eq next ?_
        rw [mailbox, current]
        exact represents.opened.mailbox.symm
      have count := next.nativeKey
      have shown := next.activeToken
      have before := represents.activeToken
      have minted := represents.nativeKey
      cases SdkSession.react_published reacted with
      | registering | registerOk | registerFail | unregistering =>
          exact .kept (count.trans minted.symm) (.inl (shown.trans before.symm)) same
      | opened incoming pointer registered free available =>
          refine .minted ?_ (shown.trans count.symm) same
          rw [count, minted]
          grind
      | established call held =>
          refine .kept (count.trans minted.symm) (.inl ?_) same
          rw [shown, before, held]
          rfl
      | closed call held => exact .kept (count.trans minted.symm) (.inr shown) same

theorem Represents.idle_iff {session : SdkSession} (represents : adapter.Represents session) :
    adapter.activeToken = 0 ↔ adapter.activeCall = 0 := by
  have call := represents.call
  cases held : session.call with
  | none =>
      rw [held] at call
      simp [call.1, call.2.1]
  | some active =>
      rw [held] at call
      simp [call.1, call.2.1, call.2.2.1, call.2.2.2.1]

theorem Minting.moved {after : BaresipSdkEventAdapter} (minting : Minting adapter)
    (move : AdapterMove adapter after) : Minting after := by
  obtain ⟨sound, minted⟩ := minting
  cases move with
  | noted notes =>
      refine ⟨sound.noted notes.same, ?_⟩
      obtain ⟨hangupSent, answerSent, transferAttempted, transferFailed, rfl⟩ := notes.same
      exact minted
  | started ownedUa outcome =>
      have started := start_started sound ownedUa outcome
      generalize adapter.start ownedUa outcome = result at started
      obtain ⟨accepted, after⟩ := result
      cases started with
      | refused => exact ⟨sound, minted⟩
      | failed stopped sound advances =>
          refine ⟨sound, fun active => ?_⟩
          cases (inactive_of_unregistered stopped).symm.trans active
      | begun represents sound newSession issued queued =>
          refine ⟨sound, fun _ => ?_⟩
          rw [represents.activeToken]
          exact UInt64.zero_le
  | stopped =>
      obtain ⟨stopped, inactive, -⟩ := stop_sound sound
      exact ⟨stopped, fun active => by cases inactive.symm.trans active⟩
  | heard delivery context =>
      refine ⟨sound.callback delivery context, fun active => ?_⟩
      by_cases before : adapter.active = true
      · obtain ⟨session, represents⟩ := sound.kept before
        cases callback_followed represents delivery context with
        | ended inactive => cases inactive.symm.trans active
        | minted fresh newest session => exact UInt64.le_of_eq newest
        | kept count token session =>
            rw [count]
            rcases token with same | none_
            · exact same ▸ minted before
            · exact none_ ▸ UInt64.zero_le
      · rw [callback_inactive (by simpa using before)] at active
        exact absurd active before
  | drained => exact ⟨sound.drained, minted⟩

/-- The note stands for the call of the session, as long as the adapter holds the call. -/
structure Marked (note : PortNote) (session token : UInt64) (adapter : BaresipSdkEventAdapter) :
    Prop where
  real : token ≠ 0
  issued : session ≤ adapter.mailbox.generation
  minted : adapter.active = true → adapter.captured.mailboxSession = session →
    token ≤ adapter.nativeKey
  noted : adapter.active = true → adapter.captured.mailboxSession = session →
    adapter.activeToken = token → note.on adapter = true

theorem Marked.heard {note : PortNote} {session token : UInt64} (sound : adapter.Sound)
    (marked : Marked note session token adapter) (delivery : Delivery) (context : Option Nat) :
    Marked note session token
      (adapter.callback delivery.type delivery.event context delivery.uaIsregistered) := by
  by_cases before : adapter.active = true
  rotate_left
  · rw [callback_inactive (by simpa using before)]
    exact marked
  obtain ⟨kept, represents⟩ := sound.kept before
  have keeps := callback_keeps adapter delivery.type delivery.event context delivery.uaIsregistered
  have next := (sound.callback delivery context).kept
  have stands : NotesStand adapter _ :=
    callback_notes delivery.type delivery.event context delivery.uaIsregistered
  have followed := callback_followed represents delivery context
  generalize adapter.callback delivery.type delivery.event context delivery.uaIsregistered = after
    at keeps next stands followed
  have issued : session ≤ after.mailbox.generation := by
    rw [BaresipSdkEventAdapter.mailbox, keeps.mailbox.1]
    exact marked.issued
  cases followed with
  | ended inactive =>
      refine ⟨marked.real, issued, fun active => ?_, fun active => ?_⟩
      · cases inactive.symm.trans active
      · cases inactive.symm.trans active
  | minted fresh newest same =>
      refine ⟨marked.real, issued, fun _ current => ?_, fun _ current token_eq => ?_⟩
      · exact UInt64.le_of_lt (UInt64.lt_of_le_of_lt (marked.minted before (same ▸ current)) fresh)
      · have below := UInt64.lt_of_le_of_lt (marked.minted before (same ▸ current)) fresh
        rw [← newest, token_eq] at below
        exact absurd below (UInt64.lt_irrefl token)
  | kept count token_eq same =>
      refine ⟨marked.real, issued, fun _ current => count ▸ marked.minted before (same ▸ current),
        fun active current held => ?_⟩
      have holds : adapter.activeToken = token := by
        rcases token_eq with kept | none_
        · exact kept.symm.trans held
        · exact absurd (held.symm.trans none_) marked.real
      have busy : adapter.activeCall ≠ 0 := fun idle =>
        marked.real (holds.symm.trans (represents.idle_iff.mpr idle))
      obtain ⟨session', represents'⟩ := next active
      rcases stands busy with closed | notes
      · exact absurd (held.symm.trans (represents'.idle_iff.mpr closed)) marked.real
      · exact (notes note).trans (marked.noted before (same ▸ current) holds)

/-- Nothing takes the note back while the call lives, and no other call gets its token. -/
theorem Marked.moved {note : PortNote} {session token : UInt64} {after : BaresipSdkEventAdapter}
    (sound : adapter.Sound) (marked : Marked note session token adapter)
    (move : AdapterMove adapter after) : Marked note session token after := by
  cases move with
  | noted notes =>
      have kept := notes.kept note
      obtain ⟨hangupSent, answerSent, transferAttempted, transferFailed, rfl⟩ := notes.same
      exact ⟨marked.real, marked.issued, marked.minted, fun active current held =>
        kept (marked.noted active current held)⟩
  | started ownedUa outcome =>
      have started := start_started sound ownedUa outcome
      generalize adapter.start ownedUa outcome = result at started
      obtain ⟨accepted, after⟩ := result
      cases started with
      | refused => exact marked
      | failed stopped sound advances =>
          have inactive := inactive_of_unregistered stopped
          refine ⟨marked.real, UInt64.le_trans marked.issued advances.issued, fun active => ?_,
            fun active => ?_⟩
          · cases inactive.symm.trans active
          · cases inactive.symm.trans active
      | begun represents sound newSession number queued =>
          have later := UInt64.lt_of_le_of_lt marked.issued newSession
          have other (current : after.captured.mailboxSession = session) : False := by
            rw [current] at later
            exact UInt64.lt_irrefl session later
          refine ⟨marked.real, ?_, fun _ current => (other current).elim,
            fun _ current => (other current).elim⟩
          rw [number] at later
          exact UInt64.le_of_lt later
  | stopped =>
      obtain ⟨-, inactive, advances⟩ := stop_sound sound
      refine ⟨marked.real, UInt64.le_trans marked.issued advances.issued, fun active => ?_,
        fun active => ?_⟩
      · cases inactive.symm.trans active
      · cases inactive.symm.trans active
  | heard delivery context => exact marked.heard sound delivery context
  | drained => exact ⟨marked.real, marked.issued, marked.minted, marked.noted⟩

end BaresipSdkEventAdapter

/-! ## The moves of the owner -/

/-- The owner is inside a function of the SDK. -/
def EnginePoint.insideSdk : EnginePoint → Bool
  | .calling .. => true
  | _ => false

open BaresipSdkCallPort BaresipSdkEventAdapter

namespace CallEngine

variable (state : CallEngine width)

/-- What an admitted command comes to. -/
inductive DispatchFate (state : CallEngine width) (observed : SipRuntimeObservation)
    (port : BaresipSdkCallPort) (pending : NativeCallCommand) :
    CallObserved → CallEngine width → Prop
  | refused {output : CallObserved} {after : CallEngine width} (undialed : output ≠ .dials)
      (outside : after.point.insideSdk = false)
      (adapter : after.sdk.adapter = state.sdk.adapter ∨
        after.sdk.adapter = state.sdk.adapter.stop) :
      DispatchFate state observed port pending output after
  | dialing {after : CallEngine width} (dials : pending.action = .dial)
      (registered : observed.sip = .registered) (free : observed.callId = 0)
      (adapter : after.sdk.adapter = state.sdk.adapter) :
      DispatchFate state observed port pending .dials after
  | asked {after : CallEngine width}
      (asks : Asks port state.sdk.adapter observed.callId pending.action after.sdk.adapter) :
      DispatchFate state observed port pending
        (.invoked pending.action port.capturedSession observed.callId) after

theorem concluded_refused (observed : SipRuntimeObservation) (port : BaresipSdkCallPort)
    (effect : CallEffect) :
    (state.concluded observed port effect).point.insideSdk = false ∧
      ((state.concluded observed port effect).sdk.adapter = state.sdk.adapter ∨
        (state.concluded observed port effect).sdk.adapter = state.sdk.adapter.stop) := by
  cases effect with
  | lost => exact ⟨rfl, .inr rfl⟩
  | applied | dtmf | muted | held => exact ⟨rfl, .inl rfl⟩

theorem dispatch_fate (ctype : WideCtype width) (observed : SipRuntimeObservation)
    (port : BaresipSdkCallPort) (pending : NativeCallCommand) (answers : TickAnswers width) :
    DispatchFate state observed port pending
      (state.dispatch ctype observed port pending answers).1
      (state.dispatch ctype observed port pending answers).2 := by
  have passed : DispatchFate state observed port pending .nothing
      { state with point := .republishing observed port } :=
    .refused CallObserved.noConfusion rfl (.inl rfl)
  have concluded {output : CallObserved} (undialed : output ≠ .dials) (effect : CallEffect) :
      DispatchFate state observed port pending output (state.concluded observed port effect) :=
    have refused := state.concluded_refused observed port effect
    .refused undialed refused.1 refused.2
  rw [dispatch.eq_def]
  cases action : pending.action with
  | none => exact passed
  | dial =>
      dsimp only
      split
      · next free =>
          simp only [Bool.and_eq_true, decide_eq_true_eq] at free
          exact .dialing action free.1 free.2 rfl
      · exact passed
  | answer =>
      dsimp only
      split
      · cases asked : port.answer state.sdk.adapter answers.call observed.callId with
        | none => exact concluded CallObserved.noConfusion .lost
        | some adapter =>
            rw [← action]
            exact .asked (action ▸ answer_asks asked)
      · exact passed
  | hangup =>
      dsimp only
      split
      · cases asked : port.hangup state.sdk.adapter answers.call observed.callId with
        | none => exact concluded CallObserved.noConfusion .lost
        | some adapter =>
            rw [← action]
            exact .asked (action ▸ hangup_asks asked)
      · exact passed
  | dtmf =>
      dsimp only
      split
      · exact concluded CallObserved.noConfusion _
      · next asked =>
          rw [← action]
          exact .asked (action ▸ sendDtmfInfo_asks asked)
  | transfer =>
      dsimp only
      split
      · exact .refused CallObserved.noConfusion rfl (.inl rfl)
      · next asked =>
          rw [← action]
          exact .asked (action ▸ transfer_asks asked)
  | setMute =>
      dsimp only
      cases asked : port.setMuted state.sdk.adapter answers.call observed.callId with
      | none => exact concluded CallObserved.noConfusion (.muted false)
      | some adapter =>
          rw [← action]
          exact .asked (action ▸ setMuted_asks asked)
  | setHold =>
      dsimp only
      split
      · dsimp only
        split
        · exact concluded CallObserved.noConfusion _
        · next asked =>
            rw [← action]
            exact .asked (action ▸ setHeld_asks asked)
      · exact passed

end CallEngine

/-- The adapter takes a few moves, or none. -/
abbrev AdapterPath := Relation.ReflTransGen AdapterMove

theorem adapterPath_stop {before after : BaresipSdkEventAdapter}
    (same : after = before ∨ after = before.stop) : AdapterPath before after := by
  rcases same with rfl | rfl
  · exact .refl
  · exact .single .stopped

namespace CallEngine

variable (state : CallEngine width)

theorem beginTick_path (answers : TickAnswers width) :
    AdapterPath state.sdk.adapter (state.beginTick answers).sdk.adapter := by
  unfold beginTick
  split
  · exact .refl
  dsimp only [judge]
  split
  · exact .tail (.single .drained) .stopped
  · exact .single .drained

theorem ownerStep_path (ctype : WideCtype width) (answers : TickAnswers width) :
    AdapterPath state.sdk.adapter (state.ownerStep ctype answers).2.sdk.adapter := by
  cases point : state.point with
  | idle | publishing | taking | republishing | failing | ending =>
      simp only [ownerStep, point]
      exact .refl
  | checking observed port pending =>
      simp only [ownerStep, point]
      rw [(state.check_checks ctype observed port pending answers).sdk]
  | dispatching observed port pending =>
      simp only [ownerStep, point]
      have fate := state.dispatch_fate ctype observed port pending answers
      generalize state.dispatch ctype observed port pending answers = result at fate
      obtain ⟨output, after⟩ := result
      cases fate with
      | refused undialed outside same => exact adapterPath_stop same
      | dialing dials registered free same => exact adapterPath_stop (.inl same)
      | asked asks => exact .single (.noted asks.notes)
  | calling observed port pending =>
      simp only [ownerStep, point]
      cases action : pending.action with
      | transfer =>
          simp only [returned, action]
          exact .single (.noted (port.transferred_notesMore _ _ _ _))
      | none | dial | answer | hangup | setMute | setHold | dtmf =>
          simp only [returned, action]
          exact adapterPath_stop (state.concluded_refused observed port _).2

end CallEngine

theorem callStep_path (ctype : WideCtype width) (state : CallEngine width) (move : CallMove width) :
    AdapterPath state.sdk.adapter (callStep ctype state move).2.sdk.adapter := by
  cases move with
  | submit | ui | throws => exact .refl
  | begin ownedUa outcome now =>
      simp only [callStep, CallEngine.beginAdapter]
      split
      · exact .refl
      split
      · exact .tail (.single (.started ownedUa outcome)) .stopped
      · exact .single (.started ownedUa outcome)
  | beginFails =>
      simp only [callStep]
      split
      · exact .refl
      · exact .single .stopped
  | tick answers =>
      simp only [callStep]
      split
      · exact .refl
      · exact state.beginTick_path answers
  | owner answers => exact state.ownerStep_path ctype answers
  | deliver delivery context =>
      simp only [callStep]
      split
      · exact .refl
      · exact .single (.heard delivery context)
  | ends fault =>
      simp only [callStep]
      split
      · exact .refl
      · exact .single .stopped

theorem BaresipSdkEventAdapter.Minting.path {before after : BaresipSdkEventAdapter}
    (minting : Minting before) (path : AdapterPath before after) : Minting after := by
  induction path with
  | refl => exact minting
  | tail _ move ih => exact ih.moved move

theorem BaresipSdkEventAdapter.Marked.path {before after : BaresipSdkEventAdapter}
    {note : PortNote} {session token : UInt64} (minting : Minting before)
    (marked : Marked note session token before) (path : AdapterPath before after) :
    Marked note session token after := by
  have both : Minting after ∧ Marked note session token after := by
    induction path with
    | refl => exact ⟨minting, marked⟩
    | tail _ move ih => exact ⟨ih.1.moved move, ih.2.moved ih.1.sound move⟩
  exact both.2

/-- The port calls the SDK for the action on the call. -/
def CallsSdk (stage : CallStage width) (action : NativeCallAction) (session token : UInt64) :
    Prop :=
  stage.output = .invoked action session token ∧ stage.after.point.insideSdk = true

/-- The port for the stage finds the call as the action needs it, and notes the action. -/
theorem callsSdk_asks {state : CallEngine width} {move : CallMove width}
    {action : NativeCallAction} {session token : UInt64}
    (calls : CallsSdk (stageOf (callStep ctype) state move) action session token) :
    ∃ port : BaresipSdkCallPort, port.capturedSession = session ∧
      Asks port state.sdk.adapter token action (callStep ctype state move).2.sdk.adapter := by
  obtain ⟨shown, inside⟩ := calls
  obtain ⟨observed, port, pending, point, -⟩ := callStep_invoked shown
  cases move with
  | owner answers =>
      simp only [stageOf, callStep, CallEngine.ownerStep, point] at shown inside ⊢
      have fate := state.dispatch_fate ctype observed port pending answers
      generalize state.dispatch ctype observed port pending answers = result at fate shown inside
      obtain ⟨output, after⟩ := result
      cases fate with
      | refused undialed outside same => cases outside.symm.trans inside
      | dialing => cases shown
      | asked asks =>
          cases shown
          exact ⟨port, rfl, asks⟩
  | submit | ui | throws => cases shown
  | begin | beginFails | tick | deliver | ends =>
      simp only [stageOf, callStep] at shown
      split at shown <;> cases shown

/-- What the port calls the SDK for leaves its mark. -/
theorem marked_of_calls {state : CallEngine width} (minting : Minting state.sdk.adapter)
    {move : CallMove width} {action : NativeCallAction} {session token : UInt64}
    (calls : CallsSdk (stageOf (callStep ctype) state move) action session token)
    {note : PortNote} (noted : note.on (callStep ctype state move).2.sdk.adapter = true) :
    Marked note session token (callStep ctype state move).2.sdk.adapter := by
  obtain ⟨port, rfl, asks⟩ := callsSdk_asks calls
  obtain ⟨kept, represents⟩ := minting.sound.kept asks.holds.active
  obtain ⟨hangupSent, answerSent, transferAttempted, transferFailed, same⟩ := asks.notes.same
  have current : state.sdk.adapter.mailbox.session = port.capturedSession :=
    represents.opened.mailbox.trans asks.holds.session
  have token_le := minting.minted asks.holds.active
  rw [asks.holds.token] at token_le
  rw [same] at noted ⊢
  refine ⟨fun none_ => ?_, ?_, fun _ _ => token_le, fun _ _ _ => noted⟩
  · exact asks.holds.call (represents.idle_iff.mp (asks.holds.token.trans none_))
  · rw [← current]
    exact minting.sound.issued

/-- What the owner asks of the SDK for its calls. -/
structure SparesCalls (run : List (CallStage width)) : Prop where
  /-- The adapter holds the call, and nothing has hung it up. -/
  held : ∀ stage ∈ run, ∀ action session token, CallsSdk stage action session token →
    stage.before.sdk.adapter.session = session ∧ stage.before.sdk.adapter.activeToken = token ∧
      stage.before.sdk.adapter.activeCall ≠ 0 ∧ stage.before.sdk.adapter.hangupSent = false
  /-- Only a call that came in, and waits, is answered; the rest needs an established call. -/
  fitting : ∀ stage ∈ run, ∀ action session token, CallsSdk stage action session token →
    (action = .answer → stage.before.sdk.adapter.callView = .ringing token) ∧
      (action ≠ .answer → action ≠ .hangup → stage.before.sdk.adapter.callView = .inCall token)
  answeredOnce : run.Pairwise fun earlier later => ∀ session token,
    CallsSdk earlier .answer session token → ¬ CallsSdk later .answer session token
  transferredOnce : run.Pairwise fun earlier later => ∀ session token,
    CallsSdk earlier .transfer session token → ¬ CallsSdk later .transfer session token
  noDigitsAfterTransfer : run.Pairwise fun earlier later => ∀ session token,
    CallsSdk earlier .transfer session token → ¬ CallsSdk later .dtmf session token
  hungUpLast : run.Pairwise fun earlier later => ∀ session token,
    CallsSdk earlier .hangup session token → ∀ action, ¬ CallsSdk later action session token
  /-- Behind a callback there is no call, or its notes are as they were. -/
  noted : ∀ stage ∈ run, ∀ delivery context, stage.input = .deliver delivery context →
    NotesStand stage.before.sdk.adapter stage.after.sdk.adapter

/-- A note that one action leaves, and that another action refuses, keeps them in this order. -/
theorem calls_pairwise (ctype : WideCtype width) (note : PortNote)
    (first second : NativeCallAction)
    (leaves : ∀ {port : BaresipSdkCallPort} {adapter after : BaresipSdkEventAdapter}
      {token : UInt64}, Asks port adapter token first after → note.on after = true)
    (refuses : ∀ {port : BaresipSdkCallPort} {adapter after : BaresipSdkEventAdapter}
      {token : UInt64}, Asks port adapter token second after → note.on adapter = false)
    (moves : List (CallMove width)) :
    (stages (callStep ctype) {} moves).Pairwise fun earlier later => ∀ session token,
      CallsSdk earlier first session token → ¬ CallsSdk later second session token := by
  refine stages_pairwise (fun state => Minting state.sdk.adapter)
    (fun earlier state => ∀ session token, CallsSdk earlier first session token →
      Marked note session token state.sdk.adapter) _ ?_ ?_ ?_ ?_ minting_initial moves
  · exact fun state move minting => minting.path (callStep_path ctype state move)
  · intro state move minting session token calls
    obtain ⟨port, -, asks⟩ := callsSdk_asks calls
    exact marked_of_calls minting calls (leaves asks)
  · exact fun earlier state move minting marked session token calls =>
      (marked session token calls).path minting (callStep_path ctype state move)
  · intro earlier state move minting marked session token calls again
    obtain ⟨port, rfl, asks⟩ := callsSdk_asks again
    have noted := (marked _ token calls).noted asks.holds.active asks.holds.session asks.holds.token
    cases (refuses asks).symm.trans noted

/-- A callback, whether or not the SDK is there to deliver it. -/
theorem deliver_notes (state : CallEngine width) (delivery : Delivery) (context : Option Nat) :
    NotesStand state.sdk.adapter
      (callStep ctype state (.deliver delivery context)).2.sdk.adapter := by
  simp only [callStep]
  split
  · exact notesStand_refl _
  · exact callback_notes delivery.type delivery.event context delivery.uaIsregistered

theorem owner_spares_calls (ctype : WideCtype width) (moves : List (CallMove width)) :
    SparesCalls (stages (callStep ctype) {} moves) := by
  have each : ∀ stage ∈ stages (callStep ctype) {} moves, ∀ action session token,
      CallsSdk stage action session token → ∃ port : BaresipSdkCallPort,
        port.capturedSession = session ∧
          Asks port stage.before.sdk.adapter token action stage.after.sdk.adapter :=
    stages_forall_of_step _ (fun _ _ _ _ _ calls => callsSdk_asks calls) ({} : CallEngine width)
      moves
  refine ⟨?_, ?_, ?_, ?_, ?_, ?_, ?_⟩
  · intro stage member action session token calls
    obtain ⟨port, rfl, asks⟩ := each stage member action session token calls
    refine ⟨?_, asks.holds.token, asks.holds.call, asks.holds.unhung⟩
    rw [BaresipSdkEventAdapter.session, if_pos asks.holds.active, asks.holds.session]
  · intro stage member action session token calls
    obtain ⟨port, rfl, asks⟩ := each stage member action session token calls
    constructor
    · intro answer
      obtain ⟨incoming, opening, -⟩ := asks.answer answer
      simp [BaresipSdkEventAdapter.callView, asks.holds.call, asks.holds.token, incoming, opening]
    · intro other hangup
      have talking := asks.media other hangup
      simp [BaresipSdkEventAdapter.callView, asks.holds.call, asks.holds.token, talking]
  · exact calls_pairwise ctype .answered .answer .answer (fun asks => (asks.answer rfl).2.2.2)
      (fun asks => (asks.answer rfl).2.2.1) moves
  · exact calls_pairwise ctype .transferred .transfer .transfer
      (fun asks => (asks.transfer rfl).2) (fun asks => (asks.transfer rfl).1) moves
  · exact calls_pairwise ctype .transferred .transfer .dtmf (fun asks => (asks.transfer rfl).2)
      (fun asks => asks.dtmf rfl) moves
  · refine List.pairwise_iff_forall_sublist.mpr fun pair session token calls action => ?_
    have ordered := calls_pairwise ctype .hungUp .hangup action (fun asks => asks.hangup rfl)
      (fun asks => asks.holds.unhung) moves
    exact List.pairwise_iff_forall_sublist.mp ordered pair session token calls
  · refine stages_forall_of_step _ (fun state move delivery context delivered => ?_) _ moves
    cases delivered
    exact deliver_notes state delivery context

/-! ## Dials -/

/-- The owner calls `ua_connect` with the URI. -/
def Dials (stage : CallStage width) (uri : Bytes) : Prop :=
  stage.output = .dials ∧ ∃ observed port pending,
    stage.before.point = .dispatching observed port pending ∧ pending.destination = uri

/-- Only an admitted dial makes the owner call `ua_connect`, and leaves no command behind. -/
theorem callStep_dials {state : CallEngine width} {move : CallMove width}
    (shown : (callStep ctype state move).1 = .dials) :
    ∃ observed port pending, state.point = .dispatching observed port pending ∧
      pending.action = .dial ∧ observed.sip = .registered ∧ observed.callId = 0 ∧
        (callStep ctype state move).2.point.held = none := by
  cases move with
  | owner answers =>
      cases point : state.point with
      | dispatching observed port pending =>
          simp only [callStep, CallEngine.ownerStep, point] at shown ⊢
          have loose := (state.dispatch_dispatches ctype observed port pending answers).concludes.loose
          have fate := state.dispatch_fate ctype observed port pending answers
          generalize state.dispatch ctype observed port pending answers = result at *
          obtain ⟨output, after⟩ := result
          cases fate with
          | refused undialed => exact absurd shown undialed
          | dialing dials registered free =>
              exact ⟨observed, port, pending, rfl, dials, registered, free,
                EnginePoint.held_of_not_relies loose⟩
          | asked => cases shown
      | idle | publishing | taking | checking | calling | republishing | failing | ending =>
          simp only [callStep, CallEngine.ownerStep, point] at shown
          cases shown
  | submit | ui | throws => cases shown
  | begin | beginFails | tick | deliver | ends =>
      simp only [callStep] at shown
      split at shown <;> cases shown

/-- Where no command is taken, the one that is held at the end was held all along. -/
theorem held_along {command : NativeCallCommand} {state : CallEngine width}
    {moves : List (CallMove width)}
    (untaken : ∀ stage ∈ stages (callStep ctype) state moves, ¬ TakesCommand stage)
    (held : (finalState (callStep ctype) state moves).point.held = some command) :
    state.point.held = some command ∧
      ∀ stage ∈ stages (callStep ctype) state moves, stage.after.point.held = some command := by
  induction moves generalizing state with
  | nil => exact ⟨held, fun _ member => absurd member List.not_mem_nil⟩
  | cons move rest ih =>
      obtain ⟨now, later⟩ :=
        ih (fun stage member => untaken stage (List.mem_cons_of_mem _ member)) held
      have quiet := untaken (stageOf (callStep ctype) state move) List.mem_cons_self
      refine ⟨?_, List.forall_mem_cons.mpr ⟨now, later⟩⟩
      have stepped := callStep_stepped ctype state move
      generalize shown : callStep ctype state move = result at stepped now
      obtain ⟨output, after⟩ := result
      cases stepped with
      | submitted current point command => exact point ▸ now
      | took point held command =>
          exact absurd ⟨_, congrArg Prod.fst shown⟩ quiet
      | passed passes => exact (passes.held command now).1

/-- The URI was accepted behind `older`, and a tick has taken it and dials it. -/
structure DialsSubmission (before older : List (CallStage width)) (submit : CallStage width)
    (uri : Bytes) : Prop where
  taken : ∃ between take during command,
    TakenCommand before older submit between take during command ∧ command.destination = uri
  asked : ∃ request, submit.input = .submit request ∧ submit.output = .submitted true ∧
    request.action = .dial ∧ request.uri = uri ∧ submit.before.engine.view.sip = .registered

/-- The owner dials what was submitted, where it holds no call. -/
theorem dials_submission {before : List (CallStage width)} {state : CallEngine width}
    (grounded : Grounded state) (known : CommandsKnown before state) {move : CallMove width}
    {uri : Bytes} (dials : Dials (stageOf (callStep ctype) state move) uri) :
    (state.sdk.adapter.active = true ∧ state.sdk.adapter.activeCall = 0) ∧
      ∃ older submit, DialsSubmission before older submit uri := by
  obtain ⟨shown, observed, port, pending, same, rfl⟩ := dials
  obtain ⟨observed', port', pending', point, dial, registered, -⟩ := callStep_dials shown
  cases same.symm.trans point
  have sees := grounded.sees
  rw [point] at sees
  obtain ⟨⟨shows, captured⟩, current⟩ := sees
  obtain ⟨session, -, live, -⟩ := current_names current
  have active : state.sdk.adapter.active = true := by
    by_contra inactive
    have none_ : state.sdk.adapter.session = 0 := if_neg inactive
    exact live (session.trans (shows.session.trans none_))
  refine ⟨⟨active, shows.noCall.mpr (.inr (.inr (.inl registered)))⟩, ?_⟩
  have held : state.point.held = some pending := by
    rw [point]
    rfl
  have acts : pending.action ≠ .none := by
    rw [dial]
    exact NativeCallAction.noConfusion
  obtain ⟨older, submit, between, take, during, taken⟩ := known.held pending held acts
  refine ⟨older, submit, ⟨between, take, during, pending, taken, rfl⟩, ?_⟩
  obtain ⟨request, input, output, allowed, rfl⟩ := taken.accepted
  have status : submit.before.engine.view.sip = .registered := by
    have action : request.action = .dial := dial
    simpa [CallRequest.current, action] using allowed
  exact ⟨request, input, output, dial, rfl, status⟩

/-- The next dial carries out a submission that came later. -/
theorem DialsSubmission.later {moves : List (CallMove width)}
    {before older middle older' : List (CallStage width)} {submit first submit' : CallStage width}
    {uri uri' : Bytes} (dials : DialsSubmission before older submit uri)
    (shown : first.output = .dials)
    (again : DialsSubmission (before ++ first :: middle) older' submit' uri')
    (run : before ++ first :: middle = stages (callStep ctype) {} moves)
    (held : (finalState (callStep ctype) {} moves).point.held.isSome) :
    ∃ between, older' = older ++ submit :: between := by
  obtain ⟨⟨between, take, during, command, taken, -⟩, -⟩ := dials
  obtain ⟨⟨between', take', during', command', taken', -⟩, request, -, accepted, -⟩ := again
  have split := taken'.split
  rw [← List.cons_append, ← List.append_assoc] at split
  rcases splits_compare split with ⟨gap, waiting⟩ | same | ⟨gap, -, behind⟩
  · rw [taken.split, ← List.cons_append, ← List.append_assoc, List.append_assoc,
      List.cons_append] at waiting
    rcases splits_compare waiting.symm with ⟨rest, long⟩ | same | ⟨rest, -, kept⟩
    · exact ⟨between ++ take :: rest, by rw [long]; simp⟩
    · rw [← same] at accepted
      cases taken.takes.symm.trans accepted
    · have member : take ∈ between' := kept ▸ List.mem_append_right rest List.mem_cons_self
      exact absurd ⟨command, taken.takes⟩ (taken'.untaken take member)
  · rw [same] at shown
    cases taken'.takes.symm.trans shown
  · -- Behind the second taking the command is held, and a dial leaves none.
    have member : first ∈ during' := behind ▸ List.mem_append_right gap List.mem_cons_self
    obtain ⟨pending, held⟩ := Option.isSome_iff_exists.mp held
    have whole := run.symm.trans taken'.split
    rw [← List.cons_append, ← List.append_assoc] at whole
    obtain ⟨-, -, rest, -, -, rfl, final⟩ := stages_split_final whole
    rw [final] at held
    have quiet := fun stage known => (taken'.quiet stage known).1
    have along := (held_along quiet held).2 first member
    obtain ⟨start, move, -, -, -, rfl, -⟩ := stages_split run.symm
    obtain ⟨-, -, -, -, -, -, -, none_⟩ := callStep_dials shown
    cases none_.symm.trans along

/-- The owner dials what was submitted, each submission once, and never beside a call. -/
structure DialsAsSubmitted (run : List (CallStage width)) : Prop where
  free : ∀ stage ∈ run, ∀ uri, Dials stage uri →
    stage.before.sdk.adapter.active = true ∧ stage.before.sdk.adapter.activeCall = 0
  submitted : ∀ before stage after uri, run = before ++ stage :: after → Dials stage uri →
    ∃ older submit, DialsSubmission before older submit uri
  once : ∀ before first middle second after older submit older' submit' uri uri',
    run = before ++ first :: (middle ++ second :: after) → Dials first uri → Dials second uri' →
      DialsSubmission before older submit uri →
      DialsSubmission (before ++ first :: middle) older' submit' uri' →
        ∃ between, older' = older ++ submit :: between

theorem owner_dials_submitted (ctype : WideCtype width) (moves : List (CallMove width)) :
    DialsAsSubmitted (stages (callStep ctype) {} moves) := by
  have each : ∀ before stage after uri,
      stages (callStep ctype) {} moves = before ++ stage :: after → Dials stage uri →
        (stage.before.sdk.adapter.active = true ∧ stage.before.sdk.adapter.activeCall = 0) ∧
          ∃ older submit, DialsSubmission before older submit uri := by
    intro before stage after uri split dials
    obtain ⟨first, move, -, -, rfl, rfl, -⟩ := stages_split split
    obtain ⟨grounded, known⟩ := commandsKnown_run ctype first
    exact dials_submission grounded known dials
  refine ⟨?_, fun before stage after uri split dials => (each before stage after uri split dials).2,
    ?_⟩
  · intro stage member uri dials
    obtain ⟨before, after, split⟩ := List.append_of_mem member
    exact (each before stage after uri split dials).1
  · intro before first middle second after older submit older' submit' uri uri' split dials again
      submission submission'
    rw [← List.cons_append, ← List.append_assoc] at split
    obtain ⟨begun, move, -, -, run, rfl, -⟩ := stages_split split
    obtain ⟨observed, port, pending, point, -⟩ := callStep_dials again.1
    refine submission.later dials.1 submission' run ?_
    rw [point]
    rfl

/-- A registration, and a dial that the owner carries out. -/
def dialedCall : List (CallMove .utf16) :=
  let deliver (type : BeventEv) (call : Address) : CallMove .utf16 :=
    .deliver ⟨type, some ⟨5, call⟩, fun _ => true⟩ (some 0)
  [.ui .registering, .begin 5 ⟨true, true⟩ 0, deliver .registering 0, deliver .registerOk 0,
    .tick willing, .owner willing, .owner willing, .owner willing,
    .submit { action := .dial, uri := asciiBytes "sip:1000@pbx" }, .tick willing, .owner willing,
    .owner willing, .owner willing, .owner willing]

example : (outputs (callStep (.ascii .utf16)) {} dialedCall).getLast? = some .dials := by decide

/-- The URI with which the owner calls `ua_connect`. -/
def dialedUri (stage : CallStage width) : Option Bytes :=
  match stage.output, stage.before.point with
  | .dials, .dispatching _ _ pending => some pending.destination
  | _, _ => none

/-- The URI of a dial that is accepted. -/
def acceptedUri (stage : CallStage width) : Option Bytes :=
  match stage.input, stage.output with
  | .submit request, .submitted true => if request.action = .dial then some request.uri else none
  | _, _ => none

def NativeCallCommand.dials (command : NativeCallCommand) : List Bytes :=
  if command.action = .dial then [command.destination] else []

theorem NativeCallCommand.dials_eq (command : NativeCallCommand) :
    command.dials =
      (if command.action = .dial then some command.destination else none : Option Bytes).toList := by
  unfold NativeCallCommand.dials
  split <;> rfl

/-- The dials that are accepted and not yet carried out, the older first. -/
def CallEngine.dialsInFlight (state : CallEngine width) : List Bytes :=
  (state.point.held.elim [] NativeCallCommand.dials) ++ state.engine.command.dials

theorem held_dials_sublist {held other : Option NativeCallCommand}
    (kept : ∀ command, held = some command → other = some command) :
    (held.elim [] NativeCallCommand.dials).Sublist (other.elim [] NativeCallCommand.dials) := by
  cases held with
  | none => exact List.nil_sublist _
  | some command => rw [kept command rfl]

theorem queued_dials_sublist {command other : NativeCallCommand}
    (kept : command = other ∨ command = {}) : command.dials.Sublist other.dials := by
  rcases kept with rfl | rfl
  · exact List.Sublist.refl _
  · exact List.nil_sublist _

/-- A step carries out what was in flight; what it accepts is in flight. -/
theorem dials_convey (ctype : WideCtype width) :
    Conveys (callStep ctype) CallEngine.dialsInFlight acceptedUri dialedUri := by
  intro state move
  by_cases dials : (callStep ctype state move).1 = .dials
  · obtain ⟨observed, port, pending, point, dial, -, -, none_⟩ := callStep_dials dials
    have stepped := callStep_stepped ctype state move
    have dialed : dialedUri (stageOf (callStep ctype) state move) = some pending.destination := by
      simp only [dialedUri, stageOf, dials, point]
    have held : state.point.held = some pending := by
      rw [point]
      rfl
    rw [dialed]
    simp only [CallEngine.dialsInFlight, none_, held, Option.elim, NativeCallCommand.dials, dial]
    rw [dials] at stepped
    cases stepped with
    | passed passes =>
        refine List.Sublist.trans ?_ (List.sublist_append_left _ _)
        exact (queued_dials_sublist passes.queued).cons_cons _
  · have undialed : dialedUri (stageOf (callStep ctype) state move) = none := by
      simp only [dialedUri, stageOf]
      split
      · next shown _ => exact absurd shown dials
      · rfl
    have stepped := callStep_stepped ctype state move
    rw [undialed, Option.toList_none, List.nil_append]
    unfold CallEngine.dialsInFlight
    generalize shown : callStep ctype state move = result at stepped
    obtain ⟨output, after⟩ := result
    cases stepped with
    | @submitted request _ current point command =>
        have accepted : acceptedUri (stageOf (callStep ctype) state (.submit request)) =
            if request.action = .dial then some request.uri else none := by
          simp only [acceptedUri, stageOf, shown]
        have same : after.engine.command.dials =
            (if request.action = .dial then some request.uri else none : Option Bytes).toList := by
          rw [command]
          exact NativeCallCommand.dials_eq _
        rw [accepted, point, same]
        exact (List.sublist_append_left _ _).append (List.Sublist.refl _)
    | took point held command =>
        refine List.Sublist.trans ?_ (List.sublist_append_left _ _)
        rw [held, command]
        exact (List.append_nil _).symm ▸ List.sublist_append_right _ _
    | passed passes =>
        refine List.Sublist.trans ?_ (List.sublist_append_left _ _)
        exact (held_dials_sublist fun command now => (passes.held command now).1).append
          (queued_dials_sublist passes.queued)

end AxeVoice.Native
