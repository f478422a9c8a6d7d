import Mathlib.Logic.Function.Basic
import AxeVoice.Native.Agreement
import AxeVoice.Sip.MailboxHistory

/-!
# One subscription in a process of many adapters

Every adapter of the process has a lifecycle and a mailbox of its own.  The SDK
keys its event registry by the handler, which is the same static function for all
of them, so that the process has at most one subscription: the argument that was
registered last.  The claim of the process owner stands before every use of the
registry.
-/

namespace AxeVoice.Native

open AxeVoice.Sip
open AxeVoice.Foundation

/-- The argument of the subscribed handler is a context: an adapter, and the position among the
contexts that this adapter allocated. -/
structure SdkProcess where
  adapters : Nat → BaresipSdkEventAdapter := fun _ => {}
  processOwner : Option Nat := none
  subscription : Option (Nat × Nat) := none

namespace SdkProcess

/-- The claim, as the adapter compares it with itself. -/
def ownerSeenBy (process : SdkProcess) (index : Nat) : ProcessOwner :=
  match process.processOwner with
  | none => .free
  | some holder => if holder = index then .this else .other

/-- The claim after the adapter left it so. -/
def ownerAfter (process : SdkProcess) (index : Nat) : ProcessOwner → Option Nat
  | .free => none
  | .this => some index
  | .other => process.processOwner

/-- The adapter with the claim of the process. -/
def adapterOf (process : SdkProcess) (index : Nat) : BaresipSdkEventAdapter :=
  { process.adapters index with processOwner := process.ownerSeenBy index }

def withAdapter (process : SdkProcess) (index : Nat) (adapter : BaresipSdkEventAdapter) :
    SdkProcess :=
  { process with adapters := Function.update process.adapters index adapter }

/-- The answers of `start`'s callees, and whether a `bevent_register` that fails has dropped the
subscription which it was to replace. -/
def start (process : SdkProcess) (index : Nat) (ownedUa : Address) (outcome : StartOutcome)
    (dropped : Bool) : Bool × SdkProcess :=
  let before := process.adapterOf index
  let (started, after) := before.start ownedUa outcome
  -- the context is allocated right before it is registered
  let registers := before.contexts.length < after.contexts.length
  let subscription :=
    if ¬ registers then process.subscription
    else if started then some (index, before.contexts.length)
    else if dropped then none
    else process.subscription
  (started, { process.withAdapter index after with
    processOwner := process.ownerAfter index after.processOwner, subscription := subscription })

/-- `bevent_unregister` takes the handler, whoever registered it. -/
def stop (process : SdkProcess) (index : Nat) : SdkProcess :=
  let before := process.adapterOf index
  let after := before.stop
  { process.withAdapter index after with
    processOwner := process.ownerAfter index after.processOwner
    subscription := if before.registered then none else process.subscription }

/-- The static callback with a context that was allocated at some time, subscribed or not. -/
def deliver (process : SdkProcess) (index context : Nat) (delivery : Delivery) : SdkProcess :=
  process.withAdapter index
    ((process.adapters index).callback delivery.type delivery.event (some context)
      delivery.uaIsregistered)

def drain (process : SdkProcess) (index : Nat) : Batch × SdkProcess :=
  let (batch, mailbox) := (process.adapters index).mailbox.drain
  (batch, process.withAdapter index ((process.adapters index).withMailbox mailbox))

end SdkProcess

inductive ProcessCall where
  | start (index : Nat) (ownedUa : Address) (outcome : StartOutcome) (dropped : Bool)
  | stop (index : Nat)
  | deliver (index context : Nat) (delivery : Delivery)
  | drain (index : Nat)

inductive ProcessAnswer where
  | started (answer : Bool)
  | done
  | drained (batch : Batch)

def processStep (process : SdkProcess) : ProcessCall → ProcessAnswer × SdkProcess
  | .start index ownedUa outcome dropped =>
      let (answer, process) := process.start index ownedUa outcome dropped
      (.started answer, process)
  | .stop index => (.done, process.stop index)
  | .deliver index context delivery => (.done, process.deliver index context delivery)
  | .drain index =>
      let (batch, process) := process.drain index
      (.drained batch, process)

abbrev ProcessStage := Stage SdkProcess ProcessCall ProcessAnswer

namespace BaresipSdkEventAdapter

theorem sound_invalidateSession (mailbox : BaresipEventMailbox) : mailbox.invalidateSession.Sound :=
  have emptied : mailbox.invalidateSession.queued = [] := BaresipEventMailbox.queued_eq_nil rfl
  ⟨UInt64.zero_le, by simp [emptied], fun _ => emptied, fun _ => emptied⟩

theorem sound_beginSession (mailbox : BaresipEventMailbox) : mailbox.beginSession.2.Sound := by
  have emptied : mailbox.beginSession.2.queued = [] := by
    unfold BaresipEventMailbox.beginSession
    split <;> exact BaresipEventMailbox.queued_eq_nil rfl
  refine ⟨?_, by simp [emptied], fun _ => emptied, fun _ => emptied⟩
  unfold BaresipEventMailbox.beginSession
  split
  · exact UInt64.zero_le
  · exact UInt64.le_refl _

/-- The contexts after a start: those before, or one more with an epoch of its own. -/
def Registers (before after : BaresipSdkEventAdapter) : Prop :=
  ∃ captured : CapturedSession, after.contexts = before.contexts ++ [captured] ∧
    before.lifecycle.fence.generation < captured.fenceGeneration

/-- Everything a start does with the claim, the contexts and the mailbox session. -/
inductive StartClaims (before : BaresipSdkEventAdapter) : Bool → BaresipSdkEventAdapter → Prop where
  | refused : StartClaims before false before
  | failed {after : BaresipSdkEventAdapter} (unclaimed : before.processOwner = .free)
      (released : after.processOwner = .free) (was : before.registered = false)
      (unregistered : after.registered = false)
      (contexts : after.contexts = before.contexts ∨ before.Registers after)
      (mailbox : after.mailbox = before.mailbox ∨
        after.mailbox.session = 0 ∧ after.mailbox.Sound) :
      StartClaims before false after
  | begun {after : BaresipSdkEventAdapter} (unclaimed : before.processOwner = .free)
      (claimed : after.processOwner = .this) (was : before.registered = false)
      (registered : after.registered = true) (contexts : before.Registers after) :
      StartClaims before true after

/-- A lifecycle that does not begin keeps its mailbox or has run out of session numbers. -/
theorem beginLifecycle_refused_mailbox {lifecycle : BaresipCallbackLifecycle} {account : Address}
    (refused : (lifecycle.beginLifecycle account).1.held = false) :
    (lifecycle.beginLifecycle account).2.ingress.mailbox = lifecycle.ingress.mailbox ∨
      (lifecycle.beginLifecycle account).2.ingress.mailbox.session = 0 ∧
        (lifecycle.beginLifecycle account).2.ingress.mailbox.Sound := by
  unfold BaresipCallbackLifecycle.beginLifecycle at refused ⊢
  split at refused
  · next early => exact .inl (by rw [if_pos early])
  next early =>
  rw [if_neg early]
  dsimp only at refused ⊢
  split at refused
  · next closed => exact .inl (by rw [if_pos closed])
  next opened =>
  rw [if_neg opened]
  split at refused
  · next ended =>
      rw [if_pos ended]
      unfold BaresipCallbackIngress.beginSession at ended ⊢
      split
      · exact .inl rfl
      · next idle =>
          rw [if_neg idle] at ended
          refine .inr ⟨?_, sound_beginSession _⟩
          dsimp only at ended ⊢
          unfold BaresipEventMailbox.beginSession at ended ⊢
          split
          · rfl
          · next room =>
              rw [if_neg room] at ended
              grind
  · next begun =>
      simp only [not_or] at early
      simp [CapturedSession.held, opened, begun, early.1] at refused

theorem start_claims (adapter : BaresipSdkEventAdapter) (ownedUa : Address)
    (outcome : StartOutcome) :
    adapter.StartClaims (adapter.start ownedUa outcome).1 (adapter.start ownedUa outcome).2 := by
  unfold start
  by_cases early : adapter.registered = true ∨ ownedUa = 0 ∨ adapter.contexts.length ≥ kMaxContexts
  · rw [if_pos early]
    exact .refused
  rw [if_neg early]
  by_cases claimed : adapter.processOwner ≠ .free
  · rw [if_pos claimed]
    exact .refused
  rw [if_neg claimed]
  have unclaimed := not_not.mp claimed
  simp only [not_or, Bool.not_eq_true] at early
  have unregistered := early.1
  dsimp only
  by_cases refused : (adapter.lifecycle.beginLifecycle ownedUa).1.held = false
  · rw [if_pos (by simp [refused])]
    exact .failed unclaimed rfl unregistered unregistered (.inl rfl)
      (beginLifecycle_refused_mailbox refused)
  have held : (adapter.lifecycle.beginLifecycle ownedUa).1.held = true := by simpa using refused
  have begins : adapter.lifecycle.Begins (adapter.lifecycle.beginLifecycle ownedUa).2
      (adapter.lifecycle.beginLifecycle ownedUa).1 := by
    rcases adapter.lifecycle.beginLifecycle_cases ownedUa with ⟨none, _⟩ | ⟨_, begins⟩
    · rw [none] at held
      cases held
    · exact begins
  rw [if_neg (not_not_intro held)]
  by_cases unallocated : ¬ outcome.allocated = true
  · rw [if_pos unallocated]
    exact .failed unclaimed rfl unregistered unregistered (.inl rfl)
      (.inr ⟨rfl, sound_invalidateSession _⟩)
  rw [if_neg unallocated]
  by_cases unsubscribed : ¬ outcome.subscribed = true
  · rw [if_pos unsubscribed]
    exact .failed unclaimed rfl unregistered rfl (.inr ⟨_, rfl, begins.newGeneration⟩)
      (.inr ⟨rfl, sound_invalidateSession _⟩)
  · rw [if_neg unsubscribed]
    exact .begun unclaimed rfl unregistered rfl ⟨_, rfl, begins.newGeneration⟩

theorem sound_enqueueLocked {ingress : BaresipCallbackIngress} (sound : ingress.mailbox.Sound)
    (kind : BaresipEventKind) (token : UInt64) :
    (ingress.enqueueLocked kind token).2.mailbox.Sound := by
  have enqueued := (BaresipEventMailbox.mailboxStep_moved ingress.mailbox
    (.enqueue { kind, session := ingress.session, callId := token })).sound sound
  unfold BaresipCallbackIngress.enqueueLocked
  dsimp only
  split
  · exact enqueued
  · exact (BaresipEventMailbox.mailboxStep_moved _ .invalidateSession).sound enqueued

theorem sound_admitLocked {ingress : BaresipCallbackIngress} (sound : ingress.mailbox.Sound)
    (session : UInt64) (account : Address) :
    (ingress.admitLocked session account).2.mailbox.Sound := by
  unfold BaresipCallbackIngress.admitLocked
  split
  · exact sound
  split
  · exact (BaresipEventMailbox.mailboxStep_moved _ .invalidateSession).sound sound
  · exact sound

theorem IngressOperated.sound {ingress after : BaresipCallbackIngress}
    (operated : IngressOperated ingress after) (sound : ingress.mailbox.Sound) :
    after.mailbox.Sound := by
  have revoked {current : BaresipCallbackIngress} (known : current.mailbox.Sound) :
      current.revokeLocked.mailbox.Sound := (BaresipEventMailbox.mailboxStep_moved _ .invalidateSession).sound known
  cases operated with
  | registration session account kind =>
      have admitted := sound_admitLocked sound session account
      unfold BaresipCallbackIngress.registration
      split
      · next refused => simpa only [refused] using admitted
      next passed =>
      rw [passed] at admitted
      cases kind with
      | registering | registerOk | registerFail | unregistering =>
          exact sound_enqueueLocked admitted _ 0
      | transportLost => exact sound_enqueueLocked (by exact admitted) _ 0
      | _ => exact revoked admitted
  | callStarted session account nativeKey kind =>
      have admitted := sound_admitLocked sound session account
      unfold BaresipCallbackIngress.callStarted
      split
      · next refused => simpa only [refused] using admitted
      next current passed =>
      rw [passed] at admitted
      split
      · exact revoked admitted
      have queued := sound_enqueueLocked admitted kind (current.lastToken + 1)
      dsimp only
      split
      · next refused => simpa only [refused] using queued
      · next accepted => simpa only [accepted] using queued
  | callChanged session account nativeKey kind =>
      have admitted := sound_admitLocked sound session account
      unfold BaresipCallbackIngress.callChanged
      split
      · next refused => simpa only [refused] using admitted
      next current passed =>
      rw [passed] at admitted
      split
      · exact revoked admitted
      have queued := sound_enqueueLocked admitted kind current.activeToken
      split
      · next refused => simpa only [refused] using queued
      · next accepted =>
          rw [accepted] at queued
          split
          · exact queued
          · exact queued

/-- A callback registers nothing, and an epoch that it ends takes the mailbox session with it. -/
structure Settles (before after : BaresipSdkEventAdapter) : Prop where
  registered : after.registered = before.registered
  epoch : after.captured = before.captured ∨ (after.captured = {} ∧ after.mailbox.session = 0)
  sound : after.mailbox.Sound

theorem handling_settles {adapter : BaresipSdkEventAdapter} (sound : adapter.mailbox.Sound) :
    adapter.Handling adapter.Settles where
  ignored := ⟨rfl, .inl rfl, sound⟩
  closed := ⟨rfl, .inr ⟨rfl, rfl⟩, (BaresipEventMailbox.mailboxStep_moved _ .invalidateSession).sound sound⟩
  published := fun operated => ⟨rfl, .inl rfl, operated.sound sound⟩
  revoked := fun operated =>
    ⟨rfl, .inr ⟨rfl, rfl⟩, (BaresipEventMailbox.mailboxStep_moved _ .invalidateSession).sound (operated.sound sound)⟩
  flags := by
    rintro before after ⟨registered, epoch, settled⟩ same
    have mailbox : after.mailbox = before.mailbox :=
      congrArg (fun lifecycle => lifecycle.ingress.mailbox) same.lifecycle
    refine ⟨same.registered.trans registered, ?_, mailbox ▸ settled⟩
    rw [same.captured, mailbox]
    exact epoch

theorem callback_settles {adapter : BaresipSdkEventAdapter} (sound : adapter.mailbox.Sound)
    (delivery : Delivery) (context : Option Nat) :
    adapter.Settles (adapter.callback delivery.type delivery.event context
      delivery.uaIsregistered) := by
  unfold callback
  split
  · exact ⟨rfl, .inl rfl, sound⟩
  next captured _ =>
  split
  · exact ⟨rfl, .inl rfl, sound⟩
  next lifecycle held =>
  obtain ⟨_, rfl⟩ := BaresipCallbackLifecycle.holdNativeCallback_some held
  -- the lease is a number of the fence, which none of the three facts mentions
  have leased : ({ adapter with lifecycle := { adapter.lifecycle with fence :=
      { adapter.lifecycle.fence with inFlight := adapter.lifecycle.fence.inFlight + 1 } } } :
        BaresipSdkEventAdapter).mailbox.Sound := sound
  obtain ⟨registered, epoch, settled⟩ := (handling_settles leased).onEvent captured delivery.type
    delivery.event delivery.uaIsregistered
  exact ⟨registered, epoch, settled⟩

/-- A callback that ends an active epoch ran into `fail_closed`: the subscription stays, the mailbox
session does not. -/
theorem callback_ends {adapter : BaresipSdkEventAdapter} (sound : adapter.Sound)
    (mailboxSound : adapter.mailbox.Sound) (active : adapter.active = true) (delivery : Delivery)
    (context : Option Nat) :
    let after := adapter.callback delivery.type delivery.event context delivery.uaIsregistered
    after.active = false → after.registered = true ∧ after.mailbox.session = 0 := by
  intro after inactive
  obtain ⟨session, represents⟩ := sound.kept active
  obtain ⟨registered, epoch, _⟩ := callback_settles mailboxSound delivery context
  have ended : after.captured = {} → after.registered = true ∧ after.mailbox.session = 0 := by
    intro uncaptured
    refine ⟨registered.trans represents.registered, ?_⟩
    rcases epoch with same | closed
    · have held := represents.opened.held
      rw [← same] at held
      exact absurd (uncaptured ▸ held) (by decide)
    · exact closed.2
  have absurdly {next : SdkSession} (still : after.Represents next) :
      after.registered = true ∧ after.mailbox.session = 0 := by
    rw [still.active] at inactive
    cases inactive
  rcases callback_follows represents delivery context with same | follows
  · have still : after.Represents session := by
      rw [show after = adapter from same]
      exact represents
    exact absurdly still
  generalize session.react adapter.owner delivery = reaction at follows
  cases reaction with
  | closes => exact ended follows
  | stays => exact absurdly follows.1
  | publishes kind token next =>
      change if adapter.mailbox.pending = kCapacity then after.captured = {} else _ at follows
      split at follows
      · exact ended follows
      · exact absurdly follows.1

end BaresipSdkEventAdapter

/-! ## One step of the process, for each adapter -/

open BaresipSdkEventAdapter

/-- Everything a step can do to one adapter, as far as its epochs go. -/
inductive AdapterMoved (index : Nat) (before : BaresipSdkEventAdapter) :
    ProcessCall → ProcessAnswer → BaresipSdkEventAdapter → Prop where
  | restarted {after : BaresipSdkEventAdapter} (ownedUa : Address) (outcome : StartOutcome)
      (dropped : Bool) (was : before.registered = false) (registered : after.registered = true)
      (contexts : before.Registers after)
      (newSession : before.mailbox.generation < after.mailbox.session)
      (issued : after.mailbox.session = after.mailbox.generation)
      (captured : after.session = after.mailbox.session) :
      AdapterMoved index before (.start index ownedUa outcome dropped) (.started true) after
  | stopped {after : BaresipSdkEventAdapter} (unregistered : after.registered = false)
      (contexts : after.contexts = before.contexts)
      (generation : after.mailbox.generation = before.mailbox.generation)
      (ended : after.mailbox.session = 0) :
      AdapterMoved index before (.stop index) .done after
  | stays {after : BaresipSdkEventAdapter} (call : ProcessCall) (answer : ProcessAnswer)
      (registered : after.registered = before.registered)
      (contexts : after.contexts = before.contexts ∨
        before.Registers after ∧ after.registered = false)
      (active : after.active = true → before.active = true)
      (generation : before.mailbox.generation ≤ after.mailbox.generation)
      (session : after.mailbox.session = before.mailbox.session ∨ after.mailbox.session = 0) :
      AdapterMoved index before call answer after

theorem AdapterMoved.unchanged {index : Nat} (adapter : BaresipSdkEventAdapter)
    (call : ProcessCall) (answer : ProcessAnswer) : AdapterMoved index adapter call answer adapter :=
  .stays call answer rfl (.inl rfl) id (UInt64.le_refl _) (.inl rfl)

namespace SdkProcess

variable {process : SdkProcess}

/-- What holds of the process between two steps: the subscribed adapter is the one that claimed the
process, and the subscribed context is its last one. -/
structure Sound (process : SdkProcess) : Prop where
  adapters : ∀ index, (process.adapters index).Sound
  mailboxes : ∀ index, (process.adapters index).mailbox.Sound
  epochs : ∀ index, (process.adapters index).contexts.Pairwise fun older newer =>
    older.fenceGeneration < newer.fenceGeneration
  owned : ∀ index, (process.adapters index).registered = true ↔ process.processOwner = some index
  subscribed : ∀ index, (process.adapters index).registered = true →
    ∃ context, process.subscription = some (index, context)
  current : ∀ index context, process.subscription = some (index, context) →
    (process.adapters index).registered = true ∧
      context + 1 = (process.adapters index).contexts.length

theorem sound_initial : Sound {} where
  adapters _ := BaresipSdkEventAdapter.sound_initial
  mailboxes _ := BaresipEventMailbox.sound_initial
  epochs _ := List.Pairwise.nil
  owned _ := ⟨nofun, nofun⟩
  subscribed _ := nofun
  current _ _ := nofun

@[simp] theorem ownerAfter_ownerSeenBy (process : SdkProcess) (index : Nat) :
    process.ownerAfter index (process.ownerSeenBy index) = process.processOwner := by
  unfold ownerSeenBy ownerAfter
  cases process.processOwner with
  | none => rfl
  | some holder =>
      by_cases same : holder = index
      · simp [same]
      · simp [same]

theorem ownerSeenBy_free {index : Nat} :
    process.ownerSeenBy index = .free ↔ process.processOwner = none := by
  unfold ownerSeenBy
  cases process.processOwner with
  | none => simp
  | some holder => by_cases same : holder = index <;> simp [same]

theorem adapterOf_sound {index : Nat} (sound : (process.adapters index).Sound) :
    (process.adapterOf index).Sound where
  quiet := sound.quiet
  epochs := sound.epochs
  issued := sound.issued
  kept active := by
    obtain ⟨session, represents⟩ := sound.kept active
    exact ⟨session, { represents with }⟩

/-- Nobody is subscribed while the process is unclaimed. -/
theorem Sound.unclaimed (sound : process.Sound) (free : process.processOwner = none) :
    (∀ index, (process.adapters index).registered = false) ∧ process.subscription = none := by
  have unregistered : ∀ index, (process.adapters index).registered = false := by
    intro index
    have owned := sound.owned index
    rw [free] at owned
    simpa using owned
  refine ⟨unregistered, ?_⟩
  cases subscribed : process.subscription with
  | none => rfl
  | some argument =>
      have registered := (sound.current argument.1 argument.2 subscribed).1
      rw [unregistered] at registered
      cases registered

/-- A step that gives one adapter other data, and the process another claim and subscription. -/
theorem Sound.replaced (sound : process.Sound) {index : Nat} {after : BaresipSdkEventAdapter}
    {owner : Option Nat} {subscription : Option (Nat × Nat)} (adapterSound : after.Sound)
    (mailboxSound : after.mailbox.Sound)
    (epochs : after.contexts.Pairwise fun older newer =>
      older.fenceGeneration < newer.fenceGeneration)
    (owned : after.registered = true ↔ owner = some index)
    (others : ∀ other, other ≠ index →
      (process.processOwner = some other ↔ owner = some other))
    (subscribed : after.registered = true → ∃ context, subscription = some (index, context))
    (kept : ∀ other, other ≠ index → ∀ context,
      process.subscription = some (other, context) ↔ subscription = some (other, context))
    (current : ∀ context, subscription = some (index, context) →
      after.registered = true ∧ context + 1 = after.contexts.length) :
    Sound { process.withAdapter index after with
      processOwner := owner, subscription := subscription } where
  adapters := (Function.forall_update_iff _ fun _ (adapter : BaresipSdkEventAdapter) => adapter.Sound).mpr
    ⟨adapterSound, fun other _ => sound.adapters other⟩
  mailboxes := (Function.forall_update_iff _ fun _ (adapter : BaresipSdkEventAdapter) => adapter.mailbox.Sound).mpr
    ⟨mailboxSound, fun other _ => sound.mailboxes other⟩
  epochs := (Function.forall_update_iff _ fun _ (adapter : BaresipSdkEventAdapter) => adapter.contexts.Pairwise
      fun older newer => older.fenceGeneration < newer.fenceGeneration).mpr
    ⟨epochs, fun other _ => sound.epochs other⟩
  owned := (Function.forall_update_iff _ fun other (adapter : BaresipSdkEventAdapter) =>
      adapter.registered = true ↔ owner = some other).mpr
    ⟨owned, fun other apart => (sound.owned other).trans (others other apart)⟩
  subscribed := (Function.forall_update_iff _ fun other (adapter : BaresipSdkEventAdapter) =>
      adapter.registered = true → ∃ context, subscription = some (other, context)).mpr
    ⟨subscribed, fun other apart registered => by
      obtain ⟨context, held⟩ := sound.subscribed other registered
      exact ⟨context, (kept other apart context).mp held⟩⟩
  current := (Function.forall_update_iff _ fun other (adapter : BaresipSdkEventAdapter) => ∀ context,
      subscription = some (other, context) →
        adapter.registered = true ∧ context + 1 = adapter.contexts.length).mpr
    ⟨current, fun other apart context held =>
      sound.current other context ((kept other apart context).mpr held)⟩

theorem Registers.epochs {before after : BaresipSdkEventAdapter} (registers : before.Registers after)
    (sound : before.Sound)
    (epochs : before.contexts.Pairwise fun older newer =>
      older.fenceGeneration < newer.fenceGeneration) :
    after.contexts.Pairwise fun older newer => older.fenceGeneration < newer.fenceGeneration := by
  obtain ⟨captured, contexts, fresh⟩ := registers
  rw [contexts, List.pairwise_append]
  refine ⟨epochs, List.pairwise_singleton _ _, ?_⟩
  intro older known newer added
  rw [List.mem_singleton.mp added]
  exact UInt64.lt_of_le_of_lt (sound.epochs older known) fresh

theorem Registers.length {before after : BaresipSdkEventAdapter} (registers : before.Registers after) :
    after.contexts.length = before.contexts.length + 1 := by
  obtain ⟨captured, contexts, _⟩ := registers
  rw [contexts, List.length_append]
  rfl

/-- A start that is refused leaves everything to the process as it was. -/
theorem start_refused {index : Nat} {ownedUa : Address} {outcome : StartOutcome} {dropped : Bool}
    (refused : (process.adapterOf index).start ownedUa outcome =
      (false, process.adapterOf index)) :
    process.start index ownedUa outcome dropped =
      (false, process.withAdapter index (process.adapterOf index)) := by
  have owner := process.ownerAfter_ownerSeenBy index
  unfold start
  simp only [refused, Nat.lt_irrefl, Bool.false_eq_true, not_false_eq_true, if_true]
  rw [show (process.adapterOf index).processOwner = process.ownerSeenBy index from rfl, owner]
  rfl

/-- A step that leaves the claim and the subscription to the adapter as they were. -/
theorem Sound.kept (sound : process.Sound) {index : Nat} {after : BaresipSdkEventAdapter}
    (adapterSound : after.Sound) (mailboxSound : after.mailbox.Sound)
    (registered : after.registered = (process.adapters index).registered)
    (contexts : after.contexts = (process.adapters index).contexts) :
    (process.withAdapter index after).Sound :=
  sound.replaced adapterSound mailboxSound (contexts ▸ sound.epochs index)
    (registered ▸ sound.owned index) (fun _ _ => Iff.rfl) (registered ▸ sound.subscribed index)
    (fun _ _ _ => Iff.rfl) (by rw [registered, contexts]; exact sound.current index)

/-- A step after which nobody is subscribed. -/
theorem Sound.released (sound : process.Sound) {index : Nat} {after : BaresipSdkEventAdapter}
    (adapterSound : after.Sound) (mailboxSound : after.mailbox.Sound)
    (epochs : after.contexts.Pairwise fun older newer =>
      older.fenceGeneration < newer.fenceGeneration)
    (unregistered : after.registered = false)
    (mine : ∀ other, other ≠ index → process.processOwner ≠ some other) :
    Sound { process.withAdapter index after with processOwner := none, subscription := none } := by
  refine sound.replaced adapterSound mailboxSound epochs ?_ ?_ ?_ ?_ ?_
  · simp [unregistered]
  · intro other apart
    exact ⟨fun claimed => absurd claimed (mine other apart), nofun⟩
  · intro registered
    rw [unregistered] at registered
    cases registered
  · intro other apart context
    constructor
    · intro held
      exact absurd ((sound.owned other).mp (sound.current other context held).1) (mine other apart)
    · intro held
      cases held
  · intro context held
    cases held

theorem Sound.start (sound : process.Sound) (index : Nat) (ownedUa : Address)
    (outcome : StartOutcome) (dropped : Bool) :
    (process.start index ownedUa outcome dropped).2.Sound := by
  have before := adapterOf_sound (sound.adapters index)
  have claims := start_claims (process.adapterOf index) ownedUa outcome
  have started := start_started before ownedUa outcome
  by_cases refused : (process.adapterOf index).start ownedUa outcome =
      (false, process.adapterOf index)
  · rw [start_refused refused]
    exact sound.kept before (sound.mailboxes index) rfl rfl
  unfold SdkProcess.start
  dsimp only
  generalize (process.adapterOf index).start ownedUa outcome = result at claims started refused
  obtain ⟨answer, after⟩ := result
  cases claims with
  | refused => exact absurd rfl refused
  | failed unclaimed released was unregistered contexts mailbox =>
      obtain ⟨_, unsubscribed⟩ := sound.unclaimed (ownerSeenBy_free.mp unclaimed)
      have mailboxSound : after.mailbox.Sound := by
        rcases mailbox with same | ⟨_, ended⟩
        · exact same ▸ sound.mailboxes index
        · exact ended
      have epochs : after.contexts.Pairwise fun older newer =>
          older.fenceGeneration < newer.fenceGeneration := by
        rcases contexts with same | registers
        · exact same ▸ sound.epochs index
        · exact Registers.epochs registers before (sound.epochs index)
      have adapterSound : after.Sound := by
        cases started with
        | refused => exact absurd rfl refused
        | failed _ after' _ => exact after'
      have owner : process.ownerAfter index after.processOwner = none := by
        rw [show after.processOwner = .free from released]
        rfl
      simp only [owner, unsubscribed, Bool.false_eq_true, if_false, ite_self]
      refine sound.released adapterSound mailboxSound epochs unregistered ?_
      intro other _
      rw [ownerSeenBy_free.mp unclaimed]
      nofun
  | begun unclaimed claimed was registered contexts =>
      obtain ⟨others, unsubscribed⟩ := sound.unclaimed (ownerSeenBy_free.mp unclaimed)
      have grown := Registers.length contexts
      cases started with
      | begun represents adapterSound newSession issued queued =>
          have current : after.mailbox.session = after.mailbox.generation :=
            represents.opened.mailbox.trans issued
          have mailboxSound : after.mailbox.Sound :=
            ⟨UInt64.le_of_eq current, by simp [queued], fun _ => queued, fun _ => queued⟩
          have owner : process.ownerAfter index after.processOwner = some index := by
            rw [show after.processOwner = .this from claimed]
            rfl
          rw [owner, if_neg (by simp [grown]), if_pos rfl]
          refine sound.replaced adapterSound mailboxSound
            (Registers.epochs contexts before (sound.epochs index)) ?_ ?_ ?_ ?_ ?_
          · exact iff_of_true registered rfl
          · intro other apart
            rw [ownerSeenBy_free.mp unclaimed]
            simp [apart.symm]
          · intro _
            exact ⟨_, rfl⟩
          · intro other apart context
            rw [unsubscribed]
            simp [apart.symm]
          · intro context held
            cases held
            exact ⟨registered, grown.symm⟩

theorem Sound.stop (sound : process.Sound) (index : Nat) : (process.stop index).Sound := by
  have before := adapterOf_sound (sound.adapters index)
  obtain ⟨adapterSound, _, _⟩ := stop_sound before
  have mailboxSound : (process.adapterOf index).stop.mailbox.Sound := sound_invalidateSession _
  unfold SdkProcess.stop
  dsimp only
  by_cases registered : (process.adapters index).registered = true
  · have owner := (sound.owned index).mp registered
    have seen : process.ownerSeenBy index = .this := by simp [ownerSeenBy, owner]
    have released : (process.adapterOf index).stop.processOwner = .free := by
      simp [BaresipSdkEventAdapter.stop, releaseOwner, withoutCall, adapterOf, seen]
    rw [released, if_pos (by exact registered)]
    refine sound.released adapterSound mailboxSound (sound.epochs index) rfl ?_
    intro other apart claimed
    rw [owner] at claimed
    cases claimed
    exact apart rfl
  · have unowned : process.processOwner ≠ some index := fun owner =>
      registered ((sound.owned index).mpr owner)
    have kept : process.ownerAfter index (process.adapterOf index).stop.processOwner =
        process.processOwner := by
      have seen : (process.adapterOf index).stop.processOwner = process.ownerSeenBy index := by
        have foreign : process.ownerSeenBy index ≠ .this := by
          unfold ownerSeenBy
          cases owner : process.processOwner with
          | none => simp
          | some holder =>
              have apart : holder ≠ index := fun same => unowned (same ▸ owner)
              simp [apart]
        simp [BaresipSdkEventAdapter.stop, releaseOwner, withoutCall, adapterOf, foreign]
      rw [seen, ownerAfter_ownerSeenBy]
    rw [kept, if_neg (by exact registered)]
    have unregistered : (process.adapters index).registered = false := by simpa using registered
    exact sound.kept adapterSound mailboxSound unregistered.symm rfl

theorem Sound.deliver (sound : process.Sound) (index context : Nat) (delivery : Delivery) :
    (process.deliver index context delivery).Sound := by
  have settles := callback_settles (sound.mailboxes index) delivery (some context)
  have keeps := callback_keeps (process.adapters index) delivery.type delivery.event (some context)
    delivery.uaIsregistered
  exact sound.kept ((sound.adapters index).callback delivery (some context)) settles.sound
    settles.registered keeps.contexts

theorem Sound.drain (sound : process.Sound) (index : Nat) : (process.drain index).2.Sound :=
  sound.kept (sound.adapters index).drained
    ((BaresipEventMailbox.mailboxStep_moved _ .drain).sound (sound.mailboxes index)) rfl rfl

theorem Sound.step (sound : process.Sound) (call : ProcessCall) :
    (processStep process call).2.Sound := by
  cases call with
  | start index ownedUa outcome dropped => exact sound.start index ownedUa outcome dropped
  | stop index => exact sound.stop index
  | deliver index context delivery => exact sound.deliver index context delivery
  | drain index => exact sound.drain index

theorem withAdapter_self (process : SdkProcess) (index : Nat) :
    process.withAdapter index (process.adapters index) = process := by
  simp [withAdapter]

theorem adapters_withAdapter {index other : Nat} (apart : other ≠ index)
    (after : BaresipSdkEventAdapter) :
    (process.withAdapter index after).adapters other = process.adapters other :=
  Function.update_of_ne apart _ _

theorem Sound.start_moved (sound : process.Sound) (index : Nat) (ownedUa : Address)
    (outcome : StartOutcome) (dropped : Bool) :
    AdapterMoved index (process.adapters index) (.start index ownedUa outcome dropped)
      (.started (process.start index ownedUa outcome dropped).1)
      ((process.start index ownedUa outcome dropped).2.adapters index) := by
  have claims := start_claims (process.adapterOf index) ownedUa outcome
  have started := start_started (adapterOf_sound (sound.adapters index)) ownedUa outcome
  have after_eq : (process.start index ownedUa outcome dropped).2.adapters index =
      ((process.adapterOf index).start ownedUa outcome).2 := Function.update_self _ _ _
  rw [after_eq, show (process.start index ownedUa outcome dropped).1 =
    ((process.adapterOf index).start ownedUa outcome).1 from rfl]
  generalize (process.adapterOf index).start ownedUa outcome = result at claims started
  obtain ⟨answer, after⟩ := result
  cases claims with
  | refused => exact .stays _ _ rfl (.inl rfl) id (UInt64.le_refl _) (.inl rfl)
  | failed unclaimed released was unregistered contexts mailbox =>
      refine .stays _ _ (unregistered.trans was.symm) ?_ ?_ ?_ ?_
      · exact contexts.imp id fun registers => ⟨registers, unregistered⟩
      · intro active
        rw [inactive_of_unregistered unregistered] at active
        cases active
      · cases started with
        | refused => exact UInt64.le_refl _
        | failed _ _ advances => exact advances.issued
      · rcases mailbox with same | ⟨ended, _⟩
        · exact .inl (congrArg BaresipEventMailbox.session same)
        · exact .inr ended
  | begun unclaimed claimed was registered contexts =>
      cases started with
      | begun represents adapterSound newSession issued queued =>
          have current : after.mailbox.session = after.captured.mailboxSession :=
            represents.opened.mailbox
          refine .restarted ownedUa outcome dropped was registered contexts ?_ ?_ ?_
          · exact current ▸ newSession
          · exact current.trans issued
          · rw [current]
            simp [BaresipSdkEventAdapter.session, show after.active = true from represents.active]

theorem Sound.deliver_moved (sound : process.Sound) (index context : Nat) (delivery : Delivery) :
    AdapterMoved index (process.adapters index) (.deliver index context delivery) .done
      ((process.deliver index context delivery).adapters index) := by
  have settles := callback_settles (sound.mailboxes index) delivery (some context)
  have keeps := callback_keeps (process.adapters index) delivery.type delivery.event (some context)
    delivery.uaIsregistered
  rw [show (process.deliver index context delivery).adapters index = _ from
    Function.update_self _ _ _]
  refine .stays _ _ settles.registered (.inl keeps.contexts) ?_ ?_ keeps.mailbox.2
  · intro active
    by_contra inactive
    rw [callback_inactive (by simpa using inactive)] at active
    exact inactive active
  · exact UInt64.le_of_eq keeps.mailbox.1.symm

/-- What each step does to each adapter. -/
theorem Sound.moved (sound : process.Sound) (call : ProcessCall) (index : Nat) :
    AdapterMoved index (process.adapters index) call (processStep process call).1
      ((processStep process call).2.adapters index) := by
  cases call with
  | start target ownedUa outcome dropped =>
      by_cases same : index = target
      · subst same
        exact sound.start_moved index ownedUa outcome dropped
      · rw [show (processStep process (.start target ownedUa outcome dropped)).2.adapters index =
          process.adapters index from adapters_withAdapter same _]
        exact .unchanged _ _ _
  | stop target =>
      by_cases same : index = target
      · subst same
        rw [show (processStep process (.stop index)).2.adapters index =
          (process.adapterOf index).stop from Function.update_self _ _ _]
        exact .stopped rfl rfl rfl rfl
      · rw [show (processStep process (.stop target)).2.adapters index =
          process.adapters index from adapters_withAdapter same _]
        exact .unchanged _ _ _
  | deliver target context delivery =>
      by_cases same : index = target
      · subst same
        exact sound.deliver_moved index context delivery
      · rw [show (processStep process (.deliver target context delivery)).2.adapters index =
          process.adapters index from adapters_withAdapter same _]
        exact .unchanged _ _ _
  | drain target =>
      by_cases same : index = target
      · subst same
        rw [show (processStep process (.drain index)).2.adapters index =
          (process.adapters index).withMailbox (process.adapters index).mailbox.drain.2 from
            Function.update_self _ _ _]
        exact .stays _ _ rfl (.inl rfl) id (UInt64.le_refl _) (.inl rfl)
      · rw [show (processStep process (.drain target)).2.adapters index =
          process.adapters index from adapters_withAdapter same _]
        exact .unchanged _ _ _

/-- The context of the epoch that the adapter is in. -/
def Current (process : SdkProcess) (index context : Nat) : Prop :=
  (process.adapters index).active = true ∧
    context + 1 = (process.adapters index).contexts.length

/-- Only the last context carries the epoch of an active adapter: the generations of the contexts
are strictly increasing. -/
theorem Sound.position {index position : Nat} {captured : CapturedSession} (sound : process.Sound)
    (active : (process.adapters index).active = true)
    (known : (process.adapters index).contexts[position]? = some captured)
    (generation : captured.fenceGeneration = (process.adapters index).lifecycle.fence.generation) :
    position + 1 = (process.adapters index).contexts.length := by
  obtain ⟨session, represents⟩ := (sound.adapters index).kept active
  obtain ⟨inside, at_position⟩ := List.getElem?_eq_some_iff.mp known
  have last : (process.adapters index).contexts[(process.adapters index).contexts.length - 1]? =
      some (process.adapters index).captured := by
    rw [← List.getLast?_eq_getElem?]
    exact represents.context
  obtain ⟨lastInside, at_last⟩ := List.getElem?_eq_some_iff.mp last
  by_contra apart
  have earlier : position < (process.adapters index).contexts.length - 1 := by omega
  have ordered := List.pairwise_iff_getElem.mp (sound.epochs index) position _ inside lastInside earlier
  rw [at_position, at_last, generation, represents.opened.generation] at ordered
  exact UInt64.lt_irrefl _ ordered

/-- A callback with a context that is not current does nothing at all. -/
theorem Sound.deliver_stale (sound : process.Sound) {index context : Nat}
    (stale : ¬ process.Current index context) (delivery : Delivery) :
    process.deliver index context delivery = process := by
  have inert : (process.adapters index).callback delivery.type delivery.event (some context)
      delivery.uaIsregistered = process.adapters index := by
    by_cases active : (process.adapters index).active = true
    rotate_left
    · exact callback_inactive (by simpa using active) _ _ _ _
    unfold callback
    split
    · rfl
    next captured known =>
    split
    · rfl
    next lifecycle held =>
    obtain ⟨generation, _⟩ := BaresipCallbackLifecycle.holdNativeCallback_some held
    exact absurd ⟨active, sound.position active known generation⟩ stale
  unfold SdkProcess.deliver
  rw [inert, withAdapter_self]

theorem Sound.stale_step (sound : process.Sound) {index context : Nat}
    (registered : context < (process.adapters index).contexts.length)
    (stale : ¬ process.Current index context) (call : ProcessCall) :
    context < ((processStep process call).2.adapters index).contexts.length ∧
      ¬ (processStep process call).2.Current index context := by
  have moved := sound.moved call index
  unfold Current at stale ⊢
  generalize (processStep process call).1 = answer at moved
  generalize (processStep process call).2.adapters index = after at moved ⊢
  -- one more context is the last one; without it the epoch would have to be the old one
  have grown (registers : (process.adapters index).Registers after) :
      context < after.contexts.length ∧ ¬ (after.active = true ∧ context + 1 = after.contexts.length) := by
    have length := Registers.length registers
    constructor
    · omega
    · rintro ⟨_, last⟩
      omega
  have same (contexts : after.contexts = (process.adapters index).contexts)
      (active : after.active = true → (process.adapters index).active = true) :
      context < after.contexts.length ∧ ¬ (after.active = true ∧ context + 1 = after.contexts.length) := by
    rw [contexts]
    exact ⟨registered, fun current => stale ⟨active current.1, current.2⟩⟩
  cases moved with
  | restarted ownedUa outcome dropped was began contexts newSession issued captured =>
      exact grown contexts
  | stopped unregistered contexts generation ended =>
      apply same contexts
      intro active
      rw [inactive_of_unregistered unregistered] at active
      cases active
  | stays call answer kept contexts active generation session =>
      rcases contexts with unchanged | ⟨registers, _⟩
      · exact same unchanged active
      · exact grown registers

theorem Sound.start_other (sound : process.Sound) {holder context index : Nat}
    (subscribed : process.subscription = some (holder, context)) (apart : holder ≠ index)
    (ownedUa : Address) (outcome : StartOutcome) (dropped : Bool) :
    let after := (process.start index ownedUa outcome dropped).2
    after.subscription = process.subscription ∧ after.processOwner = process.processOwner ∧
      after.adapters holder = process.adapters holder := by
  have owner := (sound.owned holder).mp (sound.current holder context subscribed).1
  have foreign : (process.adapterOf index).processOwner = .other := by
    simp [adapterOf, ownerSeenBy, owner, apart]
  have refused : (process.adapterOf index).start ownedUa outcome =
      (false, process.adapterOf index) := by
    unfold BaresipSdkEventAdapter.start
    split
    · rfl
    · rw [if_pos (by rw [foreign]; decide)]
  intro after
  have result : after = process.withAdapter index (process.adapterOf index) :=
    congrArg Prod.snd (start_refused refused)
  rw [result]
  exact ⟨rfl, rfl, adapters_withAdapter apart _⟩

theorem Sound.stop_other (sound : process.Sound) {holder context index : Nat}
    (subscribed : process.subscription = some (holder, context)) (apart : holder ≠ index) :
    let after := process.stop index
    after.subscription = process.subscription ∧ after.processOwner = process.processOwner ∧
      after.adapters holder = process.adapters holder := by
  have owner := (sound.owned holder).mp (sound.current holder context subscribed).1
  have foreign : process.ownerSeenBy index = .other := by simp [ownerSeenBy, owner, apart]
  have unregistered : ¬ (process.adapters index).registered = true := by
    intro registered
    have claimed := (sound.owned index).mp registered
    rw [owner] at claimed
    cases claimed
    exact apart rfl
  refine ⟨?_, ?_, adapters_withAdapter apart _⟩
  · exact if_neg unregistered
  · have kept : (process.adapterOf index).stop.processOwner = .other := by
      simp [BaresipSdkEventAdapter.stop, releaseOwner, withoutCall, adapterOf, foreign]
    change process.ownerAfter index (process.adapterOf index).stop.processOwner = process.processOwner
    rw [kept]
    rfl

end SdkProcess

/-! ## Whole runs -/

namespace ProcessStage

/-- The callback ran into `fail_closed`: the epoch of the adapter ended in it. -/
def FailsClosed (stage : ProcessStage) (index : Nat) : Prop :=
  (∃ context delivery, stage.input = .deliver index context delivery) ∧
    (stage.before.adapters index).active = true ∧ (stage.after.adapters index).active = false

/-- From this stage on the context belongs to a past epoch: its adapter was stopped, a later start
registered a context of its own, its own start failed, or its epoch failed closed. -/
def Outdates (stage : ProcessStage) (index context : Nat) : Prop :=
  context < (stage.after.adapters index).contexts.length ∧
    (stage.input = .stop index ∨
      (context < (stage.before.adapters index).contexts.length ∧
        (stage.before.adapters index).contexts.length <
          (stage.after.adapters index).contexts.length) ∨
      (stage.output = .started false ∧
        context = (stage.before.adapters index).contexts.length) ∨
      stage.FailsClosed index)

/-- A start of the adapter that began a session with a larger number. -/
def Restarts (stage : ProcessStage) (index : Nat) (closed : UInt64) : Prop :=
  (∃ ownedUa outcome dropped, stage.input = .start index ownedUa outcome dropped) ∧
    stage.output = .started true ∧ closed < (stage.after.adapters index).session

theorem outdates_stale {process : SdkProcess} (sound : process.Sound) {call : ProcessCall}
    {index context : Nat} (outdates : Outdates (stageOf processStep process call) index context) :
    ¬ (processStep process call).2.Current index context := by
  obtain ⟨inside, stopped | ⟨older, grown⟩ | ⟨failed, own⟩ | ⟨_, _, inactive⟩⟩ := outdates
  · rintro ⟨active, _⟩
    change call = .stop index at stopped
    subst stopped
    rw [show (processStep process (.stop index)).2.adapters index =
      (process.adapterOf index).stop from Function.update_self _ _ _,
      inactive_of_unregistered rfl] at active
    cases active
  · rintro ⟨_, last⟩
    change (process.adapters index).contexts.length <
      ((processStep process call).2.adapters index).contexts.length at grown
    change context < (process.adapters index).contexts.length at older
    omega
  · rintro ⟨active, _⟩
    change (processStep process call).1 = .started false at failed
    change context < ((processStep process call).2.adapters index).contexts.length at inside
    change context = (process.adapters index).contexts.length at own
    have moved := sound.moved call index
    rw [failed] at moved
    cases moved with
    | stays _ _ kept contexts still generation session =>
        rcases contexts with same | ⟨_, unregistered⟩
        · rw [same, own] at inside
          exact absurd inside (Nat.lt_irrefl _)
        · rw [inactive_of_unregistered unregistered] at active
          cases active
  · rintro ⟨active, _⟩
    rw [show ((processStep process call).2.adapters index).active = false from inactive] at active
    cases active

end ProcessStage

/-- Between the two stages the adapter was stopped and then restarted. -/
def Reopens (index : Nat) (closed : UInt64) (between : List ProcessStage) : Prop :=
  ∃ first stop middle start last, between = first ++ stop :: (middle ++ start :: last) ∧
    stop.input = .stop index ∧ start.Restarts index closed

theorem Reopens.concat {index : Nat} {closed : UInt64} {between : List ProcessStage}
    (reopens : Reopens index closed between) (stage : ProcessStage) :
    Reopens index closed (between ++ [stage]) := by
  obtain ⟨first, stop, middle, start, last, rfl, stopped, restarts⟩ := reopens
  exact ⟨first, stop, middle, start, last ++ [stage], by simp, stopped, restarts⟩

/-- What an adapter whose epoch `closed` failed has been through since. -/
inductive Since (index : Nat) (closed : UInt64) (history : List ProcessStage)
    (adapter : BaresipSdkEventAdapter) : Prop where
  | waiting (registered : adapter.registered = true) (ended : adapter.mailbox.session = 0)
  | stopped (ended : adapter.mailbox.session = 0)
      (found : ∃ first stop rest, history = first ++ stop :: rest ∧ stop.input = .stop index)
  | reopened (session : adapter.mailbox.session = 0 ∨ closed < adapter.mailbox.session)
      (reopens : Reopens index closed history)

theorem since_stage {stage : ProcessStage} {index : Nat} {closed : UInt64}
    {history : List ProcessStage}
    (moved : AdapterMoved index (stage.before.adapters index) stage.input stage.output
      (stage.after.adapters index))
    (issued : closed ≤ (stage.before.adapters index).mailbox.generation)
    (since : Since index closed history (stage.before.adapters index)) :
    closed ≤ (stage.after.adapters index).mailbox.generation ∧
      Since index closed (history ++ [stage]) (stage.after.adapters index) := by
  generalize answer_eq : stage.output = answer at moved
  generalize input_eq : stage.input = call at moved
  cases moved with
  | restarted ownedUa outcome dropped was registered contexts newSession began captured =>
      have larger : closed < (stage.after.adapters index).mailbox.session :=
        UInt64.lt_of_le_of_lt issued newSession
      have restarts : stage.Restarts index closed :=
        ⟨⟨ownedUa, outcome, dropped, input_eq⟩, answer_eq, captured.symm ▸ larger⟩
      refine ⟨began ▸ UInt64.le_of_lt larger, ?_⟩
      cases since with
      | waiting still ended =>
          rw [was] at still
          cases still
      | stopped ended found =>
          obtain ⟨first, stop, rest, rfl, stopped⟩ := found
          exact .reopened (.inr larger) ⟨first, stop, rest, stage, [], by simp, stopped, restarts⟩
      | reopened session reopens => exact .reopened (.inr larger) (reopens.concat stage)
  | stopped unregistered contexts generation ended =>
      refine ⟨generation ▸ issued, .stopped ended ⟨history, stage, [], rfl, input_eq⟩⟩
  | stays _ _ kept contexts active generation session =>
      refine ⟨UInt64.le_trans issued generation, ?_⟩
      have stillEnded (ended : (stage.before.adapters index).mailbox.session = 0) :
          (stage.after.adapters index).mailbox.session = 0 :=
        session.elim (fun same => same.trans ended) id
      cases since with
      | waiting registered ended => exact .waiting (kept.trans registered) (stillEnded ended)
      | stopped ended found =>
          obtain ⟨first, stop, rest, rfl, stopped⟩ := found
          exact .stopped (stillEnded ended) ⟨first, stop, rest ++ [stage], by simp, stopped⟩
      | reopened current reopens =>
          refine .reopened ?_ (reopens.concat stage)
          rcases session with same | ended
          · exact same ▸ current
          · exact .inl ended

/-- The adapter is silent after `fail_closed` until it is stopped and restarted, and a restarted one
delivers nothing of the closed epoch. -/
theorem silent_since {process : SdkProcess} (sound : process.Sound) {index : Nat}
    {closed : UInt64} {history : List ProcessStage}
    (since : Since index closed history (process.adapters index)) :
    (∀ event ∈ (process.adapters index).mailbox.drain.1.delivered, closed < event.session) ∧
      ((process.adapters index).mailbox.drain.1.delivered ≠ [] → Reopens index closed history) := by
  have mailbox := sound.mailboxes index
  have delivered : ∀ event ∈ (process.adapters index).mailbox.drain.1.delivered,
      event ∈ (process.adapters index).mailbox.queued := by
    cases lost : (process.adapters index).mailbox.overflow with
    | true => simp [BaresipEventMailbox.drain_withheld lost]
    | false => simp [BaresipEventMailbox.drain_delivered lost]
  have empty (ended : (process.adapters index).mailbox.session = 0) :
      (process.adapters index).mailbox.drain.1.delivered = [] := by
    apply List.eq_nil_iff_forall_not_mem.mpr
    intro event member
    have queued := delivered event member
    rw [mailbox.idle ended] at queued
    cases queued
  cases since with
  | waiting registered ended => simp [empty ended]
  | stopped ended found => simp [empty ended]
  | reopened session reopens =>
      rcases session with ended | larger
      · exact ⟨by simp [empty ended], fun _ => reopens⟩
      · refine ⟨?_, fun _ => reopens⟩
        intro event member
        rw [mailbox.own event (delivered event member)]
        exact larger

/-- What a run of the process shows of its adapters. -/
structure OneSubscription (history : List ProcessStage) : Prop where
  /-- the subscribed adapter claimed the process, and no other is subscribed -/
  owner : ∀ stage ∈ history, ∀ index, (stage.after.adapters index).registered = true →
    stage.after.processOwner = some index ∧
      ∃ context, stage.after.subscription = some (index, context) ∧
        context + 1 = (stage.after.adapters index).contexts.length
  subscribed : ∀ stage ∈ history, ∀ index context,
    stage.after.subscription = some (index, context) →
      (stage.after.adapters index).registered = true
  undisturbed : ∀ stage ∈ history, ∀ holder context index,
    stage.before.subscription = some (holder, context) → holder ≠ index →
    (stage.input = .stop index ∨
      ∃ ownedUa outcome dropped, stage.input = .start index ownedUa outcome dropped) →
    stage.after.subscription = stage.before.subscription ∧
      stage.after.processOwner = stage.before.processOwner ∧
      stage.after.adapters holder = stage.before.adapters holder
  inert : history.Pairwise fun earlier later => ∀ index context delivery,
    earlier.Outdates index context → later.input = .deliver index context delivery →
      later.after = later.before
  silent : ∀ before closing between drained after index batch,
    history = before ++ closing :: (between ++ drained :: after) → closing.FailsClosed index →
    drained.input = .drain index → drained.output = .drained batch →
      (∀ event ∈ batch.delivered, (closing.before.adapters index).session < event.session) ∧
        (batch.delivered ≠ [] →
          Reopens index (closing.before.adapters index).session between)

/-- What every step from a sound process does holds of every stage of a run. -/
theorem process_forall {Holds : ProcessStage → Prop}
    (each : ∀ process call, process.Sound → Holds (stageOf processStep process call))
    (calls : List ProcessCall) : ∀ stage ∈ stages processStep {} calls, Holds stage :=
  stages_forall (fun _ call (sound : SdkProcess.Sound _) => sound.step call) each
    SdkProcess.sound_initial calls

theorem inert_pairwise (calls : List ProcessCall) :
    (stages processStep {} calls).Pairwise fun (earlier later : ProcessStage) =>
      ∀ index context delivery, earlier.Outdates index context →
        later.input = .deliver index context delivery → later.after = later.before := by
  refine stages_pairwise SdkProcess.Sound (fun earlier process => ∀ index context,
    ProcessStage.Outdates earlier index context →
      context < (process.adapters index).contexts.length ∧ ¬ process.Current index context) _
    (fun process call sound => sound.step call) ?_ ?_ ?_ SdkProcess.sound_initial calls
  · intro process call sound index context outdates
    exact ⟨outdates.1, ProcessStage.outdates_stale sound outdates⟩
  · intro earlier process call sound remembered index context outdates
    obtain ⟨registered, stale⟩ := remembered index context outdates
    exact sound.stale_step registered stale call
  · intro earlier process call sound remembered index context delivery outdates delivers
    change call = .deliver index context delivery at delivers
    subst delivers
    exact sound.deliver_stale (remembered index context outdates).2 delivery

theorem silent_after_failClosed {calls : List ProcessCall}
    {before between after : List ProcessStage} {closing drained : ProcessStage} {index : Nat}
    {batch : Batch}
    (run : stages processStep {} calls = before ++ closing :: (between ++ drained :: after))
    (closes : closing.FailsClosed index) (drains : drained.input = .drain index)
    (output : drained.output = .drained batch) :
    (∀ event ∈ batch.delivered, (closing.before.adapters index).session < event.session) ∧
      (batch.delivered ≠ [] → Reopens index (closing.before.adapters index).session between) := by
  obtain ⟨first, call, rest, rfl, rfl, rfl, later⟩ := stages_split run
  have sound : (finalState processStep {} first).Sound :=
    finalState_invariant (fun _ call known => known.step call) SdkProcess.sound_initial first
  obtain ⟨second, last, others, rfl, rfl, rfl, -⟩ := stages_split later.symm
  generalize finalState processStep {} first = process
    at sound closes drains output ⊢
  obtain ⟨⟨context, delivery, delivers⟩, active, inactive⟩ := closes
  change call = .deliver index context delivery at delivers
  subst delivers
  obtain ⟨session, represents⟩ := (sound.adapters index).kept active
  have closed_eq : (process.adapters index).session = (process.adapters index).mailbox.session := by
    rw [BaresipSdkEventAdapter.session, if_pos represents.active]
    exact represents.opened.mailbox.symm
  have issued : (process.adapters index).session ≤ (process.adapters index).mailbox.generation := by
    rw [closed_eq]
    exact (sound.mailboxes index).current_le
  have same : (processStep process (.deliver index context delivery)).2.adapters index =
      (process.adapters index).callback delivery.type delivery.event (some context)
        delivery.uaIsregistered := Function.update_self _ _ _
  obtain ⟨registered, ended⟩ := callback_ends (sound.adapters index) (sound.mailboxes index) active
    delivery (some context) (same ▸ inactive)
  have keeps := callback_keeps (process.adapters index) delivery.type delivery.event (some context)
    delivery.uaIsregistered
  rw [← same] at registered ended keeps
  have through := history_invariant (fun (history : List ProcessStage) (current : SdkProcess) =>
      current.Sound ∧
        (process.adapters index).session ≤ (current.adapters index).mailbox.generation ∧
        Since index (process.adapters index).session history (current.adapters index))
    (fun _ => True) ?_ [] ⟨sound.step _, keeps.mailbox.1 ▸ issued, .waiting registered ended⟩
    (fun stage (_ : stage ∈ stages processStep _ second) => trivial)
  · obtain ⟨nextSound, _, since⟩ := through
    change last = .drain index at drains
    subst drains
    cases output
    exact silent_since nextSound since
  · rintro history current call ⟨known, bound, since⟩ -
    have moved : AdapterMoved index ((stageOf processStep current call).before.adapters index) _ _
        ((stageOf processStep current call).after.adapters index) := known.moved call index
    exact ⟨known.step call, since_stage moved bound since⟩

/--
In every run over any adapters, one adapter at most is subscribed, and it owns the
process; the starts and stops of the others leave it alone; a context of a past
epoch is inert; and an epoch that failed closed is silent for good.
-/
theorem one_subscription (calls : List ProcessCall) :
    OneSubscription (stages processStep {} calls) where
  owner := by
    refine process_forall ?_ calls
    intro process call sound index registered
    have after := sound.step call
    obtain ⟨context, subscribed⟩ := after.subscribed index registered
    exact ⟨(after.owned index).mp registered, context, subscribed,
      (after.current index context subscribed).2⟩
  subscribed := by
    refine process_forall ?_ calls
    intro process call sound index context subscribed
    exact ((sound.step call).current index context subscribed).1
  undisturbed := by
    refine process_forall ?_ calls
    rintro process call sound holder context index subscribed apart (stops | ⟨ownedUa, outcome, dropped, starts⟩)
    · change call = .stop index at stops
      subst stops
      exact sound.stop_other subscribed apart
    · change call = .start index ownedUa outcome dropped at starts
      subst starts
      exact sound.start_other subscribed apart ownedUa outcome dropped
  inert := inert_pairwise calls
  silent := fun _ _ _ _ _ _ _ run closes drains output =>
    silent_after_failClosed run closes drains output

end AxeVoice.Native
