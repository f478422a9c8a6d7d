import AxeVoice.Native.Agreement
import AxeVoice.Native.Refresh

/-!
# The tick cadence

One session of native events, drained in any rhythm.  The answers of the user
agent follow its last registration event.  What the adapter publishes does not
depend on the rhythm; what the projection makes of it does, as soon as one drain
can deliver a refresh together with the loss of the registration.
-/

namespace AxeVoice.Native

open AxeVoice.Sip
open AxeVoice.Foundation

/-- A native event as the SDK emits it. -/
structure NativeEvent where
  type : BeventEv
  event : Option Bevent

/-- Whether the last registration event was `BEVENT_REGISTER_OK`, after one of this type. -/
def registeredByType (registered : Bool) (type : BeventEv) : Bool :=
  match type with
  | .registerOk => true
  | .registering | .registerFail | .unregistering => false
  | _ => registered

/-- `ua_isregistered` of the owned user agent, after an event. -/
def uaRegistered (owner : Address) (registered : Bool) (native : NativeEvent) : Bool :=
  match native.event with
  | none => registered
  | some event =>
      if event.ua ≠ owner then registered else registeredByType registered native.type

/-- The delivery of an event, with the truthful answers of the user agent. -/
def truthful (owner : Address) (registered : Bool) (native : NativeEvent) : Delivery :=
  ⟨native.type, native.event, fun _ => uaRegistered owner registered native⟩

/-- The events of one segment, delivered to the context at this position. -/
def deliverSteps (owner : Address) (context : Nat) :
    Bool → List NativeEvent → List SdkStep
  | _, [] => []
  | registered, native :: rest =>
      .deliver (truthful owner registered native) (some context) ::
        deliverSteps owner context (uaRegistered owner registered native) rest

/-- The segments of a cut, each followed by a drain. -/
def cadenceSteps (owner : Address) (context : Nat) : Bool → List (List NativeEvent) → List SdkStep
  | _, [] => []
  | registered, segment :: rest =>
      let after := segment.foldl (uaRegistered owner) registered
      deliverSteps owner context registered segment ++ .drain after ::
        cadenceSteps owner context after rest

/-- The events that a session publishes for a native trace, without closing. -/
inductive Accepts (owner : Address) (captured : CapturedSession) :
    SdkSession → Bool → List NativeEvent → List BaresipNativeEvent → SdkSession → Bool → Prop where
  | nil {session : SdkSession} {registered : Bool} :
      Accepts owner captured session registered [] [] session registered
  | stays {session last : SdkSession} {registered final : Bool} {native : NativeEvent}
      {rest : List NativeEvent} {events : List BaresipNativeEvent}
      (reacted : session.react owner (truthful owner registered native) = .stays)
      (later : Accepts owner captured session (uaRegistered owner registered native) rest events
        last final) :
      Accepts owner captured session registered (native :: rest) events last final
  | publishes {session next last : SdkSession} {registered final : Bool} {native : NativeEvent}
      {rest : List NativeEvent} {events : List BaresipNativeEvent} {kind : BaresipEventKind}
      {token : UInt64}
      (reacted : session.react owner (truthful owner registered native) =
        .publishes kind token next)
      (later : Accepts owner captured next (uaRegistered owner registered native) rest events
        last final) :
      Accepts owner captured session registered (native :: rest)
        (BaresipCallbackLifecycle.eventOf captured kind token :: events) last final

variable {owner : Address} {captured : CapturedSession} {session last : SdkSession}
  {registered final : Bool} {natives : List NativeEvent} {events : List BaresipNativeEvent}

theorem Accepts.final_eq
    (accepts : Accepts owner captured session registered natives events last final) :
    final = natives.foldl (uaRegistered owner) registered := by
  induction accepts with
  | nil => rfl
  | stays _ _ ih => exact ih
  | publishes _ _ ih => exact ih

/-- A trace is accepted in one way only. -/
theorem Accepts.unique {others : List BaresipNativeEvent} {otherLast : SdkSession} {otherFinal : Bool}
    (accepts : Accepts owner captured session registered natives events last final)
    (also : Accepts owner captured session registered natives others otherLast otherFinal) :
    others = events := by
  induction accepts generalizing others with
  | nil =>
      cases also
      rfl
  | stays reacted _ ih =>
      cases also with
      | stays _ later => exact ih later
      | publishes published => exact nomatch reacted.symm.trans published
  | publishes reacted _ ih =>
      cases also with
      | stays stayed => exact nomatch reacted.symm.trans stayed
      | publishes published later =>
          cases reacted.symm.trans published
          rw [ih later]

/-- A cut of the published events is a cut of the native trace. -/
theorem Accepts.split {first second : List BaresipNativeEvent}
    (accepts : Accepts owner captured session registered natives (first ++ second) last final) :
    ∃ before after middle between, natives = before ++ after ∧
      Accepts owner captured session registered before first middle between ∧
      Accepts owner captured middle between after second last final := by
  generalize whole : first ++ second = events at accepts
  induction accepts generalizing first with
  | nil =>
      obtain ⟨rfl, rfl⟩ := List.append_eq_nil_iff.mp whole
      exact ⟨[], [], _, _, rfl, .nil, .nil⟩
  | stays reacted later ih =>
      obtain ⟨before, after, middle, between, rfl, left, right⟩ := ih whole
      exact ⟨_ :: before, after, middle, between, rfl, .stays reacted left, right⟩
  | publishes reacted later ih =>
      cases first with
      | nil =>
          cases whole
          exact ⟨[], _, _, _, rfl, .nil, .publishes reacted later⟩
      | cons event rest =>
          rw [List.cons_append, List.cons.injEq] at whole
          obtain ⟨rfl, whole⟩ := whole
          obtain ⟨before, after, middle, between, rfl, left, right⟩ := ih whole
          exact ⟨_ :: before, after, middle, between, rfl, .publishes reacted left, right⟩

/-- The segments of a cut, with the events that each of them publishes. -/
inductive AcceptsCut (owner : Address) (captured : CapturedSession) :
    SdkSession → Bool → List (List NativeEvent) → List (List BaresipNativeEvent) →
      SdkSession → Bool → Prop where
  | nil {session : SdkSession} {registered : Bool} :
      AcceptsCut owner captured session registered [] [] session registered
  | cons {session middle last : SdkSession} {registered between final : Bool}
      {segment : List NativeEvent} {batch : List BaresipNativeEvent}
      {segments : List (List NativeEvent)} {batches : List (List BaresipNativeEvent)}
      (first : Accepts owner captured session registered segment batch middle between)
      (later : AcceptsCut owner captured middle between segments batches last final) :
      AcceptsCut owner captured session registered (segment :: segments) (batch :: batches) last final

theorem Accepts.prefix {first second : List NativeEvent}
    (accepts : Accepts owner captured session registered (first ++ second) events last final) :
    ∃ left right middle between, events = left ++ right ∧
      Accepts owner captured session registered first left middle between ∧
      Accepts owner captured middle between second right last final := by
  induction first generalizing session registered events with
  | nil => exact ⟨[], events, session, registered, rfl, .nil, accepts⟩
  | cons native rest ih =>
      cases accepts with
      | stays reacted later =>
          obtain ⟨left, right, middle, between, rfl, before, after⟩ := ih later
          exact ⟨left, right, middle, between, rfl, .stays reacted before, after⟩
      | publishes reacted later =>
          obtain ⟨left, right, middle, between, rfl, before, after⟩ := ih later
          exact ⟨_ :: left, right, middle, between, rfl, .publishes reacted before, after⟩

/-- Every cut of an accepted trace is accepted segment by segment. -/
theorem Accepts.cut {segments : List (List NativeEvent)}
    (accepts : Accepts owner captured session registered segments.flatten events last final) :
    ∃ batches, batches.flatten = events ∧
      AcceptsCut owner captured session registered segments batches last final := by
  induction segments generalizing session registered events with
  | nil =>
      cases accepts
      exact ⟨[], rfl, .nil⟩
  | cons segment rest ih =>
      obtain ⟨left, right, middle, between, rfl, before, after⟩ := accepts.prefix
      obtain ⟨batches, rfl, later⟩ := ih after
      exact ⟨left :: batches, rfl, .cons before later⟩

theorem Accepts.append {middle : SdkSession} {between : Bool} {later : List NativeEvent}
    {following : List BaresipNativeEvent}
    (before : Accepts owner captured session registered natives events middle between)
    (after : Accepts owner captured middle between later following last final) :
    Accepts owner captured session registered (natives ++ later) (events ++ following) last final := by
  induction before with
  | nil => exact after
  | stays reacted _ ih => exact .stays reacted (ih after)
  | publishes reacted _ ih => exact .publishes reacted (ih after)

theorem AcceptsCut.flatten {segments : List (List NativeEvent)}
    {batches : List (List BaresipNativeEvent)}
    (accepts : AcceptsCut owner captured session registered segments batches last final) :
    Accepts owner captured session registered segments.flatten batches.flatten last final := by
  induction accepts with
  | nil => exact .nil
  | cons first _ ih => exact first.append ih

theorem AcceptsCut.append {middle : SdkSession} {between : Bool}
    {first second : List (List NativeEvent)} {left right : List (List BaresipNativeEvent)}
    (before : AcceptsCut owner captured session registered first left middle between)
    (after : AcceptsCut owner captured middle between second right last final) :
    AcceptsCut owner captured session registered (first ++ second) (left ++ right) last final := by
  induction before with
  | nil => exact after
  | cons head _ ih => exact .cons head (ih after)

theorem Accepts.length_le
    (accepts : Accepts owner captured session registered natives events last final) :
    events.length ≤ natives.length := by
  induction accepts with
  | nil => exact Nat.le_refl _
  | stays _ _ ih => exact Nat.le_succ_of_le ih
  | publishes _ _ ih => exact Nat.succ_le_succ ih

/-- Single native events publish single events. -/
theorem AcceptsCut.single {segments : List (List NativeEvent)}
    {batches : List (List BaresipNativeEvent)}
    (accepts : AcceptsCut owner captured session registered segments batches last final)
    (single : ∀ segment ∈ segments, segment.length ≤ 1) : ∀ batch ∈ batches, batch.length ≤ 1 := by
  induction accepts with
  | nil => simp
  | cons first _ ih =>
      intro batch member
      rcases List.mem_cons.mp member with rfl | later
      · exact Nat.le_trans first.length_le (single _ List.mem_cons_self)
      · exact ih (fun segment known => single segment (List.mem_cons_of_mem _ known)) batch later

/-- The user agent confirms whatever registration the session holds. -/
def Truthful (session : SdkSession) (registered : Bool) : Prop :=
  session.registered = true → registered = true

theorem SdkSession.Published.registration {next : SdkSession} {kind : BaresipEventKind}
    {token : UInt64} (published : session.Published kind token next) :
    next.registered = registeredAfter session.registered kind := by
  cases published with
  | opened incoming => cases incoming <;> rfl
  | _ => rfl

theorem SdkSession.Published.ofIngress {next : SdkSession} {kind : BaresipEventKind}
    {token : UInt64} (published : session.Published kind token next) :
    OfIngress captured.mailboxSession (BaresipCallbackLifecycle.eventOf captured kind token) := by
  cases published with
  | opened incoming => cases incoming <;> exact ⟨rfl, nofun, nofun⟩
  | registerOk => exact ⟨rfl, nofun, fun _ => rfl⟩
  | _ => exact ⟨rfl, nofun, nofun⟩

/-- The reaction to an event that the owned user agent emitted. -/
theorem react_eq {native : NativeEvent} (reacts : session.react owner (truthful owner registered native) ≠ .stays)
    (open_ : session.react owner (truthful owner registered native) ≠ .closes) :
    ∃ event, native.event = some event ∧ event.ua = owner ∧
      session.react owner (truthful owner registered native) =
        session.reactOwned native.type event.call fun _ => uaRegistered owner registered native := by
  obtain ⟨type, event⟩ := native
  cases event with
  | none => cases type <;> first | exact absurd rfl open_ | exact absurd rfl reacts
  | some event =>
      by_cases foreign : event.ua ≠ owner
      · cases type <;> simp [SdkSession.react, truthful, foreign] at reacts open_
      · have owned := not_not.mp foreign
        refine ⟨event, rfl, owned, ?_⟩
        cases type <;> simp_all [SdkSession.react, truthful]

/-- The user agent's registration moves as the published event says. -/
theorem uaRegistered_published {native : NativeEvent} {next : SdkSession}
    {kind : BaresipEventKind} {token : UInt64}
    (published : session.react owner (truthful owner registered native) = .publishes kind token next) :
    uaRegistered owner registered native = registeredAfter registered kind := by
  obtain ⟨event, some, owned, reacted⟩ := react_eq (by rw [published]; nofun) (by rw [published]; nofun)
  rw [published] at reacted
  obtain ⟨type, _⟩ := native
  subst some
  have answer : uaRegistered owner registered ⟨type, .some event⟩ =
      registeredByType registered type := by
    simp only [uaRegistered]
    rw [if_neg (not_not_intro owned)]
  rw [answer] at reacted ⊢
  cases type with
  | registering =>
      simp only [SdkSession.reactOwned] at reacted
      split at reacted
      · cases reacted
        rfl
      · split at reacted <;> cases reacted
  | registerOk =>
      simp only [SdkSession.reactOwned] at reacted
      split at reacted
      · cases reacted
      split at reacted
      · cases reacted
      · cases reacted
        rfl
  | registerFail | unregistering =>
      cases reacted
      rfl
  | callIncoming | callOutgoing =>
      simp only [SdkSession.reactOwned, SdkSession.opens] at reacted
      split at reacted
      · cases reacted
        rfl
      · cases reacted
  | callEstablished | callClosed =>
      simp only [SdkSession.reactOwned, SdkSession.changes] at reacted
      split at reacted
      · cases reacted
      split at reacted
      · cases reacted
      · cases reacted
        rfl
  | _ => cases reacted

/-- An event that publishes nothing leaves the user agent's confirmation. -/
theorem Truthful.stays (before : Truthful session registered) {native : NativeEvent}
    (stayed : session.react owner (truthful owner registered native) = .stays) :
    Truthful session (uaRegistered owner registered native) := by
  obtain ⟨type, event⟩ := native
  cases event with
  | none => exact before
  | some event =>
      by_cases foreign : event.ua ≠ owner
      · simpa only [uaRegistered, if_pos foreign] using before
      have answer : uaRegistered owner registered ⟨type, some event⟩ =
          registeredByType registered type := by
        simp only [uaRegistered]
        rw [if_neg foreign]
      rw [answer]
      simp only [SdkSession.react, truthful, answer, if_neg foreign] at stayed
      intro stands
      cases type with
      | registering =>
          simp [SdkSession.reactOwned, registeredByType] at stayed
          split at stayed <;> cases stayed
      | registerOk => rfl
      | registerFail | unregistering => simp [SdkSession.reactOwned] at stayed
      | _ => exact before stands

theorem Truthful.publishes (before : Truthful session registered) {native : NativeEvent}
    {next : SdkSession} {kind : BaresipEventKind} {token : UInt64}
    (published : session.react owner (truthful owner registered native) =
      .publishes kind token next) :
    Truthful next (uaRegistered owner registered native) := by
  intro stands
  rw [(SdkSession.react_published published).registration] at stands
  rw [uaRegistered_published published]
  cases kind <;> simp_all [registeredAfter, Truthful]

/-- What acceptance keeps: the registration flag follows the published events, which are all
of the ingress. -/
theorem Accepts.spec
    (accepts : Accepts owner captured session registered natives events last final)
    (before : Truthful session registered) :
    last.registered = registeredThrough session.registered events ∧ Truthful last final ∧
      ∀ event ∈ events, OfIngress captured.mailboxSession event := by
  induction accepts with
  | nil => exact ⟨rfl, before, by simp⟩
  | stays reacted _ ih => exact ih (before.stays reacted)
  | publishes reacted _ ih =>
      have published := SdkSession.react_published reacted
      obtain ⟨standing, truth, ofIngress⟩ := ih (before.publishes reacted)
      refine ⟨by rw [standing, published.registration]; rfl, truth, ?_⟩
      intro event member
      rcases List.mem_cons.mp member with rfl | later
      · exact published.ofIngress
      · exact ofIngress event later

/-! ## One segment -/

/-- A run inside the session: the adapter keeps `session`, registered at position `context`,
and `queue` waits in the mailbox. -/
structure Inside (run : SdkRun) (owner : Address) (context : Nat) (captured : CapturedSession)
    (session : SdkSession) (queue : List BaresipNativeEvent) : Prop where
  coupled : Coupled run
  represents : run.adapter.Represents session
  owned : run.adapter.owner = owner
  context : run.adapter.contexts.length - 1 = context
  captured : run.adapter.captured = captured
  queued : run.adapter.mailbox.queued = queue

variable {run : SdkRun} {context : Nat} {queue : List BaresipNativeEvent}

/-- The adapter's epoch data after a callback that it survives. -/
theorem Inside.survives (inside : Inside run owner context captured session queue)
    {step : SdkStep} {delivery : Delivery} (delivers : step = .deliver delivery (some context))
    {next : SdkSession} (represents : (sdkStep run step).2.adapter.Represents next) :
    Inside (sdkStep run step).2 owner context captured next
      (sdkStep run step).2.adapter.mailbox.queued := by
  subst delivers
  have contexts : (sdkStep run (.deliver delivery (some context))).2.adapter.contexts =
      run.adapter.contexts := (run.adapter.callback_keeps _ _ _ _).contexts
  have sameCaptured : (sdkStep run (.deliver delivery (some context))).2.adapter.captured =
      run.adapter.captured := by
    have current := represents.context
    rw [contexts, inside.represents.context] at current
    exact (Option.some.inj current).symm
  refine ⟨coupled_step _ _ inside.coupled, represents, ?_, ?_, sameCaptured.trans inside.captured, rfl⟩
  · rw [represents.owner, sameCaptured, ← inside.represents.owner, inside.owned]
  · rw [contexts, inside.context]

/-- One delivery inside the session. -/
theorem Inside.deliver (inside : Inside run owner context captured session queue)
    (delivery : Delivery) :
    let after := (sdkStep run (.deliver delivery (some context))).2
    match session.react owner delivery with
    | .closes => after.adapter.active = false
    | .stays => Inside after owner context captured session queue
    | .publishes kind token next =>
        if queue.length = kCapacity then after.adapter.active = false
        else Inside after owner context captured next
          (queue ++ [BaresipCallbackLifecycle.eventOf captured kind token]) := by
  intro after
  have follows := BaresipSdkEventAdapter.callback_current_follows inside.represents delivery
  rw [inside.context, inside.owned] at follows
  have pending : run.adapter.mailbox.pending = queue.length := by
    rw [← inside.queued, BaresipEventMailbox.queued_length]
  cases reacted : session.react owner delivery with
  | closes =>
      rw [reacted] at follows
      exact BaresipSdkEventAdapter.inactive_of_uncaptured follows
  | stays =>
      rw [reacted] at follows
      have survives := inside.survives rfl follows.1
      have mailbox : after.adapter.mailbox.queued = queue := by
        rw [← inside.queued, BaresipSdkEventAdapter.mailbox, BaresipSdkEventAdapter.mailbox]
        exact congrArg (fun lifecycle => lifecycle.ingress.mailbox.queued) follows.2
      exact mailbox ▸ survives
  | publishes kind token next =>
      rw [reacted] at follows
      simp only [BaresipSdkEventAdapter.Follows, pending] at follows
      dsimp only
      split at follows
      · next full =>
          rw [if_pos full]
          exact BaresipSdkEventAdapter.inactive_of_uncaptured follows
      · next room =>
          rw [if_neg room]
          have survives := inside.survives rfl follows.1
          have mailbox : after.adapter.mailbox.queued =
              queue ++ [BaresipCallbackLifecycle.eventOf captured kind token] := by
            have enqueued := inside.represents.enqueued (pending ▸ room) kind token
            rw [← inside.queued, ← inside.captured, ← enqueued.1]
            exact congrArg BaresipEventMailbox.queued follows.2.2
          exact mailbox ▸ survives

/-- An accepted segment that fits into the mailbox is published whole. -/
theorem Accepts.deliver
    (accepts : Accepts owner captured session registered natives events last final)
    (inside : Inside run owner context captured session queue)
    (room : queue.length + events.length ≤ kCapacity) :
    let after := finalState sdkStep run (deliverSteps owner context registered natives)
    Inside after owner context captured last (queue ++ events) ∧ after.projection = run.projection := by
  induction accepts generalizing run queue with
  | nil =>
      rw [List.append_nil]
      exact ⟨inside, rfl⟩
  | @stays session _ registered _ native _ _ reacted _ ih =>
      have stepped := inside.deliver (truthful owner registered native)
      rw [reacted] at stepped
      exact ih stepped room
  | @publishes session _ _ registered _ native _ events _ _ reacted _ ih =>
      have stepped := inside.deliver (truthful owner registered native)
      rw [reacted] at stepped
      dsimp only at stepped
      rw [List.length_cons] at room
      rw [if_neg (by omega)] at stepped
      have later := ih stepped (by simp only [List.length_append, List.length_singleton]; omega)
      rw [List.append_assoc] at later
      exact later

/-- An adapter that is not active stays so while events arrive. -/
theorem deliverSteps_inactive (inactive : run.adapter.active = false) (owner : Address)
    (context : Nat) (registered : Bool) (natives : List NativeEvent) :
    (finalState sdkStep run (deliverSteps owner context registered natives)).adapter.active =
      false := by
  induction natives generalizing run registered with
  | nil => exact inactive
  | cons native rest ih =>
      have ignored := BaresipSdkEventAdapter.callback_inactive inactive native.type native.event
        (some context) (truthful owner registered native).uaIsregistered
      have stepped : (sdkStep run (.deliver (truthful owner registered native)
          (some context))).2.adapter.active = false :=
        (congrArg BaresipSdkEventAdapter.active ignored).trans inactive
      exact ih stepped _

/-- A segment that leaves the adapter active was accepted, and fits into the mailbox. -/
theorem Inside.accepts (inside : Inside run owner context captured session queue)
    (active : (finalState sdkStep run (deliverSteps owner context registered natives)).adapter.active =
      true) :
    ∃ events last final, Accepts owner captured session registered natives events last final ∧
      queue.length + events.length ≤ kCapacity := by
  induction natives generalizing run session registered queue with
  | nil =>
      refine ⟨[], session, registered, .nil, ?_⟩
      rw [← inside.queued, BaresipEventMailbox.queued_length]
      exact run.adapter.mailbox.pending_le
  | cons native rest ih =>
      have stepped := inside.deliver (truthful owner registered native)
      have survived : (sdkStep run (.deliver (truthful owner registered native)
          (some context))).2.adapter.active = true := by
        by_contra lost
        have stays := deliverSteps_inactive (by simpa using lost) owner context
          (uaRegistered owner registered native) rest
        exact absurd (stays.symm.trans active) (by decide)
      cases reacted : session.react owner (truthful owner registered native) with
      | closes =>
          rw [reacted] at stepped
          exact absurd (stepped.symm.trans survived) (by decide)
      | stays =>
          rw [reacted] at stepped
          obtain ⟨events, last, final, accepts, room⟩ := ih stepped active
          exact ⟨events, last, final, .stays reacted accepts, room⟩
      | publishes kind token next =>
          rw [reacted] at stepped
          dsimp only at stepped
          split at stepped
          · exact absurd (stepped.symm.trans survived) (by decide)
          · obtain ⟨events, last, final, accepts, room⟩ := ih stepped active
            refine ⟨_ :: events, last, final, .publishes reacted accepts, ?_⟩
            simp only [List.length_append, List.length_cons] at room ⊢
            omega

/-- The observation of the last drain. -/
def lastObservation (run : SdkRun) (steps : List SdkStep) : Option SipRuntimeObservation :=
  (outputs sdkStep run steps).getLast?.join

/-- The events that the drains of a run take out of the mailbox, in order. -/
def deliveredEvents (run : SdkRun) (steps : List SdkStep) : List BaresipNativeEvent :=
  (stages sdkStep run steps).flatMap fun stage =>
    match stage.input with
    | .drain _ => stage.before.adapter.mailbox.drain.1.delivered
    | _ => []

theorem deliveredEvents_append (run : SdkRun) (first second : List SdkStep) :
    deliveredEvents run (first ++ second) =
      deliveredEvents run first ++ deliveredEvents (finalState sdkStep run first) second := by
  simp [deliveredEvents, stages_append]

theorem deliveredEvents_deliverSteps (run : SdkRun) (owner : Address) (context : Nat)
    (registered : Bool) (natives : List NativeEvent) :
    deliveredEvents run (deliverSteps owner context registered natives) = [] := by
  induction natives generalizing run registered with
  | nil => rfl
  | cons native rest ih => exact ih _ _

/-- The last drain of a run that drains is the one given, or comes later. -/
theorem lastObservation_drain (run : SdkRun) (first rest : List SdkStep) (answer : Bool) :
    let drained := sdkStep (finalState sdkStep run first) (.drain answer)
    lastObservation run (first ++ .drain answer :: rest) =
      if rest = [] then drained.1 else lastObservation drained.2 rest := by
  intro drained
  have split : outputs sdkStep run (first ++ .drain answer :: rest) =
      outputs sdkStep run first ++ drained.1 :: outputs sdkStep drained.2 rest := by
    simp only [outputs, stages_append, List.map_append]
    rfl
  unfold lastObservation
  rw [split]
  cases rest with
  | nil =>
      rw [if_pos rfl]
      simp [outputs]
  | cons step later =>
      rw [if_neg (by simp), List.getLast?_append_of_ne_nil _ (by simp)]
      simp [outputs, List.getLast?_cons_cons]

/-- What a drain shows for the outcome of its session. -/
def shownOf (outcome : Option SipRuntimeObservation) : SipRuntimeObservation :=
  outcome.getD (.dropped .running)

/-- The check at the end of a batch passes, as long as the registration that it confirms is
the one that the observation stands on. -/
theorem livenessCheck_standing {number : UInt64} {outcome : Option SipRuntimeObservation}
    {registered : Bool} (stands : ∀ state, outcome = some state → Standing number registered state) :
    livenessCheck registered outcome = (outcome, shownOf outcome) := by
  cases outcome with
  | none => rfl
  | some state =>
      have live := (stands state rfl).live
      simp [livenessCheck, shownOf, live]

theorem Inside.drained (inside : Inside run owner context captured session queue) (answer : Bool) :
    Inside (sdkStep run (.drain answer)).2 owner context captured session [] :=
  ⟨coupled_step _ _ inside.coupled, inside.represents.drained, inside.owned, inside.context,
    inside.captured, rfl⟩

/-- A drain inside the session. -/
theorem Inside.drain (inside : Inside run owner context captured session queue)
    {answer : Bool} (truth : Truthful session answer)
    (stands : ∀ state, ((sessionState run.projection.legacy captured.mailboxSession).bind fun start =>
      queue.foldlM (consume session.registered captured.mailboxSession) start) = some state →
        Standing captured.mailboxSession session.registered state) :
    let drained := sdkStep run (.drain answer)
    let outcome := (sessionState run.projection.legacy captured.mailboxSession).bind fun start =>
      queue.foldlM (consume session.registered captured.mailboxSession) start
    drained.1 = some (shownOf outcome) ∧
      sessionState drained.2.projection.legacy captured.mailboxSession = outcome ∧
      Inside drained.2 owner context captured session [] := by
  have confirmed : run.adapter.nativeRegisterOkSeen answer = session.registered := by
    have owned := inside.represents.owner_ne
    have answered : (session.registered && answer) = session.registered := by
      cases stands : session.registered with
      | false => rfl
      | true => simp [truth stands]
    simp [BaresipSdkEventAdapter.nativeRegisterOkSeen, inside.represents.active, owned,
      inside.represents.sipRegistered, answered]
  obtain ⟨shown, state⟩ := drain_active inside.coupled inside.represents answer
  rw [confirmed, inside.captured, inside.queued, livenessCheck_standing stands] at shown state
  exact ⟨shown, state, inside.drained answer⟩

theorem Inside.delivered (inside : Inside run owner context captured session queue) :
    run.adapter.mailbox.drain.1.delivered = queue := by
  have intact : run.adapter.mailbox.overflow = false := inside.represents.opened.intact
  rw [BaresipEventMailbox.drain_delivered intact, inside.queued]

/-- The run of a cut: its last observation is the outcome of its batches. -/
theorem AcceptsCut.runs {segments : List (List NativeEvent)}
    {batches : List (List BaresipNativeEvent)}
    (accepts : AcceptsCut owner captured session registered segments batches last final)
    (inside : Inside run owner context captured session []) (truth : Truthful session registered)
    (fits : ∀ batch ∈ batches, batch.length ≤ kCapacity)
    (stands : ∀ state, sessionState run.projection.legacy captured.mailboxSession = some state →
      Standing captured.mailboxSession session.registered state) :
    let steps := cadenceSteps owner context registered segments
    let outcome := cutOutcome captured.mailboxSession session.registered
      (sessionState run.projection.legacy captured.mailboxSession) batches
    (finalState sdkStep run steps).adapter.active = true ∧
      deliveredEvents run steps = batches.flatten ∧
      (segments ≠ [] → lastObservation run steps = some (shownOf outcome)) := by
  induction accepts generalizing run with
  | nil => exact ⟨inside.represents.active, rfl, fun empty => absurd rfl empty⟩
  | @cons session middle _ registered between _ segment batch segments batches first later ih =>
      obtain ⟨standing, truthAfter, ofIngress⟩ := first.spec truth
      obtain ⟨filled, projection⟩ := first.deliver inside (by simpa using fits batch List.mem_cons_self)
      rw [List.nil_append] at filled
      have standsAfter : ∀ state,
          ((sessionState run.projection.legacy captured.mailboxSession).bind fun start =>
            batch.foldlM (consume middle.registered captured.mailboxSession) start) = some state →
          Standing captured.mailboxSession middle.registered state := by
        intro state consumed
        obtain ⟨start, known, folded⟩ := Option.bind_eq_some_iff.mp consumed
        rw [standing]
        exact (stands start known).foldlM_standing ofIngress folded
      rw [← projection] at standsAfter
      obtain ⟨shown, state, drained⟩ := filled.drain truthAfter standsAfter
      rw [projection] at shown state standsAfter
      have rest := ih drained truthAfter (fun other member => fits other (List.mem_cons_of_mem _ member))
        (by rw [state]; exact standsAfter)
      rw [state] at rest
      have delivered : deliveredEvents run (deliverSteps owner context registered segment) = [] :=
        deliveredEvents_deliverSteps run owner context registered segment
      dsimp only [cadenceSteps]
      rw [← first.final_eq, finalState_append, deliveredEvents_append, delivered]
      refine ⟨rest.1, ?_, fun _ => ?_⟩
      · have whole : deliveredEvents (finalState sdkStep run (deliverSteps owner context registered segment))
            (.drain between :: cadenceSteps owner context between segments) =
            batch ++ batches.flatten := by
          rw [← rest.2.1]
          exact congrArg (· ++ _) filled.delivered
        simpa using whole
      · rw [lastObservation_drain]
        simp only [cutOutcome, ← standing]
        cases later with
        | nil => simpa [cadenceSteps, cutOutcome] using shown
        | cons head tail =>
            rw [if_neg (by simp [cadenceSteps])]
            exact rest.2.2 (by simp)

theorem drain_inactive (inactive : run.adapter.active = false) (answer : Bool) :
    (sdkStep run (.drain answer)).2.adapter.active = false :=
  inactive

theorem cadenceSteps_inactive (inactive : run.adapter.active = false) (owner : Address)
    (context : Nat) (registered : Bool) (segments : List (List NativeEvent)) :
    (finalState sdkStep run (cadenceSteps owner context registered segments)).adapter.active =
      false := by
  induction segments generalizing run registered with
  | nil => exact inactive
  | cons segment rest ih =>
      simp only [cadenceSteps, finalState_append, finalState_cons]
      exact ih (drain_inactive (deliverSteps_inactive inactive owner context registered segment) _) _

/-- A cut that leaves the adapter active was accepted, in batches that fit into the mailbox. -/
theorem Inside.acceptsCut {segments : List (List NativeEvent)}
    (inside : Inside run owner context captured session [])
    (active : (finalState sdkStep run (cadenceSteps owner context registered segments)).adapter.active =
      true) :
    ∃ batches last final, AcceptsCut owner captured session registered segments batches last final ∧
      ∀ batch ∈ batches, batch.length ≤ kCapacity := by
  induction segments generalizing run session registered with
  | nil => exact ⟨[], session, registered, .nil, by simp⟩
  | cons segment rest ih =>
      simp only [cadenceSteps, finalState_append, finalState_cons] at active
      have survived : (finalState sdkStep run (deliverSteps owner context registered
          segment)).adapter.active = true := by
        by_contra lost
        have stays := cadenceSteps_inactive (drain_inactive (by simpa using lost)
          (segment.foldl (uaRegistered owner) registered)) owner context
          (segment.foldl (uaRegistered owner) registered) rest
        exact absurd (stays.symm.trans active) (by decide)
      obtain ⟨batch, middle, between, first, room⟩ := inside.accepts survived
      obtain ⟨filled, _⟩ := first.deliver inside room
      rw [← first.final_eq] at active
      obtain ⟨batches, last, final, later, fits⟩ := ih (filled.drained between) active
      refine ⟨batch :: batches, last, final, .cons first later, ?_⟩
      intro other member
      rcases List.mem_cons.mp member with rfl | known
      · simpa using room
      · exact fits other known

/-! ## The law of the cadence -/

/-- The steps of a cut after the session was begun, with its own user agent and context. -/
def SdkRun.cadence (begun : SdkRun) (registered : Bool) (cut : List (List NativeEvent)) :
    List SdkStep :=
  cadenceSteps begun.adapter.owner (begun.adapter.contexts.length - 1) registered cut

/-- The cut drains at least once, and the adapter accepts the whole trace in it. -/
structure Admissible (begun : SdkRun) (registered : Bool) (trace : List NativeEvent)
    (cut : List (List NativeEvent)) : Prop where
  nonempty : cut ≠ []
  cuts : cut.flatten = trace
  active : (finalState sdkStep begun (begun.cadence registered cut)).adapter.active = true

/-- The condition on the accepted events: the reducer refuses them even without their
refreshes, or no refresh can share a batch with a later loss of the registration. -/
def CadenceSafe (session : UInt64) (events : List BaresipNativeEvent) : Prop :=
  applyBaresipEvents session (.opened .running .verifiedNativeApi session)
      (withoutRefreshes false events) = none ∨
    RefreshesKept events

/-- A run that has just begun a session, with a number that the projection does not know. -/
structure Begun (begun : SdkRun) : Prop where
  inside : Inside begun begun.adapter.owner (begun.adapter.contexts.length - 1)
    begun.adapter.captured {} []
  fresh : sessionState begun.projection.legacy begun.adapter.captured.mailboxSession =
    some (.opened .running .verifiedNativeApi begun.adapter.captured.mailboxSession)

theorem begun_of_start {run : SdkRun} (coupled : Coupled run) {ownedUa : Address}
    {outcome : StartOutcome} (accepted : (run.adapter.start ownedUa outcome).1 = true) :
    Begun (sdkStep run (.start ownedUa outcome)).2 := by
  have next := coupled_start coupled ownedUa outcome
  have started := BaresipSdkEventAdapter.start_started coupled.sound ownedUa outcome
  simp only [sdkStep] at next ⊢
  generalize run.adapter.start ownedUa outcome = result at accepted started next
  obtain ⟨answer, after⟩ := result
  cases accepted
  cases started with
  | begun represents sound newSession issued queued =>
      exact ⟨⟨next, represents, rfl, rfl, rfl, queued⟩, sessionState_fresh coupled.tracked newSession⟩

theorem standing_opened {number : UInt64} (nonzero : number ≠ 0) :
    Standing number false (.opened .running .verifiedNativeApi number) :=
  ⟨by simp [sipProofIsCurrent, SipRuntimeObservation.opened, nonzero], rfl⟩

/-- The outcome of an accepted cut. -/
theorem Begun.shows {begun : SdkRun} (start : Begun begun) {cut : List (List NativeEvent)}
    {batches : List (List BaresipNativeEvent)}
    (accepts : AcceptsCut begun.adapter.owner begun.adapter.captured {} registered cut batches last
      final) (fits : ∀ batch ∈ batches, batch.length ≤ kCapacity) :
    let number := begun.adapter.captured.mailboxSession
    let opened := SipRuntimeObservation.opened .running .verifiedNativeApi number
    (cut ≠ [] → Admissible begun registered cut.flatten cut) ∧
      deliveredEvents begun (begun.cadence registered cut) = batches.flatten ∧
      (cut ≠ [] → lastObservation begun (begun.cadence registered cut) =
        some (shownOf (cutOutcome number false (some opened) batches))) ∧
      (Confirmed false batches → cutOutcome number false (some opened) batches =
        applyBaresipEvents number opened (withoutRefreshes false batches.flatten)) ∧
      (¬ Confirmed false batches → cutOutcome number false (some opened) batches = none) := by
  intro number opened
  have nonzero := (BaresipCallbackLifecycle.held_nonzero start.inside.represents.opened.held).2.1
  have stands : ∀ state, sessionState begun.projection.legacy number = some state →
      Standing number ({} : SdkSession).registered state := by
    intro state known
    rw [start.fresh] at known
    cases known
    exact standing_opened nonzero
  have truth : Truthful ({} : SdkSession) registered := nofun
  obtain ⟨active, delivered, shown⟩ := accepts.runs start.inside truth fits stands
  rw [start.fresh] at shown
  have ofIngress := (accepts.flatten.spec truth).2.2
  exact ⟨fun nonempty => ⟨nonempty, rfl, active⟩, delivered, shown,
    (standing_opened nonzero).cutOutcome ofIngress⟩

/-- The single events of a trace, each drained on its own. -/
def singles (trace : List NativeEvent) : List (List NativeEvent) :=
  trace.map fun native => [native]

theorem singles_flatten (trace : List NativeEvent) : (singles trace).flatten = trace := by
  induction trace with
  | nil => rfl
  | cons native rest ih => exact congrArg (native :: ·) ih

theorem length_of_mem_singles {trace segment : List NativeEvent} (member : segment ∈ singles trace) :
    segment.length ≤ 1 := by
  obtain ⟨native, _, rfl⟩ := List.mem_map.mp member
  exact Nat.le_refl 1

theorem Accepts.singles
    (accepts : Accepts owner captured session registered natives events last final) :
    ∃ batches, batches.flatten = events ∧ (∀ batch ∈ batches, batch.length ≤ 1) ∧
      AcceptsCut owner captured session registered (Native.singles natives) batches last final := by
  rw [← singles_flatten natives] at accepts
  obtain ⟨batches, flattened, cut⟩ := accepts.cut
  exact ⟨batches, flattened, cut.single fun segment => length_of_mem_singles, cut⟩

theorem Accepts.nonempty
    (accepts : Accepts owner captured session registered natives events last final)
    (some : events ≠ []) : natives ≠ [] := by
  rintro rfl
  cases accepts
  exact some rfl

/-- Events that are not safe have two cuts that end differently. -/
theorem Begun.diverges {begun : SdkRun} (start : Begun begun) {trace : List NativeEvent}
    (accepts : Accepts begun.adapter.owner begun.adapter.captured {} registered trace events last final)
    (dangerous : ¬ CadenceSafe begun.adapter.captured.mailboxSession events) :
    ∃ first second, Admissible begun registered trace first ∧ Admissible begun registered trace second ∧
      lastObservation begun (begun.cadence registered first) ≠
        lastObservation begun (begun.cadence registered second) := by
  simp only [CadenceSafe, not_or, RefreshesKept, not_forall, Nat.not_le] at dangerous
  obtain ⟨judged, before, refresh, between, loss, after, rfl, isRefresh, lost, near⟩ := dangerous
  have nonzero := (BaresipCallbackLifecycle.held_nonzero start.inside.represents.opened.held).2.1
  -- One by one, every batch is confirmed and the reducer's verdict stands.
  obtain ⟨oneByOne, flattened, single, cut⟩ := accepts.singles
  have fits : ∀ batch ∈ oneByOne, batch.length ≤ kCapacity :=
    fun batch member => Nat.le_trans (single batch member) (by decide)
  obtain ⟨admissible, _, shown, confirmed, _⟩ := start.shows cut fits
  have nonempty : singles trace ≠ [] := by
    have some := accepts.nonempty (by simp)
    simpa [singles] using some
  rw [singles_flatten] at admissible
  -- The window from the refresh to the loss fits into one batch, which is rejected.
  have regrouped : before ++ refresh :: between ++ loss :: after =
      before ++ ((refresh :: between ++ [loss]) ++ after) := by simp
  have windowed := accepts
  rw [regrouped] at windowed
  obtain ⟨early, rest, _, _, rfl, left, right⟩ := windowed.split
  obtain ⟨window, late, _, _, rfl, middle, right⟩ := right.split
  obtain ⟨first, rfl, firstSingle, firstCut⟩ := left.singles
  obtain ⟨third, _, thirdSingle, thirdCut⟩ := right.singles
  have windowFits : ∀ batch ∈ first ++ (refresh :: between ++ [loss]) :: third,
      batch.length ≤ kCapacity := by
    intro batch member
    rcases List.mem_append.mp member with known | later
    · exact Nat.le_trans (firstSingle batch known) (by decide)
    · rcases List.mem_cons.mp later with rfl | known
      · simp only [List.length_append, List.length_cons, List.length_nil]
        omega
      · exact Nat.le_trans (thirdSingle batch known) (by decide)
  obtain ⟨windowAdmissible, _, windowShown, _, rejected⟩ :=
    start.shows (firstCut.append (.cons middle thirdCut)) windowFits
  have windowNonempty : Native.singles early ++ window :: Native.singles late ≠ [] := by simp
  have cuts : (Native.singles early ++ window :: Native.singles late).flatten =
      early ++ (window ++ late) := by
    simp [singles_flatten]
  rw [cuts] at windowAdmissible
  refine ⟨_, _, admissible nonempty, windowAdmissible windowNonempty, ?_⟩
  rw [shown nonempty, windowShown windowNonempty, rejected (not_confirmed_of_window isRefresh lost),
    confirmed (confirmed_singles false single), flattened]
  obtain ⟨verdict, accepted⟩ := Option.ne_none_iff_exists'.mp judged
  have verified := (applyBaresipEvents_keeps accepted).1
  rw [accepted]
  intro same
  have evidence := congrArg SipRuntimeObservation.evidence (Option.some.inj same)
  exact nomatch (verified.symm.trans evidence : SipEvidence.verifiedNativeApi = .none)

/--
The rhythm of the drains decides nothing exactly when the accepted events are safe:
any two cuts of a native trace end in the same observation if and only if the reducer
refuses the events even without their refreshes, or every refresh is too far from any
later loss of the registration to share a batch with it.
-/
theorem tick_cadence_immaterial_iff {before : List SdkStep} {ownedUa : Address}
    {outcome : StartOutcome}
    (accepted : ((finalState sdkStep {} before).adapter.start ownedUa outcome).1 = true)
    (registered : Bool) (trace : List NativeEvent) :
    let begun := (sdkStep (finalState sdkStep {} before) (.start ownedUa outcome)).2
    (∀ first second, Admissible begun registered trace first → Admissible begun registered trace second →
        lastObservation begun (begun.cadence registered first) =
          lastObservation begun (begun.cadence registered second)) ↔
      ∀ cut, Admissible begun registered trace cut →
        CadenceSafe begun.adapter.session (deliveredEvents begun (begun.cadence registered cut)) := by
  intro begun
  have coupled : Coupled (finalState sdkStep {} before) :=
    finalState_invariant coupled_step coupled_initial before
  have start : Begun begun := begun_of_start coupled accepted
  have session : begun.adapter.session = begun.adapter.captured.mailboxSession := by
    simp [BaresipSdkEventAdapter.session, start.inside.represents.active]
  rw [session]
  constructor
  · intro agree cut admissible
    obtain ⟨batches, last, final, accepts, fits⟩ := start.inside.acceptsCut admissible.active
    have whole := accepts.flatten
    rw [admissible.cuts] at whole
    rw [(start.shows accepts fits).2.1]
    by_contra dangerous
    obtain ⟨first, second, firstAdmissible, secondAdmissible, differ⟩ :=
      start.diverges whole dangerous
    exact differ (agree first second firstAdmissible secondAdmissible)
  · intro safe first second firstAdmissible secondAdmissible
    obtain ⟨batches, last, final, accepts, fits⟩ := start.inside.acceptsCut firstAdmissible.active
    obtain ⟨others, otherLast, otherFinal, alsoAccepts, otherFits⟩ :=
      start.inside.acceptsCut secondAdmissible.active
    have same : others.flatten = batches.flatten := by
      have whole := accepts.flatten
      have other := alsoAccepts.flatten
      rw [firstAdmissible.cuts] at whole
      rw [secondAdmissible.cuts] at other
      exact whole.unique other
    obtain ⟨_, delivered, shown, confirmed, rejected⟩ := start.shows accepts fits
    obtain ⟨_, _, otherShown, otherConfirmed, otherRejected⟩ := start.shows alsoAccepts otherFits
    have condition := safe first firstAdmissible
    rw [delivered] at condition
    rw [shown firstAdmissible.nonempty, otherShown secondAdmissible.nonempty]
    rw [same] at otherConfirmed
    rcases condition with refused | kept
    · rw [Classical.byCases (fun known => (confirmed known).trans refused) rejected,
        Classical.byCases (fun known => (otherConfirmed known).trans refused) otherRejected]
    · rw [confirmed (kept.confirmed_of_start fits),
        otherConfirmed ((same ▸ kept : RefreshesKept others.flatten).confirmed_of_start otherFits)]

/-- A registration, its refresh and a new attempt. -/
def refreshedThenRegistering : List NativeEvent :=
  [⟨.registering, some ⟨5, 0⟩⟩, ⟨.registerOk, some ⟨5, 0⟩⟩, ⟨.registerOk, some ⟨5, 0⟩⟩,
    ⟨.registering, some ⟨5, 0⟩⟩]

/-- Drained one by one the account is registering; in one drain its proof is gone. -/
theorem refreshedThenRegistering_diverges :
    let begun := (sdkStep {} (.start 5 ⟨true, true⟩)).2
    ¬ ∀ first second, Admissible begun false refreshedThenRegistering first →
      Admissible begun false refreshedThenRegistering second →
        lastObservation begun (begun.cadence false first) =
          lastObservation begun (begun.cadence false second) := by
  intro begun agree
  have same := agree (singles refreshedThenRegistering) [refreshedThenRegistering]
    ⟨by decide, by rfl, by decide⟩ ⟨by decide, by rfl, by decide⟩
  revert same
  decide

theorem tick_cadence_immaterial_iff_refreshedThenRegistering :
    let begun := (sdkStep (finalState sdkStep {} []) (.start 5 ⟨true, true⟩)).2
    (∀ first second, Admissible begun false refreshedThenRegistering first →
        Admissible begun false refreshedThenRegistering second →
          lastObservation begun (begun.cadence false first) =
            lastObservation begun (begun.cadence false second)) ↔
      ∀ cut, Admissible begun false refreshedThenRegistering cut →
        CadenceSafe begun.adapter.session (deliveredEvents begun (begun.cadence false cut)) :=
  tick_cadence_immaterial_iff (by decide) false refreshedThenRegistering

end AxeVoice.Native
