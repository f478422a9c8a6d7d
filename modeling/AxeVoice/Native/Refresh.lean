import AxeVoice.Native.SessionControl

/-!
# Refreshes and the cut of a batch

The confirmation of the registration is sampled once for each batch.  It matters
for one kind of event only: a refresh, which is a `REGISTER_OK` that arrives while
the registration stands.  A batch that ends without the registration rejects the
refreshes in it; every other event is judged alike in every batch.
-/

namespace AxeVoice.Native

open AxeVoice.Sip

/-- Whether the registration stands after an event of this kind. -/
def registeredAfter (registered : Bool) (kind : BaresipEventKind) : Bool :=
  match kind with
  | .registerOk => true
  | .registering | .registerFail | .unregistering => false
  | _ => registered

/-- Whether the registration stands after these events. -/
def registeredThrough (registered : Bool) (events : List BaresipNativeEvent) : Bool :=
  events.foldl (fun current event => registeredAfter current event.kind) registered

def isRefresh (registered : Bool) (event : BaresipNativeEvent) : Bool :=
  registered && event.kind = .registerOk

/-- A refresh is among the events. -/
def refreshIn (registered : Bool) : List BaresipNativeEvent → Bool
  | [] => false
  | event :: rest => isRefresh registered event || refreshIn (registeredAfter registered event.kind) rest

/-- The events without their refreshes. -/
def withoutRefreshes (registered : Bool) : List BaresipNativeEvent → List BaresipNativeEvent
  | [] => []
  | event :: rest =>
      let later := withoutRefreshes (registeredAfter registered event.kind) rest
      if isRefresh registered event then later else event :: later

/-- The events that the ingress puts into the mailbox for a session. -/
structure OfIngress (session : UInt64) (event : BaresipNativeEvent) : Prop where
  session : event.session = session
  kind : event.kind ≠ .transportLost
  registerOk : event.kind = .registerOk → event.callId = 0

/-- The observation is proved for the session, and live exactly while the registration stands. -/
structure Standing (session : UInt64) (registered : Bool) (state : SipRuntimeObservation) :
    Prop where
  current : sipProofIsCurrent state session = true
  live : live state.sip = registered

@[simp] theorem registeredThrough_nil (registered : Bool) :
    registeredThrough registered [] = registered := rfl

@[simp] theorem registeredThrough_cons (registered : Bool) (event : BaresipNativeEvent)
    (rest : List BaresipNativeEvent) :
    registeredThrough registered (event :: rest) =
      registeredThrough (registeredAfter registered event.kind) rest := rfl

theorem registeredThrough_append (registered : Bool) (first second : List BaresipNativeEvent) :
    registeredThrough registered (first ++ second) =
      registeredThrough (registeredThrough registered first) second := by
  simp [registeredThrough]

variable {session : UInt64} {registered : Bool} {state next : SipRuntimeObservation}
  {event : BaresipNativeEvent}

/-- Only refreshes are skipped, and only when the registration is confirmed. -/
theorem Standing.skipped (standing : Standing session registered state)
    (ofIngress : OfIngress session event) (confirmed : Bool) :
    skipped confirmed session state event = (confirmed && isRefresh registered event) := by
  unfold Native.skipped isRefresh
  rw [standing.current, standing.live]
  by_cases ok : event.kind = .registerOk
  · simp [ok, ofIngress.session, ofIngress.registerOk ok]
  · simp [ok]

/-- The strict reducer refuses a refresh. -/
theorem Standing.refuses_refresh (standing : Standing session registered state)
    (refresh : isRefresh registered event = true) :
    applyBaresipEvents session state [event] = none := by
  simp only [isRefresh, Bool.and_eq_true, decide_eq_true_eq] at refresh
  simp only [applyBaresipEvents]
  split
  · next applied =>
      obtain ⟨_, _, fields, accepted, _⟩ := applyBaresipEvent_applied applied
      have live := standing.live.trans refresh.1
      cases nextCallFields_ok accepted <;> simp_all [Native.live]
  · rfl

/-- An event that is applied keeps the observation standing. -/
theorem Standing.applied (standing : Standing session registered state)
    (ofIngress : OfIngress session event)
    (applied : applyBaresipEvent state session event = (.applied, next)) :
    Standing session (registeredAfter registered event.kind) next := by
  obtain ⟨_, current, fields, accepted, rfl⟩ := applyBaresipEvent_applied applied
  have switched := nextCallFields_ok accepted
  obtain ⟨_, live⟩ := standing
  refine ⟨by simpa [sipProofIsCurrent] using current, ?_⟩
  subst live
  cases switched with
  | registering kind | registerOk kind | registerFail kind | unregistering kind =>
      simp [registeredAfter, kind, Native.live]
  | incoming kind sip | outgoing kind sip => simp [registeredAfter, kind, Native.live, sip]
  | established kind opening =>
      rcases opening with sip | sip <;> simp [registeredAfter, kind, Native.live, sip]
  | closed kind ongoing =>
      rcases ongoing with sip | sip | sip <;> simp [registeredAfter, kind, Native.live, sip]
  | transportLost kind => exact absurd kind ofIngress.kind

theorem Standing.consume (standing : Standing session registered state)
    (ofIngress : OfIngress session event) {confirmed : Bool}
    (consumed : consume confirmed session state event = some next) :
    Standing session (registeredAfter registered event.kind) next := by
  unfold Native.consume at consumed
  rw [standing.skipped ofIngress] at consumed
  split at consumed
  · next skip =>
      cases consumed
      simp only [isRefresh, Bool.and_eq_true, decide_eq_true_eq] at skip
      have stands : registeredAfter registered event.kind = registered := by
        rw [skip.2.2, skip.2.1]
        rfl
      exact stands.symm ▸ standing
  · split at consumed
    · next stepped =>
        cases consumed
        exact standing.applied ofIngress stepped
    · cases consumed

/-- A batch that ends with the registration, or has no refresh in it, is judged like the
same events one by one; any other batch is rejected. -/
theorem Standing.foldlM_consume (standing : Standing session registered state)
    {events : List BaresipNativeEvent} (ofIngress : ∀ event ∈ events, OfIngress session event) :
    (refreshIn registered events = false →
      events.foldlM (Native.consume false session) state =
        events.foldlM (Native.consume true session) state) ∧
    (refreshIn registered events = true →
      events.foldlM (Native.consume false session) state = none) := by
  induction events generalizing registered state with
  | nil => exact ⟨fun _ => rfl, nofun⟩
  | cons event rest ih =>
      have first := ofIngress event List.mem_cons_self
      have later := fun other member => ofIngress other (List.mem_cons_of_mem _ member)
      simp only [List.foldlM_cons, Option.bind_eq_bind, refreshIn]
      cases refresh : isRefresh registered event with
      | true =>
          have rejected : Native.consume false session state event = none := by
            rw [consume_eq, standing.skipped first]
            simpa using standing.refuses_refresh refresh
          simp [rejected]
      | false =>
          have same : Native.consume false session state event =
              Native.consume true session state event := by
            rw [consume_eq, consume_eq, standing.skipped first, standing.skipped first, refresh]
            rfl
          rw [same, Bool.false_or]
          cases consumed : Native.consume true session state event with
          | none => simp
          | some next => exact ih (standing.consume first consumed) later

/-- The events one by one: the refreshes are skipped and the reducer judges the others. -/
theorem Standing.foldlM_consume_true (standing : Standing session registered state)
    {events : List BaresipNativeEvent} (ofIngress : ∀ event ∈ events, OfIngress session event) :
    events.foldlM (Native.consume true session) state =
      applyBaresipEvents session state (withoutRefreshes registered events) := by
  induction events generalizing registered state with
  | nil => rfl
  | cons event rest ih =>
      have first := ofIngress event List.mem_cons_self
      have later := fun other member => ofIngress other (List.mem_cons_of_mem _ member)
      have skip := standing.skipped first true
      rw [Bool.true_and] at skip
      simp only [List.foldlM_cons, Option.bind_eq_bind, withoutRefreshes]
      have continued : ∀ next, Native.consume true session state event = some next →
          rest.foldlM (Native.consume true session) next = applyBaresipEvents session next
            (withoutRefreshes (registeredAfter registered event.kind) rest) :=
        fun next consumed => ih (standing.consume first consumed) later
      rw [consume_eq, skip] at continued ⊢
      cases refresh : isRefresh registered event with
      | true => exact continued state (by simp [refresh])
      | false =>
          rw [refresh] at continued
          simp only [Bool.false_eq_true, if_false] at continued ⊢
          rw [applyBaresipEvents_cons session state event (withoutRefreshes _ rest)]
          cases applied : applyBaresipEvents session state [event] with
          | none => rfl
          | some next => exact continued next applied

/-- The observation of a session after these batches, each with the registration that it
ends with. -/
def cutOutcome (session : UInt64) (registered : Bool) (outcome : Option SipRuntimeObservation) :
    List (List BaresipNativeEvent) → Option SipRuntimeObservation
  | [] => outcome
  | batch :: rest =>
      let confirmed := registeredThrough registered batch
      cutOutcome session confirmed
        (outcome.bind fun state => batch.foldlM (consume confirmed session) state) rest

/-- Every batch ends with the registration, or has no refresh in it. -/
def Confirmed (registered : Bool) : List (List BaresipNativeEvent) → Prop
  | [] => True
  | batch :: rest =>
      (registeredThrough registered batch = true ∨ refreshIn registered batch = false) ∧
        Confirmed (registeredThrough registered batch) rest

theorem Standing.foldlM_standing (standing : Standing session registered state)
    {confirmed : Bool} {events : List BaresipNativeEvent}
    (ofIngress : ∀ event ∈ events, OfIngress session event)
    (consumed : events.foldlM (Native.consume confirmed session) state = some next) :
    Standing session (registeredThrough registered events) next := by
  induction events generalizing registered state with
  | nil =>
      cases consumed
      exact standing
  | cons event rest ih =>
      simp only [List.foldlM_cons, Option.bind_eq_bind, Option.bind_eq_some_iff] at consumed
      obtain ⟨middle, first, later⟩ := consumed
      exact ih (standing.consume (ofIngress event List.mem_cons_self) first)
        (fun other member => ofIngress other (List.mem_cons_of_mem _ member)) later

theorem cutOutcome_none (session : UInt64) (registered : Bool)
    (batches : List (List BaresipNativeEvent)) :
    cutOutcome session registered none batches = none := by
  induction batches generalizing registered with
  | nil => rfl
  | cons batch rest ih => exact ih _

/-- A confirmed cut has the outcome of the events one by one; any other cut is rejected. -/
theorem Standing.cutOutcome (standing : Standing session registered state)
    {batches : List (List BaresipNativeEvent)}
    (ofIngress : ∀ event ∈ batches.flatten, OfIngress session event) :
    (Confirmed registered batches →
      Native.cutOutcome session registered (some state) batches =
        applyBaresipEvents session state (withoutRefreshes registered batches.flatten)) ∧
    (¬ Confirmed registered batches →
      Native.cutOutcome session registered (some state) batches = none) := by
  rw [← standing.foldlM_consume_true ofIngress]
  induction batches generalizing registered state with
  | nil => exact ⟨fun _ => rfl, fun unconfirmed => absurd trivial unconfirmed⟩
  | cons batch rest ih =>
      have first : ∀ event ∈ batch, OfIngress session event :=
        fun event member => ofIngress event (by simp [member])
      have later : ∀ event ∈ rest.flatten, OfIngress session event :=
        fun event member => ofIngress event (by
          rw [List.flatten_cons]
          exact List.mem_append_right _ member)
      obtain ⟨alike, rejected⟩ := standing.foldlM_consume first
      have judged : registeredThrough registered batch = true ∨ refreshIn registered batch = false →
          batch.foldlM (Native.consume (registeredThrough registered batch) session) state =
            batch.foldlM (Native.consume true session) state := by
        rintro (stands | strict)
        · rw [stands]
        · cases registeredThrough registered batch with
          | true => rfl
          | false => exact alike strict
      simp only [Native.cutOutcome, Confirmed, List.flatten_cons, List.foldlM_append,
        Option.bind_eq_bind, Option.bind_some]
      by_cases fine : registeredThrough registered batch = true ∨ refreshIn registered batch = false
      · rw [judged fine]
        cases consumed : batch.foldlM (Native.consume true session) state with
        | none => simp [cutOutcome_none]
        | some next =>
            have tail := ih (standing.foldlM_standing first consumed) later
            simpa [fine] using tail
      · refine ⟨fun confirmed => absurd confirmed.1 fine, fun _ => ?_⟩
        simp only [not_or, Bool.not_eq_true, Bool.not_eq_false] at fine
        rw [fine.1, rejected fine.2, cutOutcome_none]

def deregisters (kind : BaresipEventKind) : Bool :=
  kind = .registering || kind = .registerFail || kind = .unregistering

/-- Between a refresh and any later loss of the registration lie enough events to keep the
two out of one batch. -/
def RefreshesKept (events : List BaresipNativeEvent) : Prop :=
  ∀ before refresh between loss after, events = before ++ refresh :: between ++ loss :: after →
    isRefresh (registeredThrough false before) refresh = true → deregisters loss.kind = true →
      kCapacity ≤ between.length + 1

theorem exists_refresh {events : List BaresipNativeEvent} (found : refreshIn registered events = true) :
    ∃ before refresh after, events = before ++ refresh :: after ∧
      isRefresh (registeredThrough registered before) refresh = true := by
  induction events generalizing registered with
  | nil => cases found
  | cons event rest ih =>
      rw [refreshIn, Bool.or_eq_true] at found
      rcases found with here | later
      · exact ⟨[], event, rest, rfl, here⟩
      · obtain ⟨before, refresh, after, rfl, found⟩ := ih later
        exact ⟨event :: before, refresh, after, rfl, found⟩

theorem exists_loss {events : List BaresipNativeEvent}
    (lost : registeredThrough true events = false) :
    ∃ before loss after, events = before ++ loss :: after ∧ deregisters loss.kind = true := by
  induction events with
  | nil => cases lost
  | cons event rest ih =>
      by_cases here : deregisters event.kind = true
      · exact ⟨[], event, rest, rfl, here⟩
      · have stands : registeredAfter true event.kind = true := by
          cases kind : event.kind <;> simp_all [deregisters, registeredAfter]
        rw [registeredThrough_cons, stands] at lost
        obtain ⟨before, loss, after, rfl, found⟩ := ih lost
        exact ⟨event :: before, loss, after, rfl, found⟩

/-- When the refreshes are kept, every cut into batches of the mailbox's size is confirmed. -/
theorem RefreshesKept.confirmed {before : List BaresipNativeEvent}
    {batches : List (List BaresipNativeEvent)} (kept : RefreshesKept (before ++ batches.flatten))
    (fits : ∀ batch ∈ batches, batch.length ≤ kCapacity) :
    Confirmed (registeredThrough false before) batches := by
  induction batches generalizing before with
  | nil => trivial
  | cons batch rest ih =>
      refine ⟨?_, ?_⟩
      · by_contra unconfirmed
        simp only [not_or, Bool.not_eq_true, Bool.not_eq_false] at unconfirmed
        obtain ⟨lost, found⟩ := unconfirmed
        obtain ⟨first, refresh, second, rfl, isRefresh⟩ := exists_refresh found
        have stands : registeredThrough true second = false := by
          have ok : refresh.kind = .registerOk := by
            simpa using (Bool.and_eq_true_iff.mp isRefresh).2
          rw [registeredThrough_append, registeredThrough_cons, ok] at lost
          exact lost
        obtain ⟨between, loss, last, rfl, deregisters⟩ := exists_loss stands
        have far := kept (before ++ first) refresh between loss (last ++ rest.flatten) (by simp)
          (by rw [registeredThrough_append]; exact isRefresh) deregisters
        have near := fits _ List.mem_cons_self
        simp only [List.length_append, List.length_cons] at near
        omega
      · rw [← registeredThrough_append]
        refine ih ?_ fun other member => fits other (List.mem_cons_of_mem _ member)
        rw [List.append_assoc]
        exact kept

theorem RefreshesKept.confirmed_of_start {batches : List (List BaresipNativeEvent)}
    (kept : RefreshesKept batches.flatten) (fits : ∀ batch ∈ batches, batch.length ≤ kCapacity) :
    Confirmed false batches := by
  have whole : RefreshesKept ([] ++ batches.flatten) := kept
  exact whole.confirmed fits

theorem Confirmed.after {first second : List (List BaresipNativeEvent)}
    (confirmed : Confirmed registered (first ++ second)) :
    Confirmed (registeredThrough registered first.flatten) second := by
  induction first generalizing registered with
  | nil => exact confirmed
  | cons batch rest ih =>
      rw [List.flatten_cons, registeredThrough_append]
      exact ih confirmed.2

/-- A batch from a refresh to a loss of the registration is not confirmed. -/
theorem not_confirmed_of_window {between : List BaresipNativeEvent}
    {refresh loss : BaresipNativeEvent} {first last : List (List BaresipNativeEvent)}
    (found : isRefresh (registeredThrough false first.flatten) refresh = true)
    (lost : deregisters loss.kind = true) :
    ¬ Confirmed false (first ++ (refresh :: between ++ [loss]) :: last) := by
  intro confirmed
  rcases confirmed.after.1 with stands | strict
  · have ends : ∀ current, registeredAfter current loss.kind = false := by
      intro current
      cases kind : loss.kind <;> simp_all [deregisters, registeredAfter]
    rw [registeredThrough_append, registeredThrough_cons, ends] at stands
    cases stands
  · simp [refreshIn, found] at strict

/-- Single events are always confirmed. -/
theorem confirmed_singles (registered : Bool) {batches : List (List BaresipNativeEvent)}
    (single : ∀ batch ∈ batches, batch.length ≤ 1) : Confirmed registered batches := by
  induction batches generalizing registered with
  | nil => trivial
  | cons batch rest ih =>
      refine ⟨?_, ih _ fun other member => single other (List.mem_cons_of_mem _ member)⟩
      match batch, single batch List.mem_cons_self with
      | [], _ => exact .inr rfl
      | [event], _ =>
          by_cases ok : event.kind = .registerOk
          · exact .inl (by simp [registeredAfter, ok])
          · exact .inr (by simp [refreshIn, isRefresh, ok])

end AxeVoice.Native
