import AxeVoice.Foundation.BoundedRing
import AxeVoice.Foundation.Reactive
import Mathlib.Data.List.Induction

/-!
# Polling a bounded event source

A source appends events to a log and numbers them from one; it retains a suffix
of the log only.  A page serves the retained events above a cursor and says
whether there is a gap, judging by the oldest event retained.  A client that
polls page after page keeps what it received and the last sequence it was told.
-/

namespace AxeVoice.Foundation

universe u v w x

variable {α : Type x}

section Numbered

variable (sequence : α → UInt64)

/-- The log is numbered consecutively from one. -/
def Numbered (log : List α) : Prop :=
  log.map (fun event => (sequence event).toNat) = List.range' 1 log.length

variable {sequence}

theorem numbered_nil : Numbered sequence ([] : List α) := rfl

theorem numbered_concat {log : List α} {event : α} :
    Numbered sequence (log ++ [event]) ↔
      Numbered sequence log ∧ (sequence event).toNat = log.length + 1 := by
  unfold Numbered
  rw [List.map_append, List.length_append, List.length_singleton, List.range'_1_concat]
  constructor
  · intro numbered
    obtain ⟨older, last⟩ := List.append_inj' numbered rfl
    exact ⟨older, by simpa [Nat.add_comm] using last⟩
  · rintro ⟨older, last⟩
    rw [older]
    simp [last, Nat.add_comm]

/-- The events above a cursor are the log without as many of its first events. -/
theorem Numbered.filter_newer {log : List α} (numbered : Numbered sequence log) (cursor : ℕ) :
    log.filter (fun event => cursor < (sequence event).toNat) = log.drop cursor := by
  induction log using List.reverseRecOn with
  | nil => simp
  | append_singleton log event ih =>
      obtain ⟨older, last⟩ := numbered_concat.mp numbered
      rw [List.filter_append, ih older]
      by_cases passed : cursor ≤ log.length
      · rw [List.drop_append_of_le_length passed]
        have newer : cursor < (sequence event).toNat := by omega
        simp [newer]
      · have old : ¬ cursor < (sequence event).toNat := by omega
        have all : (log ++ [event]).length ≤ cursor := by
          simp only [List.length_append, List.length_singleton]
          omega
        rw [List.drop_eq_nil_of_le (by omega), List.drop_eq_nil_of_le all]
        simp [old]

theorem Numbered.pairwise {log : List α} (numbered : Numbered sequence log) :
    log.Pairwise fun first second => sequence first < sequence second := by
  have ascending : (log.map fun event => (sequence event).toNat).Pairwise (· < ·) := by
    rw [numbered]
    exact List.pairwise_lt_range'
  exact (List.pairwise_map.mp ascending).imp UInt64.lt_iff_toNat_lt.mpr

/-- A suffix of the log holds what is above the length of the rest. -/
theorem Numbered.filter_suffix {log retained : List α} (numbered : Numbered sequence log)
    (suffix : retained <:+ log) (cursor : ℕ) :
    retained.filter (fun event => cursor < (sequence event).toNat) =
      log.drop (max cursor (log.length - retained.length)) := by
  have held : retained = log.drop (log.length - retained.length) :=
    List.suffix_iff_eq_drop.mp suffix
  rw [← numbered.filter_newer (max cursor _)]
  conv_lhs => rw [held, ← numbered.filter_newer (log.length - retained.length), List.filter_filter]
  congr 1
  funext event
  exact (Bool.decide_and _ _).symm.trans (decide_eq_decide.mpr Nat.max_lt.symm)

theorem Numbered.head_sequence {log : List α} (numbered : Numbered sequence log) {oldest : α}
    {rest : List α} (suffix : oldest :: rest <:+ log) :
    (sequence oldest).toNat = log.length - (oldest :: rest).length + 1 := by
  obtain ⟨dropped, rfl⟩ := suffix
  rw [List.append_cons] at numbered
  have front : Numbered sequence (dropped ++ [oldest]) := by
    induction rest using List.reverseRecOn with
    | nil => simpa using numbered
    | append_singleton rest event ih =>
        rw [← List.append_assoc] at numbered
        exact ih (numbered_concat.mp numbered).1
  rw [(numbered_concat.mp front).2]
  simp

end Numbered

/-- The view of a state as a source of events. -/
structure EventSource (σ : Type u) (α : Type x) where
  sequence : α → UInt64
  retained : σ → List α
  latest : σ → UInt64

structure EventPage (α : Type x) where
  latest : UInt64
  oldest : UInt64
  gap : Bool
  events : List α

namespace EventSource

variable {σ : Type u} (source : EventSource σ α)

def oldest (state : σ) : UInt64 :=
  match source.retained state with
  | [] => 0
  | event :: _ => source.sequence event

def page (state : σ) (cursor : UInt64) : EventPage α where
  latest := source.latest state
  oldest := source.oldest state
  gap := source.oldest state > 0 && cursor < source.oldest state - 1
  events := (source.retained state).filter fun event => source.sequence event > cursor

/-- The event a step appended, if it moved the counter. -/
def appended (before after : σ) : Option α :=
  if source.latest after = source.latest before then none else (source.retained after).getLast?

/-- The state retains the newest events of this log, and counts them all. -/
structure Logged (log : List α) (state : σ) : Prop where
  numbered : Numbered source.sequence log
  suffix : source.retained state <:+ log
  length : log.length = (source.latest state).toNat

/-- Some event above the cursor was appended and is not on the page. -/
def Missing (log : List α) (cursor : UInt64) (page : EventPage α) : Prop :=
  ∃ event ∈ log, cursor < source.sequence event ∧ source.sequence event ≤ page.latest ∧
    event ∉ page.events

variable {source} {log : List α} {state : σ}

/-- How many of the first events are no longer retained. -/
def dropped (source : EventSource σ α) (log : List α) (state : σ) : ℕ :=
  log.length - (source.retained state).length

/-- A counter below its greatest value counts on. -/
theorem toNat_succ {counter : UInt64} (available : counter ≠ 0xFFFFFFFFFFFFFFFF) :
    (counter + 1).toNat = counter.toNat + 1 := by
  have bound := counter.toNat_lt
  have below : counter.toNat ≠ 0xFFFFFFFFFFFFFFFF := fun full =>
    available (UInt64.toNat_inj.mp full)
  have unit : (1 : UInt64).toNat = 1 := rfl
  rw [UInt64.toNat_add, unit]
  omega

/-- A push on the ring appends one event to the log, where the counter moves with it. -/
theorem Logged.push {before after : σ} (logged : source.Logged log before) {capacity : ℕ}
    (positive : 0 < capacity) {event : α}
    (available : source.latest before ≠ 0xFFFFFFFFFFFFFFFF)
    (sequence : source.sequence event = source.latest before + 1)
    (counted : source.latest after = source.latest before + 1)
    (pushed : source.retained after = pushBounded capacity (source.retained before) event) :
    source.Logged (log ++ (source.appended before after).toList) after := by
  obtain ⟨kept, suffix, split⟩ := pushBounded_eq_append positive (source.retained before) event
  have next := toNat_succ available
  have moved : source.latest after ≠ source.latest before := by
    intro same
    rw [counted.symm.trans same] at next
    omega
  have appended : source.appended before after = some event := by
    unfold EventSource.appended
    rw [if_neg moved, pushed, split, List.getLast?_concat]
  rw [appended, Option.toList_some]
  refine ⟨numbered_concat.mpr ⟨logged.numbered, ?_⟩, ?_, ?_⟩
  · rw [sequence, next, logged.length]
  · rw [pushed, split]
    exact List.suffix_append_self_iff.mpr (suffix.trans logged.suffix)
  · rw [counted, next, ← logged.length]
    simp

/-- A step that moves neither the counter nor the ring keeps the log. -/
theorem Logged.still {before after : σ} (logged : source.Logged log before)
    (kept : source.latest after = source.latest before)
    (same : source.retained after = source.retained before) :
    source.Logged (log ++ (source.appended before after).toList) after := by
  have none_ : source.appended before after = none := if_pos kept
  rw [none_, Option.toList_none, List.append_nil]
  refine ⟨logged.numbered, ?_, by rw [kept, logged.length]⟩
  rw [same]
  exact logged.suffix

/-- Forgetting every event keeps the log, where the counter stays. -/
theorem Logged.forget {before after : σ} (logged : source.Logged log before)
    (kept : source.latest after = source.latest before) (emptied : source.retained after = []) :
    source.Logged (log ++ (source.appended before after).toList) after := by
  have none_ : source.appended before after = none := if_pos kept
  rw [none_, Option.toList_none, List.append_nil]
  refine ⟨logged.numbered, ?_, by rw [kept, logged.length]⟩
  rw [emptied]
  exact List.nil_suffix

theorem Logged.page_events (logged : source.Logged log state) (cursor : UInt64) :
    (source.page state cursor).events = log.drop (max cursor.toNat (source.dropped log state)) := by
  rw [dropped, ← logged.numbered.filter_suffix logged.suffix]
  simp only [page, gt_iff_lt, UInt64.lt_iff_toNat_lt]

theorem Logged.missing_iff (logged : source.Logged log state) (cursor : UInt64) :
    source.Missing log cursor (source.page state cursor) ↔
      cursor.toNat < source.dropped log state := by
  have newer (bound : ℕ) (event : α) :
      event ∈ log.drop bound ↔ event ∈ log ∧ bound < (source.sequence event).toNat := by
    rw [← logged.numbered.filter_newer, List.mem_filter, decide_eq_true_eq]
  unfold Missing
  rw [logged.page_events]
  constructor
  · rintro ⟨event, member, above, -, absent⟩
    by_contra retained
    refine absent ((newer _ event).mpr ⟨member, ?_⟩)
    have above := UInt64.lt_iff_toNat_lt.mp above
    omega
  · intro lost
    have short : cursor.toNat < log.length := by
      unfold dropped at lost
      omega
    -- the first event above the cursor is one of those dropped
    have first : log.get ⟨cursor.toNat, short⟩ ∈ log := List.get_mem _ _
    have number : (source.sequence (log.get ⟨cursor.toNat, short⟩)).toNat = cursor.toNat + 1 := by
      have numbers := logged.numbered
      unfold Numbered at numbers
      have entry := congrArg (fun all => all[cursor.toNat]?) numbers
      simpa [short, Nat.add_comm] using entry
    refine ⟨_, first, UInt64.lt_iff_toNat_lt.mpr (by omega), ?_, ?_⟩
    · refine UInt64.le_iff_toNat_le.mpr ?_
      change _ ≤ (source.latest state).toNat
      rw [← logged.length]
      omega
    · intro present
      have above := ((newer _ _).mp present).2
      omega

theorem Logged.gap_iff (logged : source.Logged log state) (cursor : UInt64)
    (nonempty : source.retained state ≠ []) :
    (source.page state cursor).gap = true ↔ cursor.toNat < source.dropped log state := by
  cases held : source.retained state with
  | nil => exact absurd held nonempty
  | cons first rest =>
      have suffix := logged.suffix
      rw [held] at suffix
      have number := logged.numbered.head_sequence suffix
      have oldest : source.oldest state = source.sequence first := by simp [EventSource.oldest, held]
      have positive : (0 : UInt64) < source.sequence first :=
        UInt64.lt_iff_toNat_lt.mpr (by rw [number]; exact Nat.succ_pos _)
      have one : (1 : UInt64) ≤ source.sequence first :=
        UInt64.le_iff_toNat_le.mpr (by rw [number]; exact Nat.succ_le_succ (Nat.zero_le _))
      simp only [page, oldest, gt_iff_lt, positive, decide_true, Bool.true_and, decide_eq_true_eq,
        UInt64.lt_iff_toNat_lt, UInt64.toNat_sub_of_le _ _ one, number, dropped, held]
      have unit : (1 : UInt64).toNat = 1 := rfl
      omega

theorem Logged.gap_of_empty (empty : source.retained state = []) (cursor : UInt64) :
    (source.page state cursor).gap = false := by
  simp [page, EventSource.oldest, empty]

/-- The gap flag is right exactly where something is retained, or nothing is missing to be told. -/
theorem Logged.gap_faithful_iff (logged : source.Logged log state) {cursor : UInt64}
    (known : cursor ≤ source.latest state) :
    ((source.page state cursor).gap = true ↔
        source.Missing log cursor (source.page state cursor)) ↔
      (source.retained state ≠ [] ∨ cursor = source.latest state) := by
  rw [logged.missing_iff]
  by_cases empty : source.retained state = []
  · have all : source.dropped log state = (source.latest state).toNat := by
      simp [dropped, empty, logged.length]
    rw [Logged.gap_of_empty empty, all]
    have known := UInt64.le_iff_toNat_le.mp known
    constructor
    · intro silent
      right
      have caught : ¬ cursor.toNat < (source.latest state).toNat := fun behind =>
        absurd (silent.mpr behind) (by decide)
      exact UInt64.toNat_inj.mp (by omega)
    · rintro (nonempty | rfl)
      · exact absurd empty nonempty
      · simp
  · exact ⟨fun _ => .inl empty, fun _ => logged.gap_iff cursor empty⟩

/-- The page serves the retained events above the cursor in order, and tells if any is missing. -/
structure Serves (source : EventSource σ α) (log : List α) (state : σ) (cursor : UInt64)
    (page : EventPage α) : Prop where
  retained : ∀ event, event ∈ page.events ↔
    event ∈ source.retained state ∧ cursor < source.sequence event
  increasing : page.events.Pairwise fun first second =>
    source.sequence first < source.sequence second
  gap : page.gap = true ↔ source.Missing log cursor page

/-- Pages serve faithfully exactly where something is retained, or the cursor is the latest. -/
theorem Logged.serves_iff (logged : source.Logged log state) {cursor : UInt64}
    (known : cursor ≤ source.latest state) :
    source.Serves log state cursor (source.page state cursor) ↔
      (source.retained state ≠ [] ∨ cursor = source.latest state) := by
  rw [← logged.gap_faithful_iff known]
  refine ⟨fun serves => serves.gap, fun gap => ⟨fun event => ?_, ?_, gap⟩⟩
  · simp [page]
  · exact ((logged.numbered.pairwise.sublist logged.suffix.sublist).sublist List.filter_sublist)

variable {ι : Type v} {ω : Type w}

/-- The events appended during a run. -/
def runLog (source : EventSource σ α) (run : List (Stage σ ι ω)) : List α :=
  run.filterMap fun stage => source.appended stage.before stage.after

/-- What every allowed step extends to the log and the state it leaves holds of an allowed run. -/
theorem run_logged {step : σ → ι → ω × σ} (Inv : List α → σ → Prop)
    (Allowed : σ → ι → Prop)
    (advances : ∀ log state input, Inv log state → Allowed state input →
      Inv (log ++ (source.appended state (step state input).2).toList) (step state input).2)
    {start : σ} (initial : Inv [] start) {inputs : List ι}
    (allowed : ∀ stage ∈ stages step start inputs, Allowed stage.before stage.input) :
    Inv (source.runLog (stages step start inputs)) (finalState step start inputs) := by
  suffices collected : Inv (source.runLog ([] ++ stages step start inputs))
      (finalState step start inputs) by simpa using collected
  refine history_invariant (fun history current => Inv (source.runLog history) current)
    (fun stage => Allowed stage.before stage.input) ?_ [] initial allowed
  intro history current input known permitted
  have extended : source.runLog (history ++ [stageOf step current input]) =
      source.runLog history ++ (source.appended current (step current input).2).toList := by
    unfold runLog
    rw [List.filterMap_append]
    rfl
  rw [extended]
  exact advances _ current input known permitted

end EventSource

/-- What a client keeps between polls. -/
structure PollingClient (α : Type x) where
  cursor : UInt64 := 0
  received : List α := []
  warned : Bool := false

def PollingClient.read (client : PollingClient α) (page : EventPage α) : PollingClient α where
  cursor := page.latest
  received := client.received ++ page.events
  warned := client.warned || page.gap

/-- The owner operates on the source, or the client polls it. -/
inductive Turn (ι : Type v) where
  | operate (input : ι)
  | poll

namespace EventSource

variable {σ : Type u} {ι : Type v} {ω : Type w} (source : EventSource σ α) (step : σ → ι → ω × σ)

def pollingStep : σ × PollingClient α → Turn ι → Option (EventPage α) × (σ × PollingClient α)
  | (state, client), .operate input => (none, ((step state input).2, client))
  | (state, client), .poll =>
      let page := source.page state client.cursor
      (some page, (state, client.read page))

/-- The events appended during a polled run. -/
def pollingLog (run : List (Stage (σ × PollingClient α) (Turn ι) (Option (EventPage α)))) :
    List α :=
  run.filterMap fun stage => source.appended stage.before.1 stage.after.1

/-- The client's cursor lies in the log, which it received that far unless it was warned. -/
def Follows (log : List α) (client : PollingClient α) : Prop :=
  client.cursor.toNat ≤ log.length ∧
    (client.warned = false → client.received = log.take client.cursor.toNat)

/-- The turns a run may take: allowed operations, and polls at trusted cursors. -/
def Admissible (Allowed : σ → ι → Prop) (Trusted : σ → UInt64 → Prop)
    (stage : Stage (σ × PollingClient α) (Turn ι) (Option (EventPage α))) : Prop :=
  match stage.input with
  | .operate input => Allowed stage.before.1 input
  | .poll => Trusted stage.before.1 stage.before.2.cursor

variable {source} {log : List α} {state : σ} {client : PollingClient α}

theorem follows_append (follows : Follows log client) (more : List α) :
    Follows (log ++ more) client := by
  obtain ⟨short, received⟩ := follows
  refine ⟨?_, fun silent => ?_⟩
  · rw [List.length_append]
    exact Nat.le_trans short (Nat.le_add_right _ _)
  · rw [List.take_append_of_le_length short]
    exact received silent

/-- A poll that can be trusted and does not warn delivers the rest of the log. -/
theorem follows_read (logged : source.Logged log state) (follows : Follows log client)
    (trusted : source.retained state ≠ [] ∨ client.cursor = source.latest state) :
    Follows log (client.read (source.page state client.cursor)) := by
  obtain ⟨short, received⟩ := follows
  have length := logged.length
  have known : client.cursor ≤ source.latest state := by
    refine UInt64.le_iff_toNat_le.mpr ?_
    rw [← length]
    exact short
  have caught : (client.read (source.page state client.cursor)).cursor.toNat = log.length :=
    length.symm
  refine ⟨Nat.le_of_eq caught, fun silent => ?_⟩
  obtain ⟨earlier, now⟩ := Bool.or_eq_false_iff.mp silent
  have kept : source.dropped log state ≤ client.cursor.toNat := by
    by_contra lost
    have missing := (logged.missing_iff client.cursor).mpr (Nat.lt_of_not_le lost)
    have gap := ((logged.gap_faithful_iff known).mpr trusted).mpr missing
    exact absurd gap (by simp [now])
  rw [caught, List.take_length]
  simp only [PollingClient.read, received earlier, logged.page_events, Nat.max_eq_left kept,
    List.take_append_drop]

/-- The polling rule: a source whose allowed operations keep its log serves a client faithfully. -/
theorem polled_follows {step : σ → ι → ω × σ} (Inv : List α → σ → Prop)
    (Allowed : σ → ι → Prop) (Trusted : σ → UInt64 → Prop)
    (logged : ∀ log state, Inv log state → source.Logged log state)
    (trusted : ∀ log state cursor, Inv log state → cursor ≤ source.latest state →
      Trusted state cursor → source.retained state ≠ [] ∨ cursor = source.latest state)
    (advances : ∀ log state input, Inv log state → Allowed state input →
      Inv (log ++ (source.appended state (step state input).2).toList) (step state input).2)
    {start : σ} (initial : Inv [] start) {turns : List (Turn ι)}
    (admitted : ∀ stage ∈ stages (source.pollingStep step) (start, {}) turns,
      Admissible Allowed Trusted stage) :
    Inv (source.pollingLog (stages (source.pollingStep step) (start, {}) turns))
        (finalState (source.pollingStep step) (start, {}) turns).1 ∧
      Follows (source.pollingLog (stages (source.pollingStep step) (start, {}) turns))
        (finalState (source.pollingStep step) (start, {}) turns).2 := by
  suffices collected :
      Inv (source.pollingLog ([] ++ stages (source.pollingStep step) (start, {}) turns))
          (finalState (source.pollingStep step) (start, {}) turns).1 ∧
        Follows (source.pollingLog ([] ++ stages (source.pollingStep step) (start, {}) turns))
          (finalState (source.pollingStep step) (start, {}) turns).2 by
    simpa using collected
  refine history_invariant (fun history current => Inv (source.pollingLog history) current.1 ∧
    Follows (source.pollingLog history) current.2) (Admissible Allowed Trusted) ?_ [] ?_ admitted
  · rintro history ⟨state, client⟩ turn ⟨known, follows⟩ allowed
    have extended : source.pollingLog (history ++ [stageOf (source.pollingStep step)
        (state, client) turn]) = source.pollingLog history ++ (source.appended state
          (source.pollingStep step (state, client) turn).2.1).toList := by
      unfold pollingLog
      rw [List.filterMap_append]
      rfl
    rw [extended]
    cases turn with
    | operate input => exact ⟨advances _ state input known allowed, follows_append follows _⟩
    | poll =>
        have still : source.appended state state = none := if_pos rfl
        change Inv (_ ++ (source.appended state state).toList) state ∧
          Follows (_ ++ (source.appended state state).toList) _
        rw [still, Option.toList_none, List.append_nil]
        have log := logged _ _ known
        have within : client.cursor ≤ source.latest state := by
          refine UInt64.le_iff_toNat_le.mpr ?_
          rw [← log.length]
          exact follows.1
        exact ⟨known, follows_read log follows (trusted _ _ _ known within allowed)⟩
  · exact ⟨initial, Nat.zero_le _, fun _ => rfl⟩

/-- After a last poll a client that was not warned has received the whole log. -/
theorem polled_received {step : σ → ι → ω × σ} (Inv : List α → σ → Prop)
    (Allowed : σ → ι → Prop) (Trusted : σ → UInt64 → Prop)
    (logged : ∀ log state, Inv log state → source.Logged log state)
    (trusted : ∀ log state cursor, Inv log state → cursor ≤ source.latest state →
      Trusted state cursor → source.retained state ≠ [] ∨ cursor = source.latest state)
    (advances : ∀ log state input, Inv log state → Allowed state input →
      Inv (log ++ (source.appended state (step state input).2).toList) (step state input).2)
    {start : σ} (initial : Inv [] start) {turns : List (Turn ι)}
    (admitted : ∀ stage ∈ stages (source.pollingStep step) (start, {}) (turns ++ [.poll]),
      Admissible Allowed Trusted stage)
    (silent : (finalState (source.pollingStep step) (start, {})
      (turns ++ [.poll])).2.warned = false) :
    (finalState (source.pollingStep step) (start, {}) (turns ++ [.poll])).2.received =
      source.pollingLog (stages (source.pollingStep step) (start, {}) (turns ++ [.poll])) := by
  obtain ⟨known, short, received⟩ := polled_follows Inv Allowed Trusted logged trusted advances
    initial admitted
  have length := (logged _ _ known).length
  have caught : (finalState (source.pollingStep step) (start, {}) (turns ++ [.poll])).2.cursor =
      source.latest (finalState (source.pollingStep step) (start, {}) (turns ++ [.poll])).1 := by
    rw [finalState_append]
    rfl
  rw [received silent, caught, ← length, List.take_length]

end EventSource

end AxeVoice.Foundation
