import AxeVoice.Cti.Lifecycle

/-!
# Idempotent retries

The records under which retries are recognised are a window of the requests
created: a key is forgotten only after as many further requests as the window
holds, and until then a retry finds the record of the request it repeats.
-/

namespace AxeVoice.Cti

open Foundation CtiRequestQueue

variable {width : WCharWidth}

/-- What a record keeps of its request, whatever becomes of it. -/
structure RequestIdentity (width : WCharWidth) where
  id : UInt64
  key : IdempotencyKey
  destination : WString width
  deriving DecidableEq

def CtiRequestResult.identity (record : CtiRequestResult width) : RequestIdentity width :=
  ⟨record.id, record.idempotencyKey, record.idempotencyDestination⟩

def CtiRequestQueue.identities (queue : CtiRequestQueue width) : List (RequestIdentity width) :=
  queue.records.map CtiRequestResult.identity

/-- The identity of the request a call creates; a request without a key keeps no destination. -/
def createdIdentity : CtiOperation width → CtiAnswer width → Option (RequestIdentity width)
  | .submit _, .submit (some id) => some ⟨id, [], []⟩
  | .submitIdempotent destination key _, .submitIdempotent result =>
      if result.outcome = .created then
        some ⟨result.id, key, if key.isEmpty then [] else destination⟩
      else none
  | _, _ => none

def created (stage : QueueStage width) : Option (RequestIdentity width) :=
  createdIdentity stage.input stage.output

theorem created_of_failed {operation : CtiOperation width} {answer : CtiAnswer width}
    (failed : answer.Failed) : createdIdentity operation answer = none := by
  cases operation <;> cases answer <;> try rfl
  · rename_i destination id
    cases (failed : id = none)
    rfl
  · rename_i destination key ready result
    exact if_neg failed

theorem move_identities {queue : CtiRequestQueue width} {older : List (CtiRequestResult width)}
    {newest : CtiRequestResult width} (records : queue.records = older ++ [newest])
    (pending active : Option (CtiPendingRequest width)) (state : CtiRequestState) :
    (queue.move pending active older newest state).identities = queue.identities := by
  simp [identities, move, records, withState, CtiRequestResult.identity]

theorem create_identities (queue : CtiRequestQueue width) (destination : WString width)
    (key : IdempotencyKey) (recorded : WString width) :
    (queue.create destination key recorded).identities =
      pushBounded capacity queue.identities ⟨queue.next, key, recorded⟩ := by
  unfold identities
  rw [create_records, map_pushBounded]
  rfl

/-- Only a creation changes the identities held, by pushing the new one. -/
theorem operated_identities {queue after : CtiRequestQueue width} {operation : CtiOperation width}
    {answer : CtiAnswer width} (operated : Operated queue operation answer after)
    (kept : operation ≠ .clear) :
    after.identities = match createdIdentity operation answer with
      | none => queue.identities
      | some identity => pushBounded capacity queue.identities identity := by
  cases operated with
  | refused operation answer failed => rw [created_of_failed failed]
  | submitted destination free => exact create_identities queue destination [] []
  | created destination key free unknown => exact create_identities queue destination key _
  | taken pending active records same state => exact move_identities records _ _ _
  | completed accepted active pending records same state => exact move_identities records _ _ _
  | cancelled pending active records same state => exact move_identities records _ _ _
  | rejected pending active records same state => exact move_identities records _ _ _
  | cleared => exact absurd rfl kept

/-- Without clearing, the identities held are the window of those created. -/
theorem identities_window {operations : List (CtiOperation width)}
    (kept : CtiOperation.clear ∉ operations) :
    (finalState queueStep ({} : CtiRequestQueue width) operations).identities =
      window capacity ((stages queueStep ({} : CtiRequestQueue width) operations).filterMap
        created) := by
  have collected : Sound (finalState queueStep ({} : CtiRequestQueue width) operations) ∧
      (finalState queueStep ({} : CtiRequestQueue width) operations).identities =
        window capacity (([] ++ stages queueStep ({} : CtiRequestQueue width)
          operations).filterMap created) := by
    refine history_invariant
      (fun history current => Sound current ∧
        current.identities = window capacity (history.filterMap created))
      (fun stage => stage.input ≠ .clear) ?_ [] ⟨sound_initial, rfl⟩ ?_
    · rintro history queue operation ⟨sound, held⟩ unclear
      refine ⟨queueStep_sound queue operation sound, ?_⟩
      have identities := operated_identities (queueStep_operated sound operation) unclear
      rw [identities, List.filterMap_append]
      cases made : createdIdentity operation (queueStep queue operation).1 with
      | none =>
          have none_ : created (stageOf queueStep queue operation) = none := made
          simpa [none_] using held
      | some identity =>
          have some_ : created (stageOf queueStep queue operation) = some identity := made
          simp only [List.filterMap_cons, List.filterMap_nil, some_]
          rw [held, pushBounded_window (by decide)]
    · intro stage member cleared
      exact kept (cleared ▸ input_mem_of_mem_stages member)
  simpa using collected.2

/-- Two records held under a key are one. -/
def DistinctKeys (queue : CtiRequestQueue width) : Prop :=
  queue.identities.Pairwise fun first second => first.key ≠ [] → first.key ≠ second.key

theorem keyed_eq_find {queue : CtiRequestQueue width} {key : IdempotencyKey} (given : key ≠ []) :
    queue.keyed key = queue.records.find? fun record => record.idempotencyKey = key := by
  unfold keyed
  rw [if_neg]
  simpa using given

theorem distinctKeys_push {queue after : CtiRequestQueue width} {identity : RequestIdentity width}
    (distinct : DistinctKeys queue)
    (unknown : identity.key ≠ [] → ∀ other ∈ queue.identities, other.key ≠ identity.key)
    (pushed : after.identities = pushBounded capacity queue.identities identity) :
    DistinctKeys after := by
  obtain ⟨kept, suffix, split⟩ := pushBounded_eq_append (by decide : 0 < capacity)
    queue.identities identity
  unfold DistinctKeys
  rw [pushed, split, List.pairwise_append]
  refine ⟨distinct.sublist suffix.sublist, List.pairwise_singleton _ _, ?_⟩
  intro other member newest last given same
  rw [List.mem_singleton.mp last] at same
  exact unknown (same ▸ given) other (suffix.subset member) same

theorem distinctKeys_operated {queue after : CtiRequestQueue width}
    {operation : CtiOperation width} {answer : CtiAnswer width} (distinct : DistinctKeys queue)
    (operated : Operated queue operation answer after) : DistinctKeys after := by
  have moved (same : after.identities = queue.identities) : DistinctKeys after := by
    unfold DistinctKeys
    rw [same]
    exact distinct
  cases operated with
  | refused operation answer failed => exact distinct
  | submitted destination free =>
      exact distinctKeys_push distinct (fun given => absurd rfl given)
        (create_identities queue destination [] [])
  | created destination key free unknown =>
      refine distinctKeys_push distinct (fun given other member same => ?_)
        (create_identities queue destination key _)
      rw [keyed_eq_find given, List.find?_eq_none] at unknown
      obtain ⟨record, held, rfl⟩ := List.mem_map.mp member
      exact unknown record held (decide_eq_true same)
  | taken pending active records same state => exact moved (move_identities records _ _ _)
  | completed accepted active pending records same state =>
      exact moved (move_identities records _ _ _)
  | cancelled pending active records same state => exact moved (move_identities records _ _ _)
  | rejected pending active records same state => exact moved (move_identities records _ _ _)
  | cleared => exact List.Pairwise.nil

/-- The record held under a key is the one the key finds. -/
theorem keyed_of_mem {queue : CtiRequestQueue width} (distinct : DistinctKeys queue)
    {record : CtiRequestResult width} (held : record ∈ queue.records)
    (given : record.idempotencyKey ≠ []) : queue.keyed record.idempotencyKey = some record := by
  rw [keyed_eq_find given]
  unfold DistinctKeys identities at distinct
  rw [List.pairwise_map] at distinct
  generalize queue.records = records at held distinct
  induction records with
  | nil => cases held
  | cons first rest ih =>
      obtain ⟨apart, later⟩ := List.pairwise_cons.mp distinct
      rcases List.mem_cons.mp held with rfl | further
      · simp
      · have other : first.idempotencyKey ≠ record.idempotencyKey := by
          intro same
          have keyed : first.idempotencyKey ≠ [] := by rwa [same]
          exact apart record further keyed same
        rw [List.find?_cons_of_neg (by simpa using other)]
        exact ih further later

theorem get_eq_some {queue : CtiRequestQueue width} {id : UInt64} {state : CtiRequestState}
    (known : queue.stateOf id = some state) :
    ∃ record ∈ queue.records, record.id = id ∧ record.state = state := by
  obtain ⟨record, found, same⟩ := Option.map_eq_some_iff.mp known
  exact ⟨record, List.mem_of_find?_eq_some found, by simpa using List.find?_some found, same⟩

/-- Every record held under the identifier of a created request is that request's. -/
structure Remembered (identity : RequestIdentity width) (queue : CtiRequestQueue width) : Prop where
  issued : identity.id.toNat ≤ queue.lastIssued
  held : ∀ other ∈ queue.identities, other.id = identity.id → other = identity

theorem created_issued {operation : CtiOperation width} {answer : CtiAnswer width}
    {identity : RequestIdentity width} (made : createdIdentity operation answer = some identity) :
    answer.issued = some identity.id := by
  cases operation with
  | submit destination =>
      cases answer with
      | submit id =>
          cases id with
          | none => cases made
          | some id => cases made; rfl
      | _ => cases made
  | submitIdempotent destination key ready =>
      cases answer with
      | submitIdempotent result =>
          simp only [createdIdentity] at made
          split at made
          · rename_i outcome
            cases made
            exact if_pos outcome
          · cases made
      | _ => cases made
  | take | complete | cancel | rejectPending | clear => cases made

theorem identity_issued {queue : CtiRequestQueue width} (sound : Sound queue)
    {identity : RequestIdentity width} (member : identity ∈ queue.identities) :
    identity.id.toNat ≤ queue.lastIssued := by
  obtain ⟨record, held, rfl⟩ := List.mem_map.mp member
  exact sound.issued record held

theorem remembered_pushed {queue after : CtiRequestQueue width}
    {identity newest : RequestIdentity width}
    (pushed : after.identities = pushBounded capacity queue.identities newest)
    (held : ∀ other ∈ queue.identities, other.id = identity.id → other = identity)
    (last : newest.id = identity.id → newest = identity) :
    ∀ other ∈ after.identities, other.id = identity.id → other = identity := by
  obtain ⟨kept, suffix, split⟩ := pushBounded_eq_append (by decide : 0 < capacity)
    queue.identities newest
  rw [pushed, split]
  intro other member same
  rcases List.mem_append.mp member with earlier | final
  · exact held other (suffix.subset earlier) same
  · rw [List.mem_singleton.mp final] at same ⊢
    exact last same

theorem queueStep_remembered {queue : CtiRequestQueue width} (sound : Sound queue)
    (operation : CtiOperation width) {identity : RequestIdentity width}
    (made : createdIdentity operation (queueStep queue operation).1 = some identity) :
    Remembered identity (queueStep queue operation).2 := by
  have operated := queueStep_operated sound operation
  obtain ⟨next, counted⟩ := operated_issued operated (created_issued made)
  have kept : operation ≠ .clear := by
    rintro rfl
    cases made
  have pushed := operated_identities operated kept
  rw [made] at pushed
  refine ⟨Nat.le_of_eq counted.symm, remembered_pushed pushed ?_ fun _ => rfl⟩
  intro other member same
  have bound := identity_issued sound member
  rw [same] at bound
  omega

theorem queueStep_keeps_remembered {queue : CtiRequestQueue width} (sound : Sound queue)
    (operation : CtiOperation width) {identity : RequestIdentity width}
    (remembered : Remembered identity queue) :
    Remembered identity (queueStep queue operation).2 := by
  have operated := queueStep_operated sound operation
  refine ⟨remembered.issued.trans (lastIssued_le (operated_recorded sound operated)), ?_⟩
  by_cases clear : operation = .clear
  · subst clear
    exact nofun
  · have identities := operated_identities operated clear
    cases made : createdIdentity operation (queueStep queue operation).1 with
    | none =>
        rw [made] at identities
        rw [identities]
        exact remembered.held
    | some newest =>
        rw [made] at identities
        refine remembered_pushed identities remembered.held fun same => ?_
        have next := (operated_issued operated (created_issued made)).1
        have bound := remembered.issued
        rw [← same] at bound
        omega

/-- The answer to a retry, from the record of the request it repeats. -/
def retryAnswer (recorded destination : WString width) (id : UInt64)
    (state : CtiRequestState) : CtiSubmitResult :=
  if destination = recorded then ⟨.replayed, id, state⟩ else ⟨.keyConflict, id, state⟩

/-- What retries under a key may expect of a run, for the destinations `Accepted` admits. -/
structure IdempotentRetry (Accepted : WString width → Prop)
    (run : List (QueueStage width)) : Prop where
  spaced : ∀ before first between second after key,
    run = before ++ first :: (between ++ second :: after) → key ≠ [] →
    (created first).map RequestIdentity.key = some key →
    (created second).map RequestIdentity.key = some key →
    capacity ≤ between.countP fun stage => (created stage).isSome
  replayed : run.Pairwise fun earlier later =>
    ∀ destination key ready result, key ≠ [] →
    earlier.input = .submitIdempotent destination key ready →
    earlier.output = .submitIdempotent result → result.outcome = .created →
    ∀ destination' ready' state, Accepted destination' →
    later.input = .submitIdempotent destination' key ready' →
    later.before.stateOf result.id = some state →
    later.output = .submitIdempotent (retryAnswer destination destination' result.id state)
  unchanged : ∀ stage ∈ run, ∀ result, stage.output = .submitIdempotent result →
    result.outcome ≠ .created → stage.after = stage.before

/-- A call that creates under a key finds no record under it. -/
theorem unknown_of_created {queue : CtiRequestQueue width} (sound : Sound queue)
    {operation : CtiOperation width} {identity : RequestIdentity width}
    (made : createdIdentity operation (queueStep queue operation).1 = some identity)
    (given : identity.key ≠ []) : ∀ other ∈ queue.identities, other.key ≠ identity.key := by
  have operated := queueStep_operated sound operation
  generalize (queueStep queue operation).1 = answer at made operated
  generalize (queueStep queue operation).2 = after at operated
  cases operated with
  | refused operation answer failed =>
      rw [created_of_failed failed] at made
      cases made
  | submitted destination free =>
      cases made
      exact absurd rfl given
  | created destination key free unknown =>
      cases made
      rw [keyed_eq_find given, List.find?_eq_none] at unknown
      intro other member same
      obtain ⟨record, held, rfl⟩ := List.mem_map.mp member
      exact unknown record held (decide_eq_true same)
  | taken | completed | cancelled | rejected | cleared => cases made

theorem mem_window_of_recent {α : Type} {limit : ℕ} {older newer : List α} {entry : α}
    (recent : newer.length < limit) : entry ∈ window limit (older ++ entry :: newer) := by
  have early : (older ++ entry :: newer).length - limit ≤ older.length := by
    simp only [List.length_append, List.length_cons]
    omega
  unfold window
  rw [List.drop_append_of_le_length early]
  exact List.mem_append_right _ List.mem_cons_self

/-- Two creations under one key are at least a window of creations apart. -/
theorem created_spaced {operations : List (CtiOperation width)}
    (kept : CtiOperation.clear ∉ operations)
    {before between after : List (QueueStage width)} {first second : QueueStage width}
    (split : stages queueStep {} operations = before ++ first :: (between ++ second :: after))
    {one other : RequestIdentity width} (made : created first = some one)
    (made' : created second = some other) (same : one.key = other.key) (given : other.key ≠ []) :
    capacity ≤ between.countP fun stage => (created stage).isSome := by
  rw [show before ++ first :: (between ++ second :: after) =
    (before ++ first :: between) ++ second :: after by simp] at split
  obtain ⟨early, operation, late, rfl, history, rfl, -⟩ := stages_split split
  have held := identities_window fun member => kept (List.mem_append_left _ member)
  have sound : Sound (finalState queueStep ({} : CtiRequestQueue width) early) :=
    finalState_invariant queueStep_sound sound_initial early
  have unknown := unknown_of_created sound made' given
  by_contra few
  have recent : (between.filterMap created).length < capacity := by
    rw [List.length_filterMap_eq_countP]
    exact Nat.lt_of_not_le few
  have present : one ∈ (finalState queueStep ({} : CtiRequestQueue width) early).identities := by
    rw [held, ← history, List.filterMap_append, List.filterMap_cons_some made]
    exact mem_window_of_recent recent
  exact unknown one present same

/-- The answer to a retry whose record is held. -/
theorem submitIdempotent_held {queue : CtiRequestQueue width} (distinct : DistinctKeys queue)
    {identity : RequestIdentity width} (remembered : Remembered identity queue)
    (given : identity.key ≠ []) {state : CtiRequestState}
    (known : queue.stateOf identity.id = some state) {destination : WString width}
    (nonempty : destination ≠ []) (ready : Bool) :
    (queue.submitIdempotent destination identity.key ready).1 =
      retryAnswer identity.destination destination identity.id state := by
  obtain ⟨record, member, same, rfl⟩ := get_eq_some known
  have identical := remembered.held record.identity (List.mem_map_of_mem member) same
  have keyed : record.idempotencyKey = identity.key := congrArg RequestIdentity.key identical
  have recorded : record.idempotencyDestination = identity.destination :=
    congrArg RequestIdentity.destination identical
  have found := keyed_of_mem distinct member (keyed ▸ given)
  rw [keyed] at found
  unfold submitIdempotent retryAnswer
  rw [if_neg (by simpa using nonempty), found]
  by_cases equal : destination = identity.destination
  · simp [equal, recorded, same]
  · have conflict : identity.destination ≠ destination := Ne.symm equal
    simp [equal, recorded, same, conflict]

/--
Idempotent retries, of calls that name a destination: within a run that does not
clear the queue, a key creates again only after a window of other creations, a
held record answers every retry of its key, and nothing but a creation changes
the queue.
-/
theorem idempotent_retry {operations : List (CtiOperation width)}
    (kept : CtiOperation.clear ∉ operations) :
    IdempotentRetry (fun destination => destination ≠ [])
      (stages queueStep ({} : CtiRequestQueue width) operations) where
  spaced := by
    intro before first between second after key split given one other
    obtain ⟨identity, made, rfl⟩ := Option.map_eq_some_iff.mp one
    obtain ⟨identity', made', same⟩ := Option.map_eq_some_iff.mp other
    exact created_spaced kept split made made' same.symm (same ▸ given)
  replayed := by
    refine stages_pairwise (fun queue => Sound queue ∧ DistinctKeys queue)
      (fun earlier current => ∀ identity, created earlier = some identity →
        Remembered identity current) _ ?_ ?_ ?_ ?_ ⟨sound_initial, List.Pairwise.nil⟩ operations
    · rintro queue operation ⟨sound, distinct⟩
      exact ⟨queueStep_sound queue operation sound,
        distinctKeys_operated distinct (queueStep_operated sound operation)⟩
    · rintro queue operation ⟨sound, distinct⟩ identity made
      exact queueStep_remembered sound operation made
    · rintro earlier queue operation ⟨sound, distinct⟩ remembered identity made
      exact queueStep_keeps_remembered sound operation (remembered identity made)
    · rintro earlier queue operation ⟨sound, distinct⟩ remembered destination key ready result
        given input output outcome destination' ready' state nonempty retry known
      have made : created earlier = some ⟨result.id, key, destination⟩ := by
        simp [created, createdIdentity, input, output, outcome, given]
      have answer := submitIdempotent_held distinct (remembered _ made) given known nonempty ready'
      have retried : operation = .submitIdempotent destination' key ready' := retry
      subst retried
      exact congrArg CtiAnswer.submitIdempotent answer
  unchanged := by
    refine stages_forall queueStep_sound ?_ sound_initial operations
    intro queue operation sound result answered uncreated
    have operated := queueStep_operated sound operation
    have answered : (queueStep queue operation).1 = .submitIdempotent result := answered
    change (queueStep queue operation).2 = queue
    generalize (queueStep queue operation).2 = after at operated
    rw [answered] at operated
    cases operated with
    | refused operation answer failed => rfl
    | created => exact absurd rfl uncreated

/-- A request under a key, its dispatch, and a retry that loses readiness and destination. -/
def retriedWithoutDestination : List (CtiOperation .utf16) :=
  [.submitIdempotent (wideText .utf16 "1001") [107] true, .take,
    .submitIdempotent (wideText .utf16 "1001") [107] false, .submitIdempotent [] [107] true]

theorem idempotent_retry_retriedWithoutDestination :
    IdempotentRetry (fun destination => destination ≠ [])
      (stages queueStep ({} : CtiRequestQueue .utf16) retriedWithoutDestination) :=
  idempotent_retry (by decide)

/-- A retry without a destination is refused as busy before its key is looked at. -/
theorem retriedWithoutDestination_busy :
    ¬ ∀ operations : List (CtiOperation .utf16), CtiOperation.clear ∉ operations →
      IdempotentRetry (fun _ => True)
        (stages queueStep ({} : CtiRequestQueue .utf16) operations) := by
  intro law
  have replayed := (law retriedWithoutDestination (by decide)).replayed
  have answered := (List.pairwise_cons.mp replayed).1 _
    (List.mem_cons_of_mem _ (List.mem_cons_of_mem _ List.mem_cons_self))
    (wideText .utf16 "1001") [107] true ⟨.created, 1, .queued⟩ (by decide) rfl rfl rfl
    [] true .dispatching trivial rfl rfl
  revert answered
  decide

end AxeVoice.Cti
