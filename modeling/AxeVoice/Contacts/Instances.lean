import AxeVoice.Contacts.Store

/-!
# Several stores on one file

The steps of any number of stores in any order.  A save is four steps of its
store: the encoding, the lock file, the comparison, and the replacement, with the
lock file open from the second to the last.  Who is no store may change the file
as well, but not under the lock.
-/

namespace AxeVoice.Contacts

open AxeVoice.Foundation
open ContactStore

universe u

variable {width : WCharWidth} {ι : Type u} [DecidableEq ι]

/-- Where a store is in its save, with the book to write and its bytes. -/
inductive SaveProgress (width : WCharWidth) where
  | idle
  | encoded (book : ContactBook width) (bytes : Bytes)
  | locked (book : ContactBook width) (bytes : Bytes)
  | matched (book : ContactBook width) (bytes : Bytes)

structure SharedFile (width : WCharWidth) (ι : Type u) where
  file : Option Bytes
  lockHolder : Option ι := none
  stores : ι → ContactStore width
  progress : ι → SaveProgress width := fun _ => .idle

/-- The next step of a store. -/
inductive StoreStep (width : WCharWidth) where
  | load (calls : LoadCalls) (book : ContactBook width)
  | save (book : ContactBook width)
  | lock (calls : LockCalls)
  | compare (calls : ReadCalls)
  | replace (calls : ReplaceCalls)

inductive SharedInput (width : WCharWidth) (ι : Type u) where
  | step (owner : ι) (step : StoreStep width)
  | rewrite (file : Option Bytes)

/-- What an operation returns, a load with the caller's book behind it. -/
inductive StoreAnswer (width : WCharWidth) where
  | loaded (result : ContactStoreResult) (book : ContactBook width)
  | saved (result : ContactStoreResult)

namespace SharedFile

variable (shared : SharedFile width ι)

def setStore (owner : ι) (store : ContactStore width) : SharedFile width ι :=
  { shared with stores := Function.update shared.stores owner store }

def setProgress (owner : ι) (progress : SaveProgress width) : SharedFile width ι :=
  { shared with progress := Function.update shared.progress owner progress }

/-- The end of a save that holds the lock file, which closes with it. -/
def release (owner : ι) : SharedFile width ι :=
  { shared.setProgress owner .idle with lockHolder := none }

/-- A step that does not come next in the store's operation does nothing. -/
def stepOf (ctype : WideCtype width) (owner : ι) (step : StoreStep width) :
    Option (StoreAnswer width) × SharedFile width ι :=
  match step, shared.progress owner with
  | .load calls book, .idle =>
      let (result, store, book) := (shared.stores owner).load ctype calls shared.file book
      (some (.loaded result book), shared.setStore owner store)
  | .save book, .idle =>
      match (shared.stores owner).encoded ctype book with
      | none => (some (.saved .error), shared)
      | some bytes => (none, shared.setProgress owner (.encoded book bytes))
  | .lock calls, .encoded book bytes =>
      if calls.succeed && shared.lockHolder.isNone then
        (none, { shared.setProgress owner (.locked book bytes) with lockHolder := some owner })
      else (some (.saved .error), shared.setProgress owner .idle)
  | .compare calls, .locked book bytes =>
      match (shared.stores owner).compare calls shared.file with
      | some refused => (some (.saved refused), shared.release owner)
      | none => (none, shared.setProgress owner (.matched book bytes))
  | .replace calls, .matched _ bytes =>
      let (result, store, file) := (shared.stores owner).replace calls bytes shared.file
      (some (.saved result), { (shared.release owner).setStore owner store with file := file })
  | _, _ => (none, shared)

/-- Another program changes the file, outside of every save that holds the lock. -/
def rewritten (file : Option Bytes) : SharedFile width ι :=
  if shared.lockHolder.isNone then { shared with file := file } else shared

end SharedFile

/-- The answer of a step is its store's. -/
def sharedStep (ctype : WideCtype width) (shared : SharedFile width ι) :
    SharedInput width ι → Option (ι × StoreAnswer width) × SharedFile width ι
  | .step owner step =>
      let (answer, after) := shared.stepOf ctype owner step
      (answer.map fun answer => (owner, answer), after)
  | .rewrite file => (none, shared.rewritten file)

/-- Stores that nothing was loaded into, on one path. -/
def SharedFile.fresh (path : WString width) (file : Option Bytes) : SharedFile width ι :=
  { file := file, stores := fun _ => { path := path } }

variable {ctype : WideCtype width}

/-- What a step of a store does. -/
inductive StepCase (ctype : WideCtype width) (shared : SharedFile width ι) (owner : ι) :
    StoreStep width → Option (StoreAnswer width) × SharedFile width ι → Prop
  | skipped {step : StoreStep width} : StepCase ctype shared owner step (none, shared)
  | unread {calls : LoadCalls} {book : ContactBook width} (idle : shared.progress owner = .idle) :
      StepCase ctype shared owner (.load calls book)
        (some (.loaded .error book),
          shared.setStore owner { shared.stores owner with loaded := false })
  | read {calls : LoadCalls} {book replacement : ContactBook width} {store : ContactStore width}
      (idle : shared.progress owner = .idle) (loaded : store.loaded = true)
      (based : store.Based shared.file) :
      StepCase ctype shared owner (.load calls book)
        (some (.loaded .ok replacement), shared.setStore owner store)
  | unencoded {book : ContactBook width} (idle : shared.progress owner = .idle) :
      StepCase ctype shared owner (.save book) (some (.saved .error), shared)
  | encoded {book : ContactBook width} {bytes : Bytes} (idle : shared.progress owner = .idle)
      (loaded : (shared.stores owner).loaded = true)
      (written : encodeContactBackup ctype book = some bytes) :
      StepCase ctype shared owner (.save book) (none, shared.setProgress owner (.encoded book bytes))
  | unlocked {calls : LockCalls} {book : ContactBook width} {bytes : Bytes}
      (waiting : shared.progress owner = .encoded book bytes) :
      StepCase ctype shared owner (.lock calls)
        (some (.saved .error), shared.setProgress owner .idle)
  | locked {calls : LockCalls} {book : ContactBook width} {bytes : Bytes}
      (waiting : shared.progress owner = .encoded book bytes) (free : shared.lockHolder = none) :
      StepCase ctype shared owner (.lock calls)
        (none, { shared.setProgress owner (.locked book bytes) with lockHolder := some owner })
  | unmatched {calls : ReadCalls} {book : ContactBook width} {bytes : Bytes}
      {result : ContactStoreResult} (holds : shared.progress owner = .locked book bytes)
      (failed : result ≠ .ok) :
      StepCase ctype shared owner (.compare calls) (some (.saved result), shared.release owner)
  | matched {calls : ReadCalls} {book : ContactBook width} {bytes : Bytes}
      (holds : shared.progress owner = .locked book bytes)
      (based : (shared.stores owner).Based shared.file) :
      StepCase ctype shared owner (.compare calls)
        (none, shared.setProgress owner (.matched book bytes))
  | unreplaced {calls : ReplaceCalls} {book : ContactBook width} {bytes : Bytes}
      (ready : shared.progress owner = .matched book bytes) :
      StepCase ctype shared owner (.replace calls) (some (.saved .error), shared.release owner)
  | replaced {calls : ReplaceCalls} {book : ContactBook width} {bytes : Bytes}
      (ready : shared.progress owner = .matched book bytes) :
      StepCase ctype shared owner (.replace calls)
        (some (.saved .ok),
          { (shared.release owner).setStore owner
              { shared.stores owner with baseline := bytes, existed := true } with
            file := some bytes })

theorem stepOf_cases (ctype : WideCtype width) (shared : SharedFile width ι) (owner : ι)
    (step : StoreStep width) :
    StepCase ctype shared owner step (shared.stepOf ctype owner step) := by
  unfold SharedFile.stepOf
  split
  · next calls book idle =>
      have ended := load_cases ctype calls shared.file (shared.stores owner) book
      generalize (shared.stores owner).load ctype calls shared.file book = outcome at ended ⊢
      cases ended with
      | failed => exact .unread idle
      | done loaded based _ => exact .read idle loaded based
  · next book idle =>
      split
      · exact .unencoded idle
      · next bytes begun =>
          obtain ⟨loaded, written⟩ := encoded_some begun
          exact .encoded idle loaded written
  · next calls book bytes waiting =>
      split
      · next opened =>
          simp only [Bool.and_eq_true, Option.isNone_iff_eq_none] at opened
          exact .locked waiting opened.2
      · exact .unlocked waiting
  · next calls book bytes holds =>
      split
      · next stopped => exact .unmatched holds (compare_some stopped)
      · next matched => exact .matched holds (compare_none matched)
  · next calls book bytes ready =>
      have ended := replace_cases (shared.stores owner) calls bytes shared.file
      generalize (shared.stores owner).replace calls bytes shared.file = outcome at ended ⊢
      cases ended with
      | failed =>
          have same : ((shared.release owner).setStore owner (shared.stores owner)) =
              shared.release owner := by
            simp [SharedFile.setStore, SharedFile.release, SharedFile.setProgress]
          have unchanged : { (shared.release owner).setStore owner (shared.stores owner) with
              file := shared.file } = shared.release owner := by rw [same]; rfl
          dsimp only
          rw [unchanged]
          exact .unreplaced ready
      | done => exact .replaced ready
  · exact .skipped

/-- What holds while a store is in its save. -/
def InSave (ctype : WideCtype width) (shared : SharedFile width ι) (owner : ι) :
    SaveProgress width → Prop
  | .idle => shared.lockHolder ≠ some owner
  | .encoded book bytes => (shared.stores owner).loaded = true ∧
      encodeContactBackup ctype book = some bytes ∧ shared.lockHolder ≠ some owner
  | .locked book bytes => (shared.stores owner).loaded = true ∧
      encodeContactBackup ctype book = some bytes ∧ shared.lockHolder = some owner
  | .matched book bytes => (shared.stores owner).loaded = true ∧
      encodeContactBackup ctype book = some bytes ∧ shared.lockHolder = some owner ∧
      (shared.stores owner).Based shared.file

/-- Every store is in its save as its progress says. -/
def Consistent (ctype : WideCtype width) (shared : SharedFile width ι) : Prop :=
  ∀ owner, InSave ctype shared owner (shared.progress owner)

omit [DecidableEq ι] in
theorem fresh_consistent (path : WString width) (file : Option Bytes) :
    Consistent ctype (SharedFile.fresh path file : SharedFile width ι) := fun _ => nofun

omit [DecidableEq ι] in
/-- A save depends on its store, its progress, the holder of the lock and, past the comparison,
on the file. -/
theorem InSave.frame {before after : SharedFile width ι} {owner : ι} {progress : SaveProgress width}
    (known : InSave ctype before owner progress) (stores : after.stores owner = before.stores owner)
    (holder : before.lockHolder = some owner ↔ after.lockHolder = some owner)
    (file : before.lockHolder = some owner → after.file = before.file) :
    InSave ctype after owner progress := by
  cases progress with
  | idle => exact fun held => known (holder.mpr held)
  | encoded book bytes => exact ⟨stores ▸ known.1, known.2.1, fun held => known.2.2 (holder.mpr held)⟩
  | locked book bytes => exact ⟨stores ▸ known.1, known.2.1, holder.mp known.2.2⟩
  | matched book bytes =>
      obtain ⟨loaded, written, held, based⟩ := known
      exact ⟨stores ▸ loaded, written, holder.mp held, by rw [stores, file held]; exact based⟩

@[simp] theorem SharedFile.setStore_stores (shared : SharedFile width ι) (owner : ι)
    (store : ContactStore width) : (shared.setStore owner store).stores owner = store :=
  Function.update_self _ _ _

@[simp] theorem SharedFile.setProgress_progress (shared : SharedFile width ι) (owner : ι)
    (progress : SaveProgress width) : (shared.setProgress owner progress).progress owner = progress :=
  Function.update_self _ _ _

@[simp] theorem SharedFile.setProgress_file (shared : SharedFile width ι) (owner : ι)
    (progress : SaveProgress width) : (shared.setProgress owner progress).file = shared.file := rfl

@[simp] theorem SharedFile.setProgress_lockHolder (shared : SharedFile width ι) (owner : ι)
    (progress : SaveProgress width) :
    (shared.setProgress owner progress).lockHolder = shared.lockHolder := rfl

@[simp] theorem SharedFile.setProgress_stores (shared : SharedFile width ι) (owner : ι)
    (progress : SaveProgress width) :
    (shared.setProgress owner progress).stores = shared.stores := rfl

@[simp] theorem SharedFile.release_file (shared : SharedFile width ι) (owner : ι) :
    (shared.release owner).file = shared.file := rfl

@[simp] theorem SharedFile.release_stores (shared : SharedFile width ι) (owner : ι) :
    (shared.release owner).stores = shared.stores := rfl

@[simp] theorem SharedFile.release_progress (shared : SharedFile width ι) (owner : ι) :
    (shared.release owner).progress owner = .idle :=
  Function.update_self _ _ _

/-- What the other stores see of a step of one: their data and their progress are kept, they
neither get nor lose the lock, and only the holder of the lock changes the file. -/
structure OwnStep (before after : SharedFile width ι) (owner : ι) : Prop where
  progress : ∀ other, other ≠ owner → after.progress other = before.progress other
  stores : ∀ other, other ≠ owner → after.stores other = before.stores other
  holder : ∀ other, other ≠ owner →
    (before.lockHolder = some other ↔ after.lockHolder = some other)
  file : before.lockHolder = some owner ∨ after.file = before.file

/-- A step of one store keeps the others in their saves. -/
theorem OwnStep.keeps {before after : SharedFile width ι} {owner : ι}
    (moved : OwnStep before after owner) (known : Consistent ctype before)
    (own : InSave ctype after owner (after.progress owner)) : Consistent ctype after := by
  intro other
  by_cases same : other = owner
  · rw [same]
    exact own
  · rw [moved.progress other same]
    apply (known other).frame (moved.stores other same) (moved.holder other same)
    intro held
    rcases moved.file with owned | kept
    · exact absurd (Option.some.inj (held.symm.trans owned)) same
    · exact kept

theorem ownStep_setStore (shared : SharedFile width ι) (owner : ι) (store : ContactStore width) :
    OwnStep shared (shared.setStore owner store) owner :=
  ⟨fun _ _ => rfl, fun _ apart => Function.update_of_ne apart _ _, fun _ _ => Iff.rfl, .inr rfl⟩

theorem ownStep_setProgress (shared : SharedFile width ι) (owner : ι)
    (progress : SaveProgress width) : OwnStep shared (shared.setProgress owner progress) owner :=
  ⟨fun _ apart => Function.update_of_ne apart _ _, fun _ _ => rfl, fun _ _ => Iff.rfl, .inr rfl⟩

theorem ownStep_release {shared : SharedFile width ι} {owner : ι}
    (held : shared.lockHolder = some owner) : OwnStep shared (shared.release owner) owner := by
  constructor
  · exact fun _ apart => Function.update_of_ne apart _ _
  · exact fun _ _ => rfl
  · intro other apart
    rw [held]
    exact ⟨fun same => absurd (Option.some.inj same).symm apart, nofun⟩
  · exact .inr rfl

/-- A step of a store keeps every store in its save, and is the store's own. -/
theorem stepOf_consistent {shared : SharedFile width ι} (known : Consistent ctype shared) (owner : ι)
    (step : StoreStep width) :
    OwnStep shared (shared.stepOf ctype owner step).2 owner ∧
      Consistent ctype (shared.stepOf ctype owner step).2 := by
  have own := known owner
  have effect := stepOf_cases ctype shared owner step
  generalize shared.stepOf ctype owner step = outcome at effect ⊢
  cases effect with
  | skipped | unencoded =>
      exact ⟨⟨fun _ _ => rfl, fun _ _ => rfl, fun _ _ => Iff.rfl, .inr rfl⟩, known⟩
  | unread idle | read idle =>
      rw [idle] at own
      refine ⟨ownStep_setStore shared owner _, (ownStep_setStore shared owner _).keeps known ?_⟩
      change InSave ctype _ owner (shared.progress owner)
      rw [idle]
      exact own
  | @encoded book bytes idle loaded written =>
      rw [idle] at own
      have moved := ownStep_setProgress shared owner (.encoded book bytes)
      refine ⟨moved, moved.keeps known ?_⟩
      rw [SharedFile.setProgress_progress]
      exact ⟨loaded, written, own⟩
  | unlocked waiting =>
      rw [waiting] at own
      have moved := ownStep_setProgress shared owner .idle
      refine ⟨moved, moved.keeps known ?_⟩
      rw [SharedFile.setProgress_progress]
      exact own.2.2
  | @locked calls book bytes waiting free =>
      rw [waiting] at own
      have moved : OwnStep shared { shared.setProgress owner (.locked book bytes) with
          lockHolder := some owner } owner := by
        constructor
        · exact fun _ apart => Function.update_of_ne apart _ _
        · exact fun _ _ => rfl
        · intro other apart
          rw [free]
          exact ⟨nofun, fun same => absurd (Option.some.inj same).symm apart⟩
        · exact .inr rfl
      refine ⟨moved, moved.keeps known ?_⟩
      change InSave ctype _ owner ((shared.setProgress owner _).progress owner)
      rw [SharedFile.setProgress_progress]
      exact ⟨own.1, own.2.1, rfl⟩
  | unmatched holds =>
      rw [holds] at own
      have moved := ownStep_release own.2.2
      refine ⟨moved, moved.keeps known ?_⟩
      rw [SharedFile.release_progress]
      exact nofun
  | @matched calls book bytes holds based =>
      rw [holds] at own
      have moved := ownStep_setProgress shared owner (.matched book bytes)
      refine ⟨moved, moved.keeps known ?_⟩
      rw [SharedFile.setProgress_progress]
      exact ⟨own.1, own.2.1, own.2.2, based⟩
  | unreplaced ready =>
      rw [ready] at own
      have moved := ownStep_release own.2.2.1
      refine ⟨moved, moved.keeps known ?_⟩
      rw [SharedFile.release_progress]
      exact nofun
  | @replaced calls book bytes ready =>
      rw [ready] at own
      have released := ownStep_release own.2.2.1
      have moved : OwnStep shared { (shared.release owner).setStore owner
          { shared.stores owner with baseline := bytes, existed := true } with
            file := some bytes } owner :=
        ⟨released.progress, fun _ apart => Function.update_of_ne apart _ _, released.holder,
          .inl own.2.2.1⟩
      refine ⟨moved, moved.keeps known ?_⟩
      change InSave ctype _ owner ((shared.release owner).progress owner)
      rw [SharedFile.release_progress]
      exact nofun

theorem sharedStep_consistent {shared : SharedFile width ι} (known : Consistent ctype shared)
    (input : SharedInput width ι) : Consistent ctype (sharedStep ctype shared input).2 := by
  cases input with
  | step owner step => exact (stepOf_consistent known owner step).2
  | rewrite file =>
      change Consistent ctype (shared.rewritten file)
      unfold SharedFile.rewritten
      split
      · next free =>
          rw [Option.isNone_iff_eq_none] at free
          intro owner
          exact (known owner).frame rfl Iff.rfl fun held => absurd (held.symm.trans free) nofun
      · exact known

/-! ## What a store knows of the file -/

abbrev SharedStage (width : WCharWidth) (ι : Type u) :=
  Stage (SharedFile width ι) (SharedInput width ι) (Option (ι × StoreAnswer width))

/-- The content that a store gets to know in a stage: what it loads, or what it writes. -/
def learned (owner : ι) (stage : SharedStage width ι) : Option (Option Bytes) :=
  match stage.output with
  | some (who, .loaded .ok _) => if who = owner then some stage.after.file else none
  | some (who, .saved .ok) => if who = owner then some stage.after.file else none
  | _ => none

/-- The content that a store has loaded or saved last. -/
def lastSeen (owner : ι) (history : List (SharedStage width ι)) : Option (Option Bytes) :=
  (history.filterMap (learned owner)).getLast?

theorem lastSeen_learned {owner : ι} {history : List (SharedStage width ι)}
    {stage : SharedStage width ι} {content : Option Bytes}
    (known : learned owner stage = some content) :
    lastSeen owner (history ++ [stage]) = some content := by
  rw [lastSeen, List.filterMap_append, List.filterMap_cons, known, List.filterMap_nil]
  exact List.getLast?_concat

theorem lastSeen_kept {owner : ι} {history : List (SharedStage width ι)}
    {stage : SharedStage width ι} (known : learned owner stage = none) :
    lastSeen owner (history ++ [stage]) = lastSeen owner history := by
  rw [lastSeen, List.filterMap_append, List.filterMap_cons, known, List.filterMap_nil,
    List.append_nil]
  rfl

/-- A loaded store's baseline is the content it has seen last. -/
def Seen (history : List (SharedStage width ι)) (shared : SharedFile width ι) : Prop :=
  ∀ owner, (shared.stores owner).loaded = true →
    ∃ content, lastSeen owner history = some content ∧ (shared.stores owner).Based content

/-- A store that neither learns nor changes has seen what it had seen. -/
theorem seen_kept {history : List (SharedStage width ι)} (stage : SharedStage width ι) {owner : ι}
    (seen : Seen history stage.before) (ignorant : learned owner stage = none)
    (same : stage.after.stores owner = stage.before.stores owner)
    (loaded : (stage.after.stores owner).loaded = true) :
    ∃ content, lastSeen owner (history ++ [stage]) = some content ∧
      (stage.after.stores owner).Based content := by
  rw [same] at loaded ⊢
  rw [lastSeen_kept ignorant]
  exact seen owner loaded

/-- The stage of a step with this outcome. -/
def stepStage (shared : SharedFile width ι) (owner : ι) (step : StoreStep width)
    (outcome : Option (StoreAnswer width) × SharedFile width ι) : SharedStage width ι :=
  ⟨shared, .step owner step, outcome.1.map fun answer => (owner, answer), outcome.2⟩

theorem stageOf_step (shared : SharedFile width ι) (owner : ι) (step : StoreStep width) :
    stageOf (sharedStep ctype) shared (.step owner step) =
      stepStage shared owner step (shared.stepOf ctype owner step) := rfl

theorem learned_other {shared : SharedFile width ι} {owner who : ι} (apart : who ≠ owner)
    {step : StoreStep width} {outcome : Option (StoreAnswer width) × SharedFile width ι} :
    learned who (stepStage shared owner step outcome) = none := by
  obtain ⟨answer, after⟩ := outcome
  unfold learned stepStage
  rcases answer with _ | ⟨result, book⟩ | result
  · rfl
  · cases result <;> simp [apart.symm]
  · cases result <;> simp [apart.symm]

omit [DecidableEq ι] in
theorem rewritten_stores (shared : SharedFile width ι) (file : Option Bytes) :
    (shared.rewritten file).stores = shared.stores := by
  unfold SharedFile.rewritten
  split <;> rfl

theorem seen_concat {history : List (SharedStage width ι)} {shared : SharedFile width ι}
    (consistent : Consistent ctype shared) (seen : Seen history shared)
    (input : SharedInput width ι) :
    Seen (history ++ [stageOf (sharedStep ctype) shared input]) (sharedStep ctype shared input).2 := by
  intro who loaded
  cases input with
  | rewrite file =>
      have same := congrFun (rewritten_stores shared file) who
      exact seen_kept (stageOf (sharedStep ctype) shared (.rewrite file)) seen rfl same loaded
  | step owner step =>
  by_cases same : who = owner
  · subst same
    have effect := stepOf_cases ctype shared who step
    rw [stageOf_step]
    change ((shared.stepOf ctype who step).2.stores who).loaded = true at loaded
    change ∃ content, _ ∧ ((shared.stepOf ctype who step).2.stores who).Based content
    generalize shared.stepOf ctype who step = outcome at effect loaded ⊢
    have kept (ignorant : learned who (stepStage shared who step outcome) = none)
        (unchanged : outcome.2.stores who = shared.stores who) :
        ∃ content, lastSeen who (history ++ [stepStage shared who step outcome]) = some content ∧
          (outcome.2.stores who).Based content :=
      seen_kept (stepStage shared who step outcome) seen ignorant unchanged loaded
    cases effect with
    | skipped | unencoded | encoded | unlocked | locked | matched | unreplaced =>
        exact kept rfl rfl
    | unmatched _ failed =>
        refine kept ?_ rfl
        unfold learned stepStage
        simp [failed]
    | unread => simp at loaded
    | read _ _ based =>
        refine ⟨shared.file, lastSeen_learned ?_, ?_⟩
        · simp [learned, stepStage, SharedFile.setStore]
        · rw [SharedFile.setStore_stores]
          exact based
    | @replaced calls book bytes =>
        refine ⟨some bytes, lastSeen_learned ?_, ?_⟩
        · simp [learned, stepStage]
        · change ((SharedFile.setStore _ who _).stores who).Based _
          rw [SharedFile.setStore_stores]
          exact ⟨rfl, rfl⟩
  · exact seen_kept (stageOf (sharedStep ctype) shared (.step owner step)) seen
      (learned_other same) ((stepOf_consistent consistent owner step).1.stores who same) loaded

/-- At every point of a run the stores are in their saves as they say, and have seen the
contents that they hold for current. -/
theorem reachable_sound (ctype : WideCtype width) (path : WString width) (file : Option Bytes)
    (inputs : List (SharedInput width ι)) :
    Consistent ctype (finalState (sharedStep ctype) (SharedFile.fresh path file) inputs) ∧
      Seen (stages (sharedStep ctype) (SharedFile.fresh path file) inputs)
        (finalState (sharedStep ctype) (SharedFile.fresh path file) inputs) := by
  apply history_invariant (fun history shared => Consistent ctype shared ∧ Seen history shared)
    (fun _ => True) _ []
  · exact ⟨fresh_consistent path file, nofun⟩
  · exact fun _ _ => trivial
  · rintro history shared input ⟨consistent, seen⟩ _
    exact ⟨sharedStep_consistent consistent input, seen_concat consistent seen input⟩

/-- A save that returns `Ok` replaced a file that was its store's baseline. -/
theorem saved_ok {shared : SharedFile width ι} (consistent : Consistent ctype shared)
    {input : SharedInput width ι} {owner : ι}
    (saved : (sharedStep ctype shared input).1 = some (owner, .saved .ok)) :
    (shared.stores owner).loaded = true ∧ (shared.stores owner).Based shared.file ∧
      ∃ book bytes, shared.progress owner = .matched book bytes ∧
        encodeContactBackup ctype book = some bytes ∧
        (sharedStep ctype shared input).2.file = some bytes := by
  cases input with
  | rewrite file => cases saved
  | step who step =>
      have effect := stepOf_cases ctype shared who step
      change ((shared.stepOf ctype who step).1.map fun answer => (who, answer)) = _ at saved
      change _ ∧ _ ∧ ∃ book bytes, _ ∧ _ ∧ (shared.stepOf ctype who step).2.file = some bytes
      generalize shared.stepOf ctype who step = outcome at effect saved ⊢
      cases effect with
      | skipped | encoded | locked | matched | unread | read | unencoded | unlocked | unreplaced =>
          cases saved
      | unmatched _ failed =>
          cases saved
          exact absurd rfl failed
      | @replaced calls book bytes ready =>
          cases saved
          have inside := consistent owner
          rw [ready] at inside
          obtain ⟨loaded, written, _, based⟩ := inside
          exact ⟨loaded, based, book, bytes, ready, written, rfl⟩

/-- No other step of a store changes the file. -/
theorem file_kept {shared : SharedFile width ι} {owner : ι} {step : StoreStep width}
    (unsaved : (sharedStep ctype shared (.step owner step)).1 ≠ some (owner, .saved .ok)) :
    (sharedStep ctype shared (.step owner step)).2.file = shared.file := by
  have effect := stepOf_cases ctype shared owner step
  change ((shared.stepOf ctype owner step).1.map fun answer => (owner, answer)) ≠ _ at unsaved
  change (shared.stepOf ctype owner step).2.file = _
  generalize shared.stepOf ctype owner step = outcome at effect unsaved ⊢
  cases effect with
  | replaced => exact absurd rfl unsaved
  | _ => rfl

/-- A load that fails leaves the caller's book as it was, and the store unloaded. -/
theorem load_failed {shared : SharedFile width ι} {owner : ι} {calls : LoadCalls}
    {given book : ContactBook width} {result : ContactStoreResult}
    (answered : (sharedStep ctype shared (.step owner (.load calls given))).1 =
      some (owner, .loaded result book)) (failed : result ≠ .ok) :
    book = given ∧
      ((sharedStep ctype shared (.step owner (.load calls given))).2.stores owner).loaded = false := by
  have effect := stepOf_cases ctype shared owner (.load calls given)
  change ((shared.stepOf ctype owner (.load calls given)).1.map fun answer => (owner, answer)) = _
    at answered
  change _ ∧ ((shared.stepOf ctype owner (.load calls given)).2.stores owner).loaded = false
  generalize shared.stepOf ctype owner (.load calls given) = outcome at effect answered ⊢
  cases effect with
  | skipped => cases answered
  | read =>
      cases answered
      exact absurd rfl failed
  | unread =>
      cases answered
      refine ⟨rfl, ?_⟩
      rw [SharedFile.setStore_stores]

/-- The stage is a load of this store that succeeds. -/
def LoadsOk (owner : ι) (stage : SharedStage width ι) : Prop :=
  ∃ book, stage.output = some (owner, .loaded .ok book)

/-- A store stays unloaded until a load succeeds. -/
theorem unloaded_kept {shared : SharedFile width ι} {owner : ι}
    (unloaded : (shared.stores owner).loaded = false) (consistent : Consistent ctype shared)
    {input : SharedInput width ι} (failed : ¬ LoadsOk owner (stageOf (sharedStep ctype) shared input)) :
    ((sharedStep ctype shared input).2.stores owner).loaded = false := by
  cases input with
  | rewrite file =>
      change ((shared.rewritten file).stores owner).loaded = false
      rw [rewritten_stores]
      exact unloaded
  | step who step =>
  by_cases same : owner = who
  · subst same
    have inside := consistent owner
    have effect := stepOf_cases ctype shared owner step
    rw [stageOf_step] at failed
    change ((shared.stepOf ctype owner step).2.stores owner).loaded = false
    generalize shared.stepOf ctype owner step = outcome at effect failed ⊢
    cases effect with
    | read => exact absurd ⟨_, rfl⟩ failed
    | unread => rw [SharedFile.setStore_stores]
    | replaced ready =>
        rw [ready] at inside
        exact absurd (unloaded.symm.trans inside.1) nofun
    | _ => exact unloaded
  · rw [show (sharedStep ctype shared (.step who step)).2.stores owner = shared.stores owner from
      (stepOf_consistent consistent who step).1.stores owner same]
    exact unloaded

/-- Every save of an unloaded store returns `Error`. -/
theorem unloaded_save {shared : SharedFile width ι} {owner : ι}
    (unloaded : (shared.stores owner).loaded = false) (consistent : Consistent ctype shared)
    {input : SharedInput width ι} {result : ContactStoreResult}
    (saved : (sharedStep ctype shared input).1 = some (owner, .saved result)) : result = .error := by
  cases input with
  | rewrite file => cases saved
  | step who step =>
      have inside := consistent owner
      have effect := stepOf_cases ctype shared who step
      change ((shared.stepOf ctype who step).1.map fun answer => (who, answer)) = _ at saved
      generalize shared.stepOf ctype who step = outcome at effect saved
      cases effect with
      | skipped | encoded | locked | matched | unread | read => cases saved
      | unencoded | unlocked | unreplaced =>
          cases saved
          rfl
      | unmatched holds =>
          cases saved
          rw [holds] at inside
          exact absurd (unloaded.symm.trans inside.1) nofun
      | replaced ready =>
          cases saved
          rw [ready] at inside
          exact absurd (unloaded.symm.trans inside.1) nofun

/-- An uninterrupted save is its four steps, one behind the other. -/
theorem save_uninterrupted (shared : SharedFile width ι) (owner : ι) (calls : SaveCalls)
    (book : ContactBook width) (idle : shared.progress owner = .idle)
    (free : shared.lockHolder = none) :
    let steps := [.save book, .lock calls.lock, .compare calls.read, .replace calls.replace]
    let answer := (shared.stores owner).save ctype calls shared.file book
    let after := finalState (sharedStep ctype) shared (steps.map (.step owner))
    some (owner, .saved answer.1) ∈
        outputs (sharedStep ctype) shared (steps.map (.step owner)) ∧
      after.stores owner = answer.2.1 ∧ after.file = answer.2.2 := by
  intro steps answer after
  cases begun : (shared.stores owner).encoded ctype book with
  | none =>
      simp [steps, answer, after, outputs, stageOf, sharedStep, SharedFile.stepOf,
        ContactStore.save, idle, begun]
  | some bytes =>
  cases opened : calls.lock.succeed with
  | false =>
      simp [steps, answer, after, outputs, stageOf, sharedStep, SharedFile.stepOf,
        ContactStore.save, idle, begun, opened]
  | true =>
  cases compared : (shared.stores owner).compare calls.read shared.file with
  | some refused =>
      simp [steps, answer, after, outputs, stageOf, sharedStep, SharedFile.stepOf,
        ContactStore.save, idle, begun, opened, free, compared]
  | none =>
      simp [steps, answer, after, outputs, stageOf, sharedStep, SharedFile.stepOf,
        ContactStore.save, idle, begun, opened, free, compared]

/-- What is promised of the saves and loads of a run. -/
structure NoLostUpdate (ctype : WideCtype width) (history : List (SharedStage width ι)) : Prop where
  /-- A save that returns `Ok` replaced what its store had loaded or saved last. -/
  replaced : ∀ earlier stage later owner, history = earlier ++ stage :: later →
    stage.output = some (owner, .saved .ok) →
    lastSeen owner earlier = some stage.before.file ∧
      ∃ book bytes, stage.before.progress owner = .matched book bytes ∧
        encodeContactBackup ctype book = some bytes ∧ stage.after.file = some bytes
  /-- No other step of a store changes the file. -/
  kept : ∀ stage ∈ history, ∀ owner step, stage.input = .step owner step →
    stage.output ≠ some (owner, .saved .ok) → stage.after.file = stage.before.file
  /-- A load that fails leaves the caller's book as it was. -/
  unread : ∀ stage ∈ history, ∀ owner calls given result book,
    stage.input = .step owner (.load calls given) →
    stage.output = some (owner, .loaded result book) → result ≠ .ok → book = given
  /-- From then on every save returns `Error` until a load succeeds. -/
  blocked : ∀ earlier load between save later owner calls given result book answer,
    history = earlier ++ load :: (between ++ save :: later) →
    load.input = .step owner (.load calls given) →
    load.output = some (owner, .loaded result book) → result ≠ .ok →
    (∀ stage ∈ between, ¬ LoadsOk owner stage) →
    save.output = some (owner, .saved answer) → answer = .error

/-- Every run of any number of stores on one path loses no update. -/
theorem no_lost_update (ctype : WideCtype width) (path : WString width) (file : Option Bytes)
    (inputs : List (SharedInput width ι)) :
    NoLostUpdate ctype (stages (sharedStep ctype) (SharedFile.fresh path file) inputs) := by
  constructor
  · intro earlier stage later owner split saved
    obtain ⟨first, input, rest, _, rfl, rfl, rfl⟩ := stages_split split
    obtain ⟨consistent, seen⟩ := reachable_sound ctype path file first
    obtain ⟨loaded, based, replaced⟩ := saved_ok consistent saved
    obtain ⟨content, last, also⟩ := seen owner loaded
    exact ⟨last.trans (congrArg some (also.unique based)), replaced⟩
  · intro stage member owner step stepped unsaved
    obtain ⟨earlier, later, split⟩ := List.append_of_mem member
    obtain ⟨first, input, rest, _, rfl, rfl, rfl⟩ := stages_split split
    cases stepped
    exact file_kept unsaved
  · intro stage member owner calls given result book stepped answered failed
    obtain ⟨earlier, later, split⟩ := List.append_of_mem member
    obtain ⟨first, input, rest, _, rfl, rfl, rfl⟩ := stages_split split
    cases stepped
    exact (load_failed answered failed).1
  · intro earlier load between save later owner calls given result book answer split stepped
      answered failed unread saved
    obtain ⟨first, input, rest, _, rfl, rfl, behind⟩ := stages_split split
    obtain ⟨between, next, others, _, rfl, rfl, rfl⟩ := stages_split behind.symm
    cases stepped
    have consistent := (reachable_sound ctype path file first).1
    -- along the stages in between the store stays unloaded
    have known := finalState_invariant_of_admitted
      (fun shared => Consistent ctype shared ∧ (shared.stores owner).loaded = false)
      (fun stage => ¬ LoadsOk owner stage)
      (fun shared input known failed => ⟨sharedStep_consistent known.1 input,
        unloaded_kept known.2 known.1 failed⟩)
      ⟨sharedStep_consistent consistent _, (load_failed answered failed).2⟩ unread
    exact unloaded_save known.2 known.1 saved

end AxeVoice.Contacts
