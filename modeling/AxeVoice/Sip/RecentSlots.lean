import AxeVoice.Foundation.MostRecent
import AxeVoice.Sip.RecentDestinations

/-!
# The slots of the recent destinations

The recent destinations as they are kept in place: ten slots, of which the first
ones are in use.  A destination is put in front by moving the slots in front of it
down by one.  What the slots in use hold is the list of `RecentDestinations`.
-/

namespace AxeVoice.Sip

open Foundation

variable {width : WCharWidth}

abbrev RecentEntries (width : WCharWidth) :=
  Fin RecentDestinations.capacity → RecentDestination width

structure RecentSlots (width : WCharWidth) where
  entries : RecentEntries width := fun _ => ⟨0, []⟩
  size : Nat := 0
  session : UInt64 := 0
  nextToken : UInt64 := 1
  bounded : size ≤ RecentDestinations.capacity := by decide

namespace RecentSlots

open RecentDestinations (capacity validContext supported)

def erase (entry : RecentDestination width) : RecentDestination width :=
  { entry with destination := [], token := 0 }

/-- The tokens go on behind a clearing. -/
def clear (slots : RecentSlots width) : RecentSlots width :=
  { slots with
    entries := fun index => erase (slots.entries index), size := 0, session := 0,
    bounded := Nat.zero_le _ }

def synchronize (observed : SipRuntimeObservation) (slots : RecentSlots width) :
    RecentSlots width :=
  if !validContext observed then slots.clear
  else if slots.session ≠ observed.session then { slots.clear with session := observed.session }
  else slots

/-- The loop that looks for a destination among the slots in use. -/
def positionFrom (slots : RecentSlots width) (destination : WString width) (position : Nat) : Nat :=
  if inside : position < slots.size then
    if (slots.entries ⟨position, Nat.lt_of_lt_of_le inside slots.bounded⟩).destination ≠ destination
    then slots.positionFrom destination (position + 1)
    else position
  else position
termination_by slots.size - position

/-- A move assignment; it leaves any text behind in the slot that it moves from. -/
def moveEntry (moved : WString width → WString width) (entries : RecentEntries width)
    (target source : Fin capacity) : RecentEntries width :=
  let entry := entries source
  Function.update
    (Function.update entries source { entry with destination := moved entry.destination })
    target entry

/-- The loop that moves the slots in front of a position down by one. -/
def shift (moved : WString width → WString width) :
    (position : Nat) → position < capacity → RecentEntries width → RecentEntries width
  | 0, _, entries => entries
  | position + 1, inside, entries =>
      shift moved position (Nat.lt_of_succ_lt inside)
        (moveEntry moved entries ⟨position + 1, inside⟩ ⟨position, Nat.lt_of_succ_lt inside⟩)

/-- The slots in use, and the slot that is given up, once the destination was looked for. -/
def place (slots : RecentSlots width) (position : Nat) : Nat × Nat :=
  if position = slots.size then
    let size := if slots.size < capacity then slots.size + 1 else slots.size
    (size, size - 1)
  else (slots.size, position)

theorem positionFrom_le (slots : RecentSlots width) (destination : WString width) {position : Nat}
    (start : position ≤ slots.size) : slots.positionFrom destination position ≤ slots.size := by
  fun_induction slots.positionFrom destination position with
  | case1 position inside other ih => exact ih inside
  | case2 position inside here => exact start
  | case3 position outside => exact start

theorem place_bounds (slots : RecentSlots width) {position : Nat} (found : position ≤ slots.size) :
    (slots.place position).1 ≤ capacity ∧ (slots.place position).2 < (slots.place position).1 := by
  have bounded := slots.bounded
  have positive : 0 < capacity := by decide
  rw [place]
  split
  · dsimp only
    split <;> omega
  · dsimp only
    omega

/-- What `remember` changes, once nothing can fail any more. -/
def commit (moved : WString width → WString width) (destination : WString width)
    (slots : RecentSlots width) : RecentSlots width :=
  let next : RecentDestination width := ⟨slots.nextToken, destination⟩
  let position := slots.positionFrom destination 0
  have bounds := slots.place_bounds (slots.positionFrom_le destination (Nat.zero_le _))
  let given : Fin capacity := ⟨(slots.place position).2, Nat.lt_of_lt_of_le bounds.2 bounds.1⟩
  let erased := Function.update slots.entries given (erase (slots.entries given))
  let shifted := shift moved given.val given.isLt erased
  { slots with
    entries := Function.update shifted ⟨0, by decide⟩ next,
    size := (slots.place position).1,
    nextToken := slots.nextToken + 1,
    bounded := bounds.1 }

/-- An allocation that fails throws before anything is changed. -/
def remember (ctype : WideCtype width) (moved : WString width → WString width) (memory : Bool)
    (observed : SipRuntimeObservation) (destination : WString width) (accepted : Bool)
    (slots : RecentSlots width) : Bool × RecentSlots width :=
  let slots := slots.synchronize observed
  if !accepted || !validContext observed || observed.sip ≠ .registered || observed.callId ≠ 0 ||
      destination.isEmpty || destination.length > 128 || slots.nextToken = uint64Max then
    (false, slots)
  else if !memory || !supported ctype destination then (false, slots)
  else (true, slots.commit moved destination)

def at? (slots : RecentSlots width) (index : Nat) : Option (RecentDestination width) :=
  if inside : index < slots.size then
    some (slots.entries ⟨index, Nat.lt_of_lt_of_le inside slots.bounded⟩)
  else none

/-- The slots in use. -/
def listed (slots : RecentSlots width) : List (RecentDestination width) :=
  (List.ofFn slots.entries).take slots.size

def find (slots : RecentSlots width) (token : UInt64) (observed : SipRuntimeObservation) :
    Option (RecentDestination width) :=
  if token = 0 || !validContext observed || observed.session ≠ slots.session then none
  else slots.listed.find? fun entry => entry.token = token

/-- The recent destinations without the slots that they are kept in. -/
def toRecent (slots : RecentSlots width) : RecentDestinations width :=
  ⟨slots.listed, slots.session, slots.nextToken⟩

theorem listed_length (slots : RecentSlots width) : slots.listed.length = slots.size := by
  rw [listed, List.length_take, List.length_ofFn]
  exact Nat.min_eq_left slots.bounded

theorem listed_getElem? (slots : RecentSlots width) (index : Nat) :
    slots.listed[index]? = slots.at? index := by
  rw [listed, List.getElem?_take, List.getElem?_ofFn, at?]
  have bounded := slots.bounded
  by_cases inside : index < slots.size
  · rw [if_pos inside, dif_pos inside, dif_pos (Nat.lt_of_lt_of_le inside bounded)]
  · rw [if_neg inside, dif_neg inside]

/-- The loop stops at the first slot of the destination, or behind those in use. -/
theorem positionFrom_eq (slots : RecentSlots width) (destination : WString width) {position : Nat}
    (start : position ≤ slots.size) :
    slots.positionFrom destination position = position +
      (slots.listed.drop position).findIdx fun entry => entry.destination = destination := by
  have slot {position : Nat} (inside : position < slots.size) :
      slots.listed.drop position =
        slots.entries ⟨position, Nat.lt_of_lt_of_le inside slots.bounded⟩ ::
          slots.listed.drop (position + 1) := by
    have here := slots.listed_getElem? position
    rw [at?, dif_pos inside] at here
    obtain ⟨bound, same⟩ := List.getElem?_eq_some_iff.mp here
    rw [List.drop_eq_getElem_cons bound, same]
  fun_induction slots.positionFrom destination position with
  | case1 position inside other ih =>
      rw [slot inside, List.findIdx_cons, ih inside, decide_eq_false other, cond_false]
      omega
  | case2 position inside here =>
      rw [slot inside, List.findIdx_cons, decide_eq_true (not_not.mp here), cond_true, Nat.add_zero]
  | case3 position outside =>
      have ended : position = slots.size := by omega
      rw [ended, List.drop_eq_nil_of_le (Nat.le_of_eq slots.listed_length)]
      rfl

/-- What the moves leave in every slot but the first. -/
theorem shift_apply (moved : WString width → WString width) {position : Nat}
    (inside : position < capacity) (entries : RecentEntries width) {index : Fin capacity}
    (behind : 0 < index.val) :
    shift moved position inside entries index =
      if index.val ≤ position then entries ⟨index.val - 1, by omega⟩ else entries index := by
  induction position generalizing entries with
  | zero => rw [shift, if_neg (by omega)]
  | succ position ih =>
      rw [shift, ih]
      have moves (other : Fin capacity) : moveEntry moved entries ⟨position + 1, inside⟩
          ⟨position, Nat.lt_of_succ_lt inside⟩ other =
        if other.val = position + 1 then entries ⟨position, Nat.lt_of_succ_lt inside⟩
        else if other.val = position then
          { entries ⟨position, Nat.lt_of_succ_lt inside⟩ with
            destination := moved (entries ⟨position, Nat.lt_of_succ_lt inside⟩).destination }
        else entries other := by
        simp only [moveEntry, Function.update_apply, Fin.ext_iff]
      rcases Nat.lt_trichotomy index.val (position + 1) with front | here | later
      · rw [if_pos (by omega), if_pos (by omega), moves, if_neg (by simp only; omega),
          if_neg (by simp only; omega)]
      · rw [if_neg (by omega), if_pos (by omega), moves, if_pos here]
        congr 1
        apply Fin.ext
        simp only
        omega
      · rw [if_neg (by omega), if_neg (by omega), moves, if_neg (by omega), if_neg (by omega)]

/-- Putting an entry in front gives up one slot and keeps the order of the others. -/
theorem ofFn_front (moved : WString width → WString width) (entries : RecentEntries width)
    (given : Fin capacity) (next : RecentDestination width) :
    List.ofFn (Function.update
        (shift moved given.val given.isLt
          (Function.update entries given (erase (entries given)))) ⟨0, by decide⟩ next) =
      next :: (List.ofFn entries).eraseIdx given.val := by
  apply List.ext_getElem?
  intro index
  rw [List.getElem?_ofFn]
  cases index with
  | zero =>
      rw [dif_pos (by decide), Function.update_apply, if_pos rfl, List.getElem?_cons_zero]
  | succ index =>
      rw [List.getElem?_cons_succ, List.getElem?_eraseIdx]
      by_cases inside : index + 1 < capacity
      · have later : (⟨index + 1, inside⟩ : Fin capacity) ≠ ⟨0, by decide⟩ := by
          simp only [ne_eq, Fin.mk.injEq]
          omega
        rw [dif_pos inside, Function.update_apply, if_neg later,
          shift_apply moved given.isLt _ (Nat.succ_pos index)]
        by_cases front : index < given.val
        · have other : (⟨index, by omega⟩ : Fin capacity) ≠ given := by
            simp only [ne_eq, Fin.ext_iff]
            omega
          rw [if_pos front, if_pos (by simp only; omega), List.getElem?_ofFn, dif_pos (by omega),
            Function.update_apply]
          exact congrArg some (if_neg other)
        · have other : (⟨index + 1, inside⟩ : Fin capacity) ≠ given := by
            simp only [ne_eq, Fin.ext_iff]
            omega
          rw [if_neg front, if_neg (by simp only; omega), List.getElem?_ofFn, dif_pos inside,
            Function.update_apply, if_neg other]
      · rw [dif_neg inside]
        have none : ∀ place, capacity ≤ place → (List.ofFn entries)[place]? = none :=
          fun place outside => List.getElem?_eq_none (by rwa [List.length_ofFn])
        have bound := given.isLt
        split
        · omega
        · exact (none _ (by omega)).symm

theorem eraseIdx_take {α : Type} (entries : List α) {position count : Nat}
    (inside : position ≤ count) :
    (entries.eraseIdx position).take count = (entries.take (count + 1)).eraseIdx position := by
  apply List.ext_getElem?
  intro index
  rw [List.getElem?_take, List.getElem?_eraseIdx, List.getElem?_eraseIdx, List.getElem?_take,
    List.getElem?_take]
  by_cases front : index < position
  · rw [if_pos front, if_pos front, if_pos (by omega), if_pos (by omega)]
  · rw [if_neg front, if_neg front]
    by_cases within : index < count
    · rw [if_pos within, if_pos (by omega)]
    · rw [if_neg within, if_neg (by omega)]

/-- The slot that is given up is the one that the list gives up. -/
theorem take_place (slots : RecentSlots width) (next : RecentDestination width) :
    (next :: (List.ofFn slots.entries).eraseIdx
        (slots.place (slots.positionFrom next.destination 0)).2).take
          (slots.place (slots.positionFrom next.destination 0)).1 =
      RecentDestinations.promote slots.listed next := by
  have position : slots.positionFrom next.destination 0 =
      slots.listed.findIdx fun entry => entry.destination = next.destination := by
    rw [slots.positionFrom_eq next.destination (Nat.zero_le _), List.drop_zero, Nat.zero_add]
  have length := slots.listed_length
  have bounded := slots.bounded
  have whole : (List.ofFn slots.entries).length = capacity := List.length_ofFn
  rw [position, RecentDestinations.promote, length]
  rcases Nat.lt_or_ge (slots.listed.findIdx fun entry => entry.destination = next.destination)
    slots.size with inside | outside
  · -- the slot of the destination is given up
    have found : slots.listed.findIdx? (fun entry => entry.destination = next.destination) =
        some (slots.listed.findIdx fun entry => entry.destination = next.destination) :=
      List.findIdx?_eq_some_iff_findIdx_eq.mpr ⟨by omega, rfl⟩
    obtain ⟨count, size⟩ : ∃ count, slots.size = count + 1 := ⟨slots.size - 1, by omega⟩
    rw [found, place, if_neg (by omega), size, List.take_succ_cons, eraseIdx_take _ (by omega),
      ← size]
    rfl
  · have last : slots.listed.findIdx (fun entry => entry.destination = next.destination) =
        slots.size := by
      have bound : slots.listed.findIdx (fun entry => entry.destination = next.destination) ≤
          slots.listed.length := List.findIdx_le_length
      omega
    have none : slots.listed.findIdx? (fun entry => entry.destination = next.destination) = none :=
      List.findIdx?_eq_none_iff_findIdx_eq.mpr (last.trans length.symm)
    rw [none, last, place, if_pos rfl]
    by_cases room : slots.size < capacity
    · -- one more slot is used
      simp only [if_pos room, Nat.add_sub_cancel]
      rw [List.take_succ_cons, List.eraseIdx_eq_take_drop_succ, List.take_append_of_le_length,
        List.take_take, Nat.min_self]
      · rfl
      · rw [List.length_take, whole]
        omega
    · -- the oldest entry goes
      have full : slots.size = 9 + 1 := Nat.le_antisymm bounded (Nat.not_lt.mp room)
      simp only [if_neg room]
      have nothing : (slots.listed.drop (9 + 1)) = [] := List.drop_eq_nil_of_le (by omega)
      rw [full, List.take_succ_cons, Nat.add_sub_cancel, eraseIdx_take _ (Nat.le_refl _)]
      rw [listed, full] at nothing ⊢
      rw [List.eraseIdx_eq_take_drop_succ, nothing, List.append_nil]
      rfl

theorem toRecent_synchronize (observed : SipRuntimeObservation) (slots : RecentSlots width) :
    (slots.synchronize observed).toRecent = slots.toRecent.synchronize observed := by
  rw [synchronize, RecentDestinations.synchronize]
  split
  · rfl
  split
  · next other => exact (if_pos other).symm
  · next same => exact (if_neg same).symm

/-- Without the memory that it needs, or where it refuses, a call only synchronizes. -/
theorem remember_false {ctype : WideCtype width} {moved : WString width → WString width}
    {memory accepted : Bool} {observed : SipRuntimeObservation} {destination : WString width}
    {slots : RecentSlots width}
    (refused : (slots.remember ctype moved memory observed destination accepted).1 = false) :
    (slots.remember ctype moved memory observed destination accepted).2 =
      slots.synchronize observed := by
  rw [remember] at refused ⊢
  split
  · rfl
  next passes =>
  rw [if_neg passes] at refused
  split
  · rfl
  next known =>
  rw [if_neg known] at refused
  cases refused

theorem toRecent_commit (moved : WString width → WString width) (destination : WString width)
    (slots : RecentSlots width) :
    (slots.commit moved destination).toRecent =
      { slots.toRecent with
        entries := RecentDestinations.promote slots.listed ⟨slots.nextToken, destination⟩,
        nextToken := slots.nextToken + 1 } := by
  have front := slots.take_place ⟨slots.nextToken, destination⟩
  have listed : (slots.commit moved destination).listed =
      RecentDestinations.promote slots.listed ⟨slots.nextToken, destination⟩ := by
    rw [RecentSlots.listed, commit, ofFn_front]
    exact front
  rw [toRecent, listed]
  rfl

/-- The slots remember what the list remembers. -/
theorem toRecent_remember (ctype : WideCtype width) (moved : WString width → WString width)
    (memory : Bool) (observed : SipRuntimeObservation) (destination : WString width)
    (accepted : Bool) (slots : RecentSlots width) :
    ((slots.remember ctype moved memory observed destination accepted).1,
        (slots.remember ctype moved memory observed destination accepted).2.toRecent) =
      if memory then slots.toRecent.remember ctype observed destination accepted
      else (false, slots.toRecent.synchronize observed) := by
  have same := slots.toRecent_synchronize observed
  have token : (slots.toRecent.synchronize observed).nextToken =
      (slots.synchronize observed).nextToken := by rw [← same]; rfl
  rw [remember, RecentDestinations.remember]
  rw [token]
  split
  · rw [same]
    cases memory <;> rfl
  cases memory with
  | false =>
      rw [← same]
      rfl
  | true =>
      rw [Bool.not_true, Bool.false_or, if_pos rfl]
      split
      · rw [same]
      · rw [toRecent_commit, ← same]
        rfl

end RecentSlots

end AxeVoice.Sip
