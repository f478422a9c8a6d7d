import AxeVoice.Foundation.EventSource
import AxeVoice.Foundation.Reactive
import AxeVoice.Sip.RecentSlots
import Mathlib.Data.List.TakeWhile

/-!
# The recent destinations of a session

Whatever calls were made, the slots hold the destinations that were accepted most
recently in the session at hand, and every acceptance has a token of its own.
-/

namespace AxeVoice.Sip

open Foundation

variable {width : WCharWidth}

/-- A call; what an allocation does and what a move leaves behind is up to the environment. -/
inductive RecentCall (width : WCharWidth) where
  | synchronize (observed : SipRuntimeObservation)
  | remember (observed : SipRuntimeObservation) (destination : WString width) (accepted : Bool)
      (memory : Bool) (moved : WString width → WString width)
  | clear

/-- The call's result, false for the calls without one, and the slots behind it. -/
def recentStep (ctype : WideCtype width) (slots : RecentSlots width) :
    RecentCall width → Bool × RecentSlots width
  | .synchronize observed => (false, slots.synchronize observed)
  | .remember observed destination accepted memory moved =>
      slots.remember ctype moved memory observed destination accepted
  | .clear => (false, slots.clear)

abbrev RecentStage (width : WCharWidth) := Stage (RecentSlots width) (RecentCall width) Bool

namespace RecentCall

/-- The session of a call, where it observes a context and does not clear. -/
def session : RecentCall width → Option UInt64
  | .synchronize observed => if RecentDestinations.validContext observed then some observed.session else none
  | .remember observed .. => if RecentDestinations.validContext observed then some observed.session else none
  | .clear => none

def destination : RecentCall width → Option (WString width)
  | .remember _ destination .. => some destination
  | _ => none

/-- The call asks for a supported destination to be remembered, in a session without a call. -/
def Accepts (ctype : WideCtype width) : RecentCall width → Prop
  | .remember observed destination accepted memory _ =>
      accepted = true ∧ RecentDestinations.Idle observed ∧ destination ≠ [] ∧
        destination.length ≤ 128 ∧ RecentDestinations.supported ctype destination = true ∧
        memory = true
  | _ => False

end RecentCall

/-- The entry of an acceptance. -/
def issue (stage : RecentStage width) : Option (RecentDestination width) :=
  if stage.output then
    stage.input.destination.map fun destination => ⟨stage.before.nextToken, destination⟩
  else none

/-- The session that a history ends in, where it has a context. -/
def currentSession (history : List (RecentStage width)) : Option UInt64 :=
  history.getLast?.bind fun stage => stage.input.session

def inSession (session : UInt64) (stage : RecentStage width) : Bool :=
  stage.input.session = some session

/-- The stages since the session changed, the context was lost or the list was cleared; newest first. -/
def sinceReset (history : List (RecentStage width)) : List (RecentStage width) :=
  match currentSession history with
  | none => []
  | some session => history.reverse.takeWhile (inSession session)

/-- The acceptances since then, newest first. -/
def acceptedSince (history : List (RecentStage width)) : List (RecentDestination width) :=
  (sinceReset history).filterMap issue

theorem currentSession_append (history : List (RecentStage width)) (stage : RecentStage width) :
    currentSession (history ++ [stage]) = stage.input.session := by
  rw [currentSession, List.getLast?_concat]
  rfl

theorem sinceReset_append (history : List (RecentStage width)) (stage : RecentStage width) :
    sinceReset (history ++ [stage]) =
      if stage.input.session = none then []
      else if stage.input.session = currentSession history then stage :: sinceReset history
      else [stage] := by
  rw [sinceReset, currentSession_append]
  cases session : stage.input.session with
  | none => rw [if_pos rfl]
  | some id =>
      have here : inSession id stage = true := decide_eq_true session
      rw [if_neg (by simp), List.reverse_append, List.reverse_singleton, List.singleton_append]
      dsimp only
      rw [List.takeWhile_cons_of_pos here]
      by_cases same : some id = currentSession history
      · rw [if_pos same, sinceReset, ← same]
      · rw [if_neg same]
        cases reversed : history.reverse with
        | nil => rfl
        | cons last older =>
            have final : currentSession history = last.input.session := by
              have split : history = older.reverse ++ [last] := by
                rw [← List.reverse_reverse history, reversed, List.reverse_cons]
              rw [split, currentSession_append]
            have elsewhere : ¬ inSession id last = true := by
              rw [final] at same
              exact fun found => same (of_decide_eq_true found).symm
            rw [List.takeWhile_cons_of_neg elsewhere]

namespace RecentDestinations

/-- The list in a context; without one it is empty. -/
def inContext (session : Option UInt64) (recent : RecentDestinations width) :
    RecentDestinations width :=
  match session with
  | none => recent.clear
  | some session =>
      if recent.session ≠ session then { recent.clear with session := session } else recent

theorem synchronize_eq (observed : SipRuntimeObservation) (recent : RecentDestinations width) :
    recent.synchronize observed =
      recent.inContext (if validContext observed then some observed.session else none) := by
  rw [synchronize]
  cases validContext observed <;> rfl

/-- With one entry for each destination, the first one of it is the only one. -/
theorem eraseIdx_eq_filter {entries : List (RecentDestination width)} {destination : WString width}
    (distinct : entries.Pairwise fun newer older => newer.destination ≠ older.destination)
    {position : Nat}
    (found : entries.findIdx? (fun entry => entry.destination = destination) = some position) :
    entries.eraseIdx position = entries.filter fun entry => entry.destination ≠ destination := by
  induction entries generalizing position with
  | nil => cases found
  | cons entry rest ih =>
      obtain ⟨apart, later⟩ := List.pairwise_cons.mp distinct
      rw [List.findIdx?_cons] at found
      by_cases here : entry.destination = destination
      · have gone : decide (entry.destination ≠ destination) = false := decide_eq_false (not_not.mpr here)
        have stay : ∀ other ∈ rest, decide (other.destination ≠ destination) = true :=
          fun other member => decide_eq_true fun same => apart other member (here.trans same.symm)
        rw [decide_eq_true here, if_pos rfl] at found
        cases found
        rw [List.eraseIdx_cons_zero, List.filter_cons, gone, List.filter_eq_self.mpr stay]
        rfl
      · rw [decide_eq_false here, if_neg Bool.false_ne_true, Option.map_eq_some_iff] at found
        obtain ⟨before, foundLater, rfl⟩ := found
        have kept : decide (entry.destination ≠ destination) = true := decide_eq_true here
        rw [List.eraseIdx_cons_succ, List.filter_cons, kept, ih later foundLater]
        rfl

theorem promote_eq {entries : List (RecentDestination width)} {next : RecentDestination width}
    (distinct : entries.Pairwise fun newer older => newer.destination ≠ older.destination)
    (room : entries.length ≤ capacity) :
    promote entries next = moveToFront RecentDestination.destination capacity next entries := by
  rw [promote, moveToFront]
  cases found : entries.findIdx? fun entry => entry.destination = next.destination with
  | some position =>
      have inside : position < entries.length := (List.findIdx?_eq_some_iff_findIdx_eq.mp found).1
      dsimp only
      rw [← eraseIdx_eq_filter distinct found, List.take_of_length_le]
      rw [List.length_eraseIdx_of_lt inside]
      omega
  | none =>
      have stay : ∀ entry ∈ entries, decide (entry.destination ≠ next.destination) = true := by
        intro entry member
        have other := List.findIdx?_eq_none_iff.mp found entry member
        exact decide_eq_true (of_decide_eq_false other)
      dsimp only
      rw [List.filter_eq_self.mpr stay]
      split
      · rw [List.take_of_length_le (by omega)]
      · rfl

theorem idle_iff {observed : SipRuntimeObservation} :
    Idle observed ↔ validContext observed = true ∧ observed.sip = .registered ∧ observed.callId = 0 := by
  constructor
  · rintro ⟨running, verified, session, registered, idle⟩
    refine ⟨?_, registered, idle⟩
    simp [validContext, running, verified, session, registered]
  · rintro ⟨valid, registered, idle⟩
    simp only [validContext, Bool.and_eq_true, decide_eq_true_eq] at valid
    exact ⟨valid.1.1.1, valid.1.1.2, valid.1.2, registered, idle⟩

/-- The checks of a call, and what it does behind them. -/
theorem remember_eq (ctype : WideCtype width) (observed : SipRuntimeObservation)
    (destination : WString width) (accepted : Bool) (recent : RecentDestinations width) :
    (¬ (accepted = true ∧ Idle observed ∧ destination ≠ [] ∧ destination.length ≤ 128 ∧
          supported ctype destination = true ∧ recent.nextToken ≠ uint64Max) ∧
        recent.remember ctype observed destination accepted = (false, recent.synchronize observed)) ∨
      (accepted = true ∧ Idle observed ∧ destination ≠ [] ∧ destination.length ≤ 128 ∧
          supported ctype destination = true ∧ recent.nextToken ≠ uint64Max) ∧
        recent.remember ctype observed destination accepted =
          (true, { recent.synchronize observed with
            entries := promote (recent.synchronize observed).entries ⟨recent.nextToken, destination⟩,
            nextToken := recent.nextToken + 1 }) := by
  rw [remember, synchronize_nextToken]
  split
  · next stopped =>
      refine .inl ⟨?_, rfl⟩
      rintro ⟨taken, idle, filled, short, -, tokens⟩
      obtain ⟨valid, registered, silent⟩ := idle_iff.mp idle
      have empty : destination.isEmpty = false := List.isEmpty_eq_false_iff.mpr filled
      have within : decide (destination.length > 128) = false := decide_eq_false (by omega)
      rw [taken, valid, registered, silent, empty, within, decide_eq_false tokens] at stopped
      cases stopped
  next passes =>
  simp only [Bool.or_eq_true, Bool.not_eq_true', decide_eq_true_eq, List.isEmpty_iff, not_or,
    Bool.not_eq_false, not_not, Nat.not_lt] at passes
  obtain ⟨⟨⟨⟨⟨⟨taken, valid⟩, registered⟩, silent⟩, filled⟩, short⟩, tokens⟩ := passes
  have idle := idle_iff.mpr ⟨valid, registered, silent⟩
  split
  · next unknown =>
      refine .inl ⟨fun all => ?_, rfl⟩
      rw [all.2.2.2.2.1] at unknown
      cases unknown
  · next known =>
      refine .inr ⟨⟨taken, idle, filled, short, ?_, tokens⟩, rfl⟩
      simpa using known

end RecentDestinations

/-- The result of a call is true exactly if it is to be remembered and tokens are left. -/
theorem recentStep_output (ctype : WideCtype width) (slots : RecentSlots width)
    (call : RecentCall width) :
    (recentStep ctype slots call).1 = true ↔
      call.Accepts ctype ∧ slots.nextToken ≠ uint64Max := by
  cases call with
  | synchronize | clear => exact iff_of_false Bool.false_ne_true fun impossible => impossible.1
  | remember observed destination accepted memory moved =>
      have whole := congrArg Prod.fst
        (slots.toRecent_remember ctype moved memory observed destination accepted)
      change (slots.remember ctype moved memory observed destination accepted).1 = true ↔ _
      rw [show (slots.remember ctype moved memory observed destination accepted).1 = _ from whole]
      cases memory with
      | false => exact iff_of_false Bool.false_ne_true fun all => Bool.false_ne_true all.1.2.2.2.2.2
      | true =>
          rw [if_pos rfl]
          rcases RecentDestinations.remember_eq ctype observed destination accepted slots.toRecent with
            ⟨refused, same⟩ | ⟨all, same⟩
          · rw [same]
            refine iff_of_false Bool.false_ne_true ?_
            rintro ⟨⟨taken, idle, filled, short, known, -⟩, tokens⟩
            exact refused ⟨taken, idle, filled, short, known, tokens⟩
          · rw [same]
            obtain ⟨taken, idle, filled, short, known, tokens⟩ := all
            exact iff_of_true rfl ⟨⟨taken, idle, filled, short, known, rfl⟩, tokens⟩

/-- What a call does to the list: it puts it in its context, and possibly an entry in front. -/
theorem recentStep_cases (ctype : WideCtype width) (slots : RecentSlots width)
    (call : RecentCall width) :
    ((recentStep ctype slots call).1 = false ∧
      (recentStep ctype slots call).2.toRecent = slots.toRecent.inContext call.session) ∨
    ∃ session destination, call.session = some session ∧ call.destination = some destination ∧
      (recentStep ctype slots call).1 = true ∧ slots.nextToken ≠ uint64Max ∧
      (recentStep ctype slots call).2.toRecent =
        { slots.toRecent.inContext call.session with
          entries := RecentDestinations.promote (slots.toRecent.inContext call.session).entries
            ⟨slots.nextToken, destination⟩,
          nextToken := slots.nextToken + 1 } := by
  cases call with
  | synchronize observed =>
      refine .inl ⟨rfl, ?_⟩
      exact (slots.toRecent_synchronize observed).trans (slots.toRecent.synchronize_eq observed)
  | clear => exact .inl ⟨rfl, rfl⟩
  | remember observed destination accepted memory moved =>
      have whole := slots.toRecent_remember ctype moved memory observed destination accepted
      have context : slots.toRecent.synchronize observed = slots.toRecent.inContext
          (RecentCall.remember observed destination accepted memory moved).session :=
        RecentDestinations.synchronize_eq observed slots.toRecent
      rw [context] at whole
      cases memory with
      | false => exact .inl (Prod.mk.inj whole)
      | true =>
          rw [if_pos rfl] at whole
          rcases RecentDestinations.remember_eq ctype observed destination accepted slots.toRecent with
            ⟨-, same⟩ | ⟨⟨taken, idle, filled, short, known, tokens⟩, same⟩
          · rw [same, context] at whole
            exact .inl (Prod.mk.inj whole)
          · rw [same, context] at whole
            obtain ⟨output, after⟩ := Prod.mk.inj whole
            have valid := (RecentDestinations.idle_iff.mp idle).1
            exact .inr ⟨observed.session, destination, if_pos valid, rfl, output, tokens, after⟩

/-- What the slots are at the end of a history. -/
structure RecentKept (history : List (RecentStage width)) (slots : RecentSlots width) : Prop where
  session : slots.session = (currentSession history).getD 0
  listed : slots.listed =
    (mostRecent RecentDestination.destination (acceptedSince history)).take RecentDestinations.capacity
  tokens : slots.nextToken ≠ 0
  below : ∀ entry ∈ history.filterMap issue, entry.token ≠ 0 ∧ entry.token < slots.nextToken
  increasing : (history.filterMap issue).Pairwise fun older newer => older.token < newer.token

theorem session_nonzero {call : RecentCall width} {session : UInt64}
    (known : call.session = some session) : session ≠ 0 := by
  have of_valid {observed : SipRuntimeObservation}
      (found : (if RecentDestinations.validContext observed then some observed.session else none) =
        some session) : session ≠ 0 := by
    split at found
    · next valid =>
        cases found
        simp only [RecentDestinations.validContext, Bool.and_eq_true, decide_eq_true_eq] at valid
        exact valid.1.2
    · cases found
  cases call with
  | synchronize observed => exact of_valid known
  | remember observed destination accepted memory moved => exact of_valid known
  | clear => cases known

theorem kept_initial : RecentKept ([] : List (RecentStage width)) {} where
  session := rfl
  listed := rfl
  tokens := (by decide : (1 : UInt64) ≠ 0)
  below := fun _ member => absurd member List.not_mem_nil
  increasing := .nil

/-- The list in the context of the next stage: what was accepted since the reset stays. -/
theorem RecentKept.inContext {history : List (RecentStage width)} {slots : RecentSlots width}
    (kept : RecentKept history slots) (call : RecentCall width) :
    (slots.toRecent.inContext call.session).session = call.session.getD 0 ∧
      (slots.toRecent.inContext call.session).entries =
        if call.session = none then []
        else if call.session = currentSession history then slots.listed else [] := by
  cases known : call.session with
  | none => exact ⟨rfl, rfl⟩
  | some session =>
      have nonzero := session_nonzero known
      rw [if_neg (by simp), RecentDestinations.inContext]
      have current : slots.toRecent.session = (currentSession history).getD 0 := kept.session
      by_cases same : some session = currentSession history
      · have stays : ¬ slots.toRecent.session ≠ session := by
          rw [current, ← same]
          exact not_not.mpr rfl
        rw [if_neg stays, if_pos same]
        exact ⟨not_not.mp stays, rfl⟩
      · have changes : slots.toRecent.session ≠ session := by
          rw [current]
          intro equal
          cases old : currentSession history with
          | none =>
              rw [old] at equal
              exact nonzero equal.symm
          | some other =>
              rw [old] at equal same
              exact same (congrArg some equal.symm)
        rw [if_pos changes, if_neg same]
        exact ⟨rfl, rfl⟩

theorem acceptedSince_append (history : List (RecentStage width)) (stage : RecentStage width) :
    acceptedSince (history ++ [stage]) =
      if stage.input.session = none then []
      else (issue stage).toList ++
        if stage.input.session = currentSession history then acceptedSince history else [] := by
  rw [acceptedSince, sinceReset_append]
  have front (rest : List (RecentStage width)) :
      (stage :: rest).filterMap issue = (issue stage).toList ++ rest.filterMap issue := by
    rw [List.filterMap_cons]
    cases issue stage <;> rfl
  split
  · rfl
  split
  · exact front _
  · exact front []

theorem inContext_nextToken (session : Option UInt64) (recent : RecentDestinations width) :
    (recent.inContext session).nextToken = recent.nextToken := by
  cases session with
  | none => rfl
  | some session =>
      rw [RecentDestinations.inContext]
      split <;> rfl

/-- A call that is refused only brings the session up to date. -/
theorem RecentKept.refused (ctype : WideCtype width) {history : List (RecentStage width)}
    {slots : RecentSlots width} (kept : RecentKept history slots) (call : RecentCall width)
    (output : (recentStep ctype slots call).1 = false)
    (after : (recentStep ctype slots call).2.toRecent = slots.toRecent.inContext call.session) :
    RecentKept (history ++ [stageOf (recentStep ctype) slots call])
      (recentStep ctype slots call).2 := by
  obtain ⟨session, entries⟩ := kept.inContext call
  have input : (stageOf (recentStep ctype) slots call).input.session = call.session := rfl
  have noIssue : issue (stageOf (recentStep ctype) slots call) = none := by
    rw [issue, stageOf, output]
    rfl
  have next : (recentStep ctype slots call).2.nextToken = slots.nextToken :=
    (congrArg RecentDestinations.nextToken after).trans
      (inContext_nextToken call.session slots.toRecent)
  have issues : (history ++ [stageOf (recentStep ctype) slots call]).filterMap issue =
      history.filterMap issue := by
    rw [List.filterMap_append, List.filterMap_cons, noIssue]
    exact List.append_nil _
  refine ⟨?_, ?_, ?_, ?_, ?_⟩
  · rw [currentSession_append, input, ← session]
    exact congrArg RecentDestinations.session after
  · have listed : (recentStep ctype slots call).2.listed = _ :=
      (congrArg RecentDestinations.entries after).trans entries
    rw [listed, acceptedSince_append, noIssue, input]
    split
    · rfl
    split
    · exact kept.listed
    · rfl
  · rw [next]
    exact kept.tokens
  · rw [issues, next]
    exact kept.below
  · rw [issues]
    exact kept.increasing

/-- An accepted destination goes in front of the others. -/
theorem RecentKept.accepted (ctype : WideCtype width) {history : List (RecentStage width)}
    {slots : RecentSlots width} (kept : RecentKept history slots) (call : RecentCall width)
    {id : UInt64} {destination : WString width} (known : call.session = some id)
    (named : call.destination = some destination) (output : (recentStep ctype slots call).1 = true)
    (tokens : slots.nextToken ≠ uint64Max)
    (after : (recentStep ctype slots call).2.toRecent =
      { slots.toRecent.inContext call.session with
        entries := RecentDestinations.promote (slots.toRecent.inContext call.session).entries
          ⟨slots.nextToken, destination⟩,
        nextToken := slots.nextToken + 1 }) :
    RecentKept (history ++ [stageOf (recentStep ctype) slots call])
      (recentStep ctype slots call).2 := by
  obtain ⟨session, entries⟩ := kept.inContext call
  have input : (stageOf (recentStep ctype) slots call).input.session = call.session := rfl
  have issued : issue (stageOf (recentStep ctype) slots call) =
      some ⟨slots.nextToken, destination⟩ := by
    rw [issue, stageOf, output, if_pos rfl, named]
    rfl
  have next : (recentStep ctype slots call).2.nextToken = slots.nextToken + 1 :=
    congrArg RecentDestinations.nextToken after
  have larger : (slots.nextToken + 1).toNat = slots.nextToken.toNat + 1 :=
    EventSource.toNat_succ tokens
  have issues : (history ++ [stageOf (recentStep ctype) slots call]).filterMap issue =
      history.filterMap issue ++ [⟨slots.nextToken, destination⟩] := by
    rw [List.filterMap_append, List.filterMap_cons, issued]
    rfl
  have before : (slots.toRecent.inContext call.session).entries =
      (mostRecent RecentDestination.destination
        (if call.session = currentSession history then acceptedSince history else [])).take
          RecentDestinations.capacity := by
    rw [entries, known, if_neg (by simp)]
    split
    · exact kept.listed
    · rfl
  refine ⟨?_, ?_, ?_, ?_, ?_⟩
  · rw [currentSession_append, input, ← session]
    exact congrArg RecentDestinations.session after
  · have listed : (recentStep ctype slots call).2.listed = _ :=
      congrArg RecentDestinations.entries after
    have distinct : (slots.toRecent.inContext call.session).entries.Pairwise
        fun newer older => newer.destination ≠ older.destination := by
      rw [before]
      exact (mostRecent_distinct _).sublist (List.take_sublist ..)
    have room : (slots.toRecent.inContext call.session).entries.length ≤
        RecentDestinations.capacity := by
      rw [before]
      exact List.length_take_le ..
    rw [listed, acceptedSince_append, issued, input, RecentDestinations.promote_eq distinct room,
      before, moveToFront_mostRecent (by decide), known]
    rfl
  · rw [next]
    intro zero
    rw [zero] at larger
    cases larger
  · rw [issues, next]
    intro entry member
    rw [UInt64.lt_iff_toNat_lt, larger]
    rcases List.mem_append.mp member with older | newest
    · obtain ⟨nonzero, small⟩ := kept.below entry older
      exact ⟨nonzero, Nat.lt_succ_of_lt (UInt64.lt_iff_toNat_lt.mp small)⟩
    · rw [List.mem_singleton.mp newest]
      exact ⟨kept.tokens, Nat.lt_succ_self _⟩
  · rw [issues, List.pairwise_append]
    refine ⟨kept.increasing, List.pairwise_singleton .., ?_⟩
    intro older member newer newest
    rw [List.mem_singleton.mp newest]
    exact (kept.below older member).2

theorem RecentKept.next (ctype : WideCtype width) {history : List (RecentStage width)}
    {slots : RecentSlots width} (kept : RecentKept history slots) (call : RecentCall width) :
    RecentKept (history ++ [stageOf (recentStep ctype) slots call])
      (recentStep ctype slots call).2 := by
  rcases recentStep_cases ctype slots call with
    ⟨output, after⟩ | ⟨id, destination, known, named, output, tokens, after⟩
  · exact kept.refused ctype call output after
  · exact kept.accepted ctype call known named output tokens after

/-- The recent destinations against what the calls of a run ask for. -/
structure RecentOfSession (ctype : WideCtype width) (history : List (RecentStage width))
    (slots : RecentSlots width) : Prop where
  /-- The ten last accepted destinations since the reset, newest first, each once. -/
  destinations : slots.listed.map RecentDestination.destination =
    ((acceptedSince history).map RecentDestination.destination).eraseDups.take
      RecentDestinations.capacity
  accepts : ∀ stage ∈ history,
    stage.output = true ↔ stage.input.Accepts ctype ∧ stage.before.nextToken ≠ uint64Max
  refused : ∀ stage ∈ history, ∀ observed destination accepted memory moved,
    stage.input = .remember observed destination accepted memory moved → stage.output = false →
      stage.after = stage.before.synchronize observed
  /-- An entry carries the token of an acceptance of its destination since the reset. -/
  issued : ∀ entry ∈ slots.listed, ∃ stage ∈ sinceReset history, issue stage = some entry
  nonzero : ∀ entry ∈ slots.listed, entry.token ≠ 0
  decreasing : slots.listed.Pairwise fun newer older => older.token < newer.token
  /-- No two acceptances of the run have the same token. -/
  unused : (history.filterMap issue).Pairwise fun older newer => older.token < newer.token
  found : ∀ token observed entry, slots.find token observed = some entry →
    entry.token = token ∧ ∃ stage ∈ history, issue stage = some entry ∧
      stage.input.session = some observed.session

theorem sinceReset_member {history : List (RecentStage width)} {stage : RecentStage width}
    (member : stage ∈ sinceReset history) :
    stage ∈ history ∧ stage.input.session = currentSession history := by
  rw [sinceReset] at member
  cases known : currentSession history with
  | none =>
      rw [known] at member
      cases member
  | some session =>
      rw [known] at member
      have inside := List.mem_takeWhile_imp member
      exact ⟨List.mem_reverse.mp ((List.takeWhile_prefix _).subset member), of_decide_eq_true inside⟩

theorem sinceReset_sublist (history : List (RecentStage width)) :
    (sinceReset history).Sublist history.reverse := by
  rw [sinceReset]
  split
  · exact List.nil_sublist _
  · exact List.takeWhile_sublist _

theorem RecentKept.entry {history : List (RecentStage width)} {slots : RecentSlots width}
    (kept : RecentKept history slots) {entry : RecentDestination width}
    (member : entry ∈ slots.listed) : ∃ stage ∈ sinceReset history, issue stage = some entry := by
  rw [kept.listed] at member
  exact List.mem_filterMap.mp ((mostRecent_sublist _).subset (List.mem_of_mem_take member))

theorem RecentKept.decreasing {history : List (RecentStage width)} {slots : RecentSlots width}
    (kept : RecentKept history slots) :
    slots.listed.Pairwise fun newer older => older.token < newer.token := by
  have reversed : (history.reverse.filterMap issue).Pairwise
      fun newer older => older.token < newer.token := by
    rw [List.filterMap_reverse, List.pairwise_reverse]
    exact kept.increasing
  rw [kept.listed]
  exact reversed.sublist ((List.take_sublist ..).trans ((mostRecent_sublist _).trans
    ((sinceReset_sublist history).filterMap issue)))

theorem RecentKept.found {history : List (RecentStage width)} {slots : RecentSlots width}
    (kept : RecentKept history slots) {token : UInt64} {observed : SipRuntimeObservation}
    {entry : RecentDestination width} (found : slots.find token observed = some entry) :
    entry.token = token ∧ ∃ stage ∈ history, issue stage = some entry ∧
      stage.input.session = some observed.session := by
  rw [RecentSlots.find] at found
  split at found
  · cases found
  next context =>
  simp only [Bool.or_eq_true, Bool.not_eq_true', decide_eq_true_eq, not_or, Bool.not_eq_false,
    not_not] at context
  obtain ⟨stage, since, issued⟩ := kept.entry (List.mem_of_find?_eq_some found)
  obtain ⟨member, session⟩ := sinceReset_member since
  have carries : decide (entry.token = token) = true :=
    @List.find?_some _ (fun other : RecentDestination width => decide (other.token = token)) _ _ found
  refine ⟨of_decide_eq_true carries, stage, member, issued, ?_⟩
  rw [session, context.2, kept.session]
  cases known : currentSession history with
  | none =>
      rw [sinceReset, known] at since
      cases since
  | some id => rfl

/--
After every run of calls the list is the reference list, the tokens are unique over
the run, and an entry is found only for the session that stored it.
-/
theorem recent_destinations_of_session (ctype : WideCtype width) (calls : List (RecentCall width)) :
    RecentOfSession ctype (stages (recentStep ctype) {} calls)
      (finalState (recentStep ctype) {} calls) := by
  have kept : RecentKept (stages (recentStep ctype) {} calls)
      (finalState (recentStep ctype) {} calls) :=
    history_invariant RecentKept (fun _ => True)
      (fun _ _ call known _ => known.next ctype call) [] kept_initial fun _ _ => trivial
  refine ⟨?_, ?_, ?_, fun _ => kept.entry, ?_, kept.decreasing, kept.increasing, fun _ _ _ => kept.found⟩
  · rw [kept.listed, List.map_take, map_mostRecent]
  · exact stages_forall_of_step (fun stage : RecentStage width =>
        stage.output = true ↔ stage.input.Accepts ctype ∧ stage.before.nextToken ≠ uint64Max)
      (recentStep_output ctype) {} calls
  · refine stages_forall_of_step (fun stage : RecentStage width =>
        ∀ observed destination accepted memory moved,
          stage.input = .remember observed destination accepted memory moved →
          stage.output = false → stage.after = stage.before.synchronize observed) ?_ {} calls
    intro slots call observed destination accepted memory moved asked refused
    have same : call = .remember observed destination accepted memory moved := asked
    subst same
    exact RecentSlots.remember_false refused
  · intro entry member
    obtain ⟨stage, since, issued⟩ := kept.entry member
    exact (kept.below entry (List.mem_filterMap.mpr
      ⟨stage, (sinceReset_member since).1, issued⟩)).1

end AxeVoice.Sip
