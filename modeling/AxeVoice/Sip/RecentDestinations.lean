import AxeVoice.Sip.Address
import AxeVoice.Sip.Observation

/-!
# Recent destinations

The destinations that were accepted last in the session, newest first.
-/

namespace AxeVoice.Sip

open Foundation

variable {width : WCharWidth}

structure RecentDestination (width : WCharWidth) where
  token : UInt64 := 0
  destination : WString width

structure RecentDestinations (width : WCharWidth) where
  entries : List (RecentDestination width) := []
  session : UInt64 := 0
  nextToken : UInt64 := 1

namespace RecentDestinations

def capacity : Nat := 10

def validContext (observed : SipRuntimeObservation) : Bool :=
  observed.process = .running && observed.evidence = .verifiedNativeApi && observed.session ≠ 0 &&
    (observed.sip = .registered || observed.sip = .calling || observed.sip = .ringing ||
      observed.sip = .inCall)

/-- The tokens go on behind a clearing. -/
def clear (recent : RecentDestinations width) : RecentDestinations width :=
  { recent with entries := [], session := 0 }

def synchronize (observed : SipRuntimeObservation) (recent : RecentDestinations width) :
    RecentDestinations width :=
  if !validContext observed then recent.clear
  else if recent.session ≠ observed.session then { recent.clear with session := observed.session }
  else recent

/-- The loop over the user's characters. -/
def userUnit (unit : WChar width) : Bool :=
  unit.within 'a' 'z' || unit.within 'A' 'Z' || unit.within '0' '9' || unit = wide width '_' ||
    unit = wide width '.' || unit = wide width '-' || unit = wide width '+' ||
    unit = wide width '*' || unit = wide width '#'

/-- The text without the scheme that it names. -/
def withoutScheme (destination : WString width) : WString width :=
  if destination.take 5 = wideText width "sips:" then destination.drop 5
  else if destination.take 4 = wideText width "sip:" then destination.drop 4
  else destination

/-- The checks on the text of a destination. -/
def supported (ctype : WideCtype width) (destination : WString width) : Bool :=
  if destination.any fun unit => unit.toNat ≤ 32 || unit.toNat ≥ 127 then false
  else if !(validateAddress ctype destination).valid then false
  else
    let user := withoutScheme destination
    (user.take ((user.find '@').getD user.length)).all userUnit

/-- The entry moves to the front, in the place of the one of its destination or of the oldest. -/
def promote (entries : List (RecentDestination width)) (next : RecentDestination width) :
    List (RecentDestination width) :=
  match entries.findIdx? fun entry => entry.destination = next.destination with
  | some position => next :: entries.eraseIdx position
  | none => next :: if entries.length < capacity then entries else entries.take (capacity - 1)

def remember (ctype : WideCtype width) (observed : SipRuntimeObservation)
    (destination : WString width) (accepted : Bool) (recent : RecentDestinations width) :
    Bool × RecentDestinations width :=
  let recent := recent.synchronize observed
  if !accepted || !validContext observed || observed.sip ≠ .registered || observed.callId ≠ 0 ||
      destination.isEmpty || destination.length > 128 || recent.nextToken = uint64Max then
    (false, recent)
  else if !supported ctype destination then (false, recent)
  else
    (true, { recent with
      entries := promote recent.entries ⟨recent.nextToken, destination⟩,
      nextToken := recent.nextToken + 1 })

@[simp] theorem synchronize_nextToken (observed : SipRuntimeObservation)
    (recent : RecentDestinations width) :
    (recent.synchronize observed).nextToken = recent.nextToken := by
  unfold synchronize
  split
  · rfl
  split <;> rfl

/-- A destination in a session that is verified, registered and without a call. -/
structure Idle (observed : SipRuntimeObservation) : Prop where
  running : observed.process = .running
  verified : observed.evidence = .verifiedNativeApi
  session : observed.session ≠ 0
  registered : observed.sip = .registered
  idle : observed.callId = 0

/-- In such a session an accepted request is remembered exactly if its text is supported. -/
theorem remember_iff {ctype : WideCtype width} {observed : SipRuntimeObservation}
    (context : Idle observed) {destination : WString width} {recent : RecentDestinations width}
    (tokens : recent.nextToken ≠ uint64Max) :
    (recent.remember ctype observed destination true).1 = true ↔
      destination ≠ [] ∧ destination.length ≤ 128 ∧ supported ctype destination = true := by
  have valid : validContext observed = true := by
    simp [validContext, context.running, context.verified, context.session, context.registered]
  have guards : (!true || !validContext observed || decide (observed.sip ≠ .registered) ||
      decide (observed.callId ≠ 0) || destination.isEmpty || decide (destination.length > 128) ||
      decide ((recent.synchronize observed).nextToken = uint64Max)) =
        (destination.isEmpty || decide (destination.length > 128)) := by
    simp [valid, context.registered, context.idle, tokens]
  unfold remember
  dsimp only
  rw [guards]
  constructor
  · intro remembered
    split at remembered
    · cases remembered
    next bounds =>
    split at remembered
    · cases remembered
    next known =>
    simp only [Bool.or_eq_true, List.isEmpty_iff, decide_eq_true_eq, not_or, Nat.not_lt] at bounds
    exact ⟨bounds.1, bounds.2, by simpa using known⟩
  · rintro ⟨filled, short, known⟩
    have bounds : ¬ (destination.isEmpty || decide (destination.length > 128)) = true := by
      simp only [Bool.or_eq_true, List.isEmpty_iff, decide_eq_true_eq, not_or, Nat.not_lt]
      exact ⟨filled, short⟩
    rw [if_neg bounds, known]
    rfl

end RecentDestinations

end AxeVoice.Sip
