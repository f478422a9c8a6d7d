import Mathlib.Logic.Basic

/-!
# A gate that remembers one rejection

A gate trusts at most one generation at a time and remembers only the last one
it turned away; zero stands for none.  Generations are presented to it by an
environment that can name the spent ones, those that it will never present in a
usable form again.  As long as whatever the gate knows is either the presented
generation or spent, one remembered rejection is enough: a closed generation is
never trusted again.
-/

namespace AxeVoice.Foundation

universe u

structure Gate (γ : Type u) where
  trusted : γ
  rejected : γ

namespace Gate

variable {γ : Type u} [OfNat γ 0]

/-- What one call may do with a presented generation, `usable` or not. -/
inductive Call (presented : γ) (usable : Prop) (gate : Gate γ) : Gate γ → Prop where
  | idle (untrusted : gate.trusted = 0) : Call presented usable gate ⟨0, gate.rejected⟩
  | stopped (trusted : gate.trusted ≠ 0) : Call presented usable gate ⟨0, gate.trusted⟩
  | remembered (same : presented = gate.rejected) (nonzero : presented ≠ 0) :
      Call presented usable gate ⟨0, gate.rejected⟩
  | turnedAway (nonzero : presented ≠ 0) : Call presented usable gate ⟨0, presented⟩
  | accepted (nonzero : presented ≠ 0) (fresh : presented ≠ gate.rejected) (good : usable) :
      Call presented usable gate ⟨presented, gate.rejected⟩

/-- A known generation is the presented one, or spent. -/
def Known (presented : γ) (Spent : γ → Prop) (generation : γ) : Prop :=
  generation ≠ 0 → generation = presented ∨ Spent generation

structure Sound (presented : γ) (Spent : γ → Prop) (gate : Gate γ) : Prop where
  trusted : Known presented Spent gate.trusted
  rejected : Known presented Spent gate.rejected
  apart : gate.trusted ≠ 0 → gate.rejected ≠ 0 → Spent gate.rejected

/-- The gate will not trust this generation again. -/
def Closed (Spent : γ → Prop) (gate : Gate γ) (generation : γ) : Prop :=
  gate.rejected = generation ∨ Spent generation

variable {presented : γ} {usable : Prop} {Spent : γ → Prop} {gate next : Gate γ} {generation : γ}

theorem sound_fresh : Sound presented Spent (⟨0, 0⟩ : Gate γ) :=
  ⟨fun nonzero => absurd rfl nonzero, fun nonzero => absurd rfl nonzero,
    fun nonzero => absurd rfl nonzero⟩

theorem Call.sound (call : Call presented usable gate next) (sound : Sound presented Spent gate) :
    Sound presented Spent next := by
  obtain ⟨trusted, rejected, apart⟩ := sound
  cases call with
  | idle untrusted =>
      exact ⟨fun nonzero => absurd rfl nonzero, rejected, fun nonzero => absurd rfl nonzero⟩
  | stopped known =>
      exact ⟨fun nonzero => absurd rfl nonzero, trusted, fun nonzero => absurd rfl nonzero⟩
  | remembered same nonzero =>
      exact ⟨fun nonzero => absurd rfl nonzero, rejected, fun nonzero => absurd rfl nonzero⟩
  | turnedAway nonzero =>
      exact ⟨fun nonzero => absurd rfl nonzero, fun _ => .inl rfl, fun nonzero => absurd rfl nonzero⟩
  | accepted nonzero fresh good =>
      refine ⟨fun _ => .inl rfl, rejected, fun _ known => ?_⟩
      rcases rejected known with same | spent
      · exact absurd same.symm fresh
      · exact spent

/-- A closed generation stays closed. -/
theorem Call.closed (call : Call presented usable gate next) (sound : Sound presented Spent gate)
    (nonzero : generation ≠ 0) (closed : Closed Spent gate generation) :
    Closed Spent next generation := by
  rcases closed with remembered | spent
  · have known := remembered ▸ sound.rejected (remembered ▸ nonzero)
    cases call with
    | idle untrusted => exact .inl remembered
    | stopped trusted => exact .inr (remembered ▸ sound.apart trusted (remembered ▸ nonzero))
    | remembered same _ => exact .inl remembered
    | turnedAway _ => exact known.imp Eq.symm id
    | accepted _ fresh good => exact .inl remembered
  · exact .inr spent

/-- A closed generation is not trusted, when a spent one is never presented in a usable form. -/
theorem Call.not_trusted (call : Call presented usable gate next) (nonzero : generation ≠ 0)
    (unusable : Spent presented → ¬ usable) (closed : Closed Spent gate generation) :
    next.trusted ≠ generation := by
  cases call with
  | accepted _ fresh good =>
      rintro rfl
      rcases closed with remembered | spent
      · exact fresh remembered.symm
      · exact unusable spent good
  | _ => exact fun same => nonzero same.symm

/-- A trusted generation that a call drops is closed from then on. -/
theorem Call.closed_of_dropped (call : Call presented usable gate next)
    (sound : Sound presented Spent gate) (nonzero : generation ≠ 0)
    (trusted : gate.trusted = generation) (dropped : next.trusted ≠ generation) :
    Closed Spent next generation := by
  have known := trusted ▸ sound.trusted (trusted ▸ nonzero)
  cases call with
  | idle untrusted => exact absurd (trusted.symm.trans untrusted) nonzero
  | stopped _ => exact .inl trusted
  | remembered same _ =>
      rcases known with now | spent
      · exact .inl (same.symm.trans now.symm)
      · exact .inr spent
  | turnedAway _ => exact known.imp Eq.symm id
  | accepted _ fresh good =>
      rcases known with now | spent
      · exact absurd now.symm dropped
      · exact .inr spent

/-- What the gate knows stays known when the environment moves on. -/
theorem Sound.move {later : γ} {SpentLater : γ → Prop}
    (sound : Sound presented Spent gate)
    (spent : ∀ generation, Spent generation → SpentLater generation)
    (present : presented ≠ 0 → presented = later ∨ SpentLater presented) :
    Sound later SpentLater gate := by
  obtain ⟨trusted, rejected, apart⟩ := sound
  have carried : ∀ generation, Known presented Spent generation →
      Known later SpentLater generation := by
    intro generation known nonzero
    rcases known nonzero with rfl | gone
    · exact present nonzero
    · exact .inr (spent generation gone)
  exact ⟨carried _ trusted, carried _ rejected,
    fun first second => spent _ (apart first second)⟩

omit [OfNat γ 0] in
theorem Closed.move {SpentLater : γ → Prop} (closed : Closed Spent gate generation)
    (spent : Spent generation → SpentLater generation) : Closed SpentLater gate generation :=
  closed.imp id spent

end Gate

end AxeVoice.Foundation
