import AxeVoice.Foundation.Reactive
import Mathlib.Order.WithBot

/-!
# High-water marks

A reactive system that issues values and keeps a mark above all of them.  The
mark never falls, an issued value lies above the mark before the step, and the
mark after the step has reached it: so the issued values of a run increase, and
none of them ever lies at or below a mark that was seen earlier.
-/

namespace AxeVoice.Foundation

universe u v w x

variable {σ : Type u} {ι : Type v} {ω : Type w} {α : Type x} [Preorder α]

/-- What one step does to the mark and with the value it issues, from the states of an invariant. -/
structure HighWater (step : σ → ι → ω × σ) (Inv : σ → Prop) (mark : σ → α)
    (issued : Stage σ ι ω → Option α) : Prop where
  preserved : ∀ state input, Inv state → Inv (step state input).2
  rises : ∀ state input, Inv state → mark state ≤ mark (step state input).2
  above : ∀ state input, Inv state → ∀ value ∈ issued (stageOf step state input),
    mark state < value
  reached : ∀ state input, Inv state → ∀ value ∈ issued (stageOf step state input),
    value ≤ mark (step state input).2

namespace HighWater

variable {step : σ → ι → ω × σ} {Inv : σ → Prop} {mark : σ → α}
  {issued : Stage σ ι ω → Option α}

/-- A value issued later lies above the mark an earlier stage has left. -/
theorem issued_above_earlier (water : HighWater step Inv mark issued) (state : σ)
    (initial : Inv state) (inputs : List ι) :
    (stages step state inputs).Pairwise fun earlier later =>
      ∀ value ∈ issued later, mark earlier.after < value := by
  refine stages_pairwise Inv (fun earlier current => mark earlier.after ≤ mark current) _
    water.preserved (fun _ _ _ => le_refl _) ?_ ?_ initial inputs
  · intro earlier current input known below
    exact le_trans below (water.rises current input known)
  · intro earlier current input known below value issue
    exact lt_of_le_of_lt below (water.above current input known value issue)

/-- The values a run issues increase. -/
theorem issued_increasing (water : HighWater step Inv mark issued) (state : σ)
    (initial : Inv state) (inputs : List ι) :
    (stages step state inputs).Pairwise fun earlier later =>
      ∀ first ∈ issued earlier, ∀ second ∈ issued later, first < second := by
  refine stages_pairwise Inv
    (fun earlier current => ∀ first ∈ issued earlier, first ≤ mark current) _
    water.preserved (fun current input known => water.reached current input known) ?_ ?_
    initial inputs
  · intro earlier current input known below first issue
    exact le_trans (below first issue) (water.rises current input known)
  · intro earlier current input known below first issue second later
    exact lt_of_le_of_lt (below first issue) (water.above current input known second later)

end HighWater

/-- Of items whose keys never fall, only the last can be the one that comes next. -/
theorem mem_iff_getLast?_of_rising {ι : Type v} {κ : Type x} [PartialOrder κ] {key : ι → κ}
    (injective : Function.Injective key) {items : List ι} {next : ι}
    (rising : items.Pairwise fun earlier later => key earlier ≤ key later)
    (below : ∀ item ∈ items, key item ≤ key next) :
    next ∈ items ↔ items.getLast? = some next := by
  constructor
  · intro member
    rcases List.eq_nil_or_concat items with rfl | ⟨front, last, rfl⟩
    · exact absurd member List.not_mem_nil
    rw [List.concat_eq_append] at *
    rw [List.getLast?_concat]
    rcases List.mem_append.mp member with earlier | same
    · have upper := below last (List.mem_append_right _ List.mem_cons_self)
      have lower := (List.pairwise_append.mp rising).2.2 next earlier last List.mem_cons_self
      rw [injective (le_antisymm upper lower)]
    · rw [List.mem_singleton.mp same]
  · exact List.mem_of_getLast?

end AxeVoice.Foundation
