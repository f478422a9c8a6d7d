import AxeVoice.Foundation.Reactive

/-!
# Components of reactive systems

A component is a part of a larger system that takes a step of its own, or rests,
in each step of the whole.  A run of the whole shows a run of the component: its
stages are those in which the component moved, in their order.
-/

namespace AxeVoice.Foundation

universe u v w u' v' w'

variable {σ : Type u} {ι : Type v} {ω : Type w} {τ : Type u'} {κ : Type v'} {ρ : Type w'}

/-- A part of the whole that takes the steps of `inner`, one in a step of `outer` at most. -/
structure Component (outer : σ → ι → ω × σ) (inner : τ → κ → ρ × τ) where
  part : σ → τ
  /-- What the component is asked for. -/
  asked : σ → ι → Option κ
  moves : ∀ {state input request}, asked state input = some request →
    part (outer state input).2 = (inner (part state) request).2
  rests : ∀ {state input}, asked state input = none → part (outer state input).2 = part state

namespace Component

variable {outer : σ → ι → ω × σ} {inner : τ → κ → ρ × τ} (component : Component outer inner)

/-- The stage of the component within a stage of the whole. -/
def within (stage : Stage σ ι ω) : Option (Stage τ κ ρ) :=
  (component.asked stage.before stage.input).map (stageOf inner (component.part stage.before))

/-- Where the run of the component is split, the run of the whole is split. -/
theorem split_within {history : List (Stage σ ι ω)} {before after : List (Stage τ κ ρ)}
    {part : Stage τ κ ρ}
    (split : history.filterMap component.within = before ++ part :: after) :
    ∃ first stage rest, history = first ++ stage :: rest ∧ component.within stage = some part ∧
      rest.filterMap component.within = after := by
  obtain ⟨first, last, rfl, -, behind⟩ := List.filterMap_eq_append_iff.mp split
  obtain ⟨quiet, stage, rest, rfl, -, same, later⟩ := List.filterMap_eq_cons_iff.mp behind
  exact ⟨first ++ quiet, stage, rest, (List.append_assoc _ _ _).symm, same, later⟩

end Component

end AxeVoice.Foundation
