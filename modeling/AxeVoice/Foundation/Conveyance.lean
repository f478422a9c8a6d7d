import AxeVoice.Foundation.Component
import Mathlib.Data.List.Perm.Subperm

/-!
# What a reactive system conveys

A system that accepts items, keeps them in flight, and delivers or drops them one
after the other.  What it delivers over a run is what it has accepted, in that
order, and each item once at most.  Systems in series convey from the first to
the last one, and a component conveys within the whole.  A system that keeps its
items in a stock spends each of them once at most, in any order.
-/

namespace AxeVoice.Foundation

universe u v w u' v' w' x

variable {σ : Type u} {ι : Type v} {ω : Type w} {α : Type x}

theorem filterMap_cons_toList {α β : Type*} (select : α → Option β) (head : α) (rest : List α) :
    (head :: rest).filterMap select = (select head).toList ++ rest.filterMap select := by
  rw [List.filterMap_cons]
  cases select head <;> rfl

/-- A step delivers what was in flight first; what it accepts is in flight last. -/
def Conveys (step : σ → ι → ω × σ) (flight : σ → List α)
    (accepts delivers : Stage σ ι ω → Option α) : Prop :=
  ∀ state input, ((delivers (stageOf step state input)).toList ++ flight (step state input).2).Sublist
    (flight state ++ (accepts (stageOf step state input)).toList)

namespace Conveys

variable {step : σ → ι → ω × σ} {flight : σ → List α} {accepts delivers : Stage σ ι ω → Option α}

/-- Over a run, what is delivered, and what is still in flight, was in flight or accepted. -/
theorem run (conveys : Conveys step flight accepts delivers) (state : σ) (inputs : List ι) :
    ((stages step state inputs).filterMap delivers ++ flight (finalState step state inputs)).Sublist
      (flight state ++ (stages step state inputs).filterMap accepts) := by
  induction inputs generalizing state with
  | nil => simp
  | cons input rest ih =>
      have first := conveys state input
      have later := ih (step state input).2
      rw [stages_cons, filterMap_cons_toList, filterMap_cons_toList, finalState_cons,
        List.append_assoc, ← List.append_assoc (flight state)]
      refine (later.append_left _).trans ?_
      rw [← List.append_assoc]
      exact first.append_right _

/-- Where nothing was in flight, what is delivered was accepted, in that order. -/
theorem delivered (conveys : Conveys step flight accepts delivers) {state : σ}
    (empty : flight state = []) (inputs : List ι) :
    ((stages step state inputs).filterMap delivers).Sublist
      ((stages step state inputs).filterMap accepts) := by
  have whole := conveys.run state inputs
  rw [empty, List.nil_append] at whole
  exact (List.sublist_append_left _ _).trans whole

/-- What the first system delivers, the second one accepts in the same step. -/
theorem serial {flight' : σ → List α} {delivers' : Stage σ ι ω → Option α}
    (first : Conveys step flight accepts delivers) (second : Conveys step flight' delivers delivers') :
    Conveys step (fun state => flight' state ++ flight state) accepts delivers' := by
  intro state input
  have front := (second state input).append_right (flight (step state input).2)
  have back := (first state input).append_left (flight' state)
  rw [List.append_assoc, List.append_assoc] at front
  rw [List.append_assoc]
  exact front.trans back

/-- What a component conveys, the whole conveys. -/
theorem within {τ : Type u'} {κ : Type v'} {ρ : Type w'} {inner : τ → κ → ρ × τ}
    (component : Component step inner) {flight : τ → List α}
    {accepts delivers : Stage τ κ ρ → Option α} (conveys : Conveys inner flight accepts delivers) :
    Conveys step (fun state => flight (component.part state))
      (fun stage => (component.within stage).bind accepts)
      (fun stage => (component.within stage).bind delivers) := by
  intro state input
  dsimp only
  cases asked : component.asked state input with
  | none =>
      have none_ : component.within (stageOf step state input) = none := by
        rw [Component.within, stageOf, asked]
        rfl
      rw [none_, component.rests asked]
      simp
  | some request =>
      have some_ : component.within (stageOf step state input) =
          some (stageOf inner (component.part state) request) := by
        rw [Component.within, stageOf, asked]
        rfl
      rw [some_, component.moves asked]
      exact conveys (component.part state) request

end Conveys

/-- A step spends what was in stock; what it gains is in stock. -/
def Spends (step : σ → ι → ω × σ) (stock : σ → List α) (gains spends : Stage σ ι ω → Option α) :
    Prop :=
  ∀ state input, ((spends (stageOf step state input)).toList ++ stock (step state input).2).Subperm
    (stock state ++ (gains (stageOf step state input)).toList)

/-- Over a run, what is spent, and what is still in stock, was in stock or gained. -/
theorem Spends.run {step : σ → ι → ω × σ} {stock : σ → List α}
    {gains spends : Stage σ ι ω → Option α} (economy : Spends step stock gains spends) (state : σ)
    (inputs : List ι) :
    ((stages step state inputs).filterMap spends ++ stock (finalState step state inputs)).Subperm
      (stock state ++ (stages step state inputs).filterMap gains) := by
  induction inputs generalizing state with
  | nil => simp [List.Subperm.refl]
  | cons input rest ih =>
      have first := economy state input
      have later := ih (step state input).2
      rw [stages_cons, filterMap_cons_toList, filterMap_cons_toList, finalState_cons,
        List.append_assoc, ← List.append_assoc (stock state)]
      refine ((List.subperm_append_left _).mpr later).trans ?_
      rw [← List.append_assoc]
      exact (List.subperm_append_right _).mpr first

end AxeVoice.Foundation
