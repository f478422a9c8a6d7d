import Mathlib.Data.List.Induction

/-!
# Deterministic reactive systems

A reactive system is a total step function from a state and an input to an
output and the next state.  A finite run is read off as its list of stages, one
for each input.  The rules below carry a step lemma to a whole run: an invariant
of every state, a property of every stage, a relation between every stage and
every later one, and the lockstep of two systems.
-/

namespace AxeVoice.Foundation

universe u v w

/-- What one input did to the system. -/
structure Stage (σ : Type u) (ι : Type v) (ω : Type w) where
  before : σ
  input : ι
  output : ω
  after : σ

variable {σ : Type u} {ι : Type v} {ω : Type w} (step : σ → ι → ω × σ)

def stageOf (state : σ) (input : ι) : Stage σ ι ω :=
  ⟨state, input, (step state input).1, (step state input).2⟩

/-- The stages of the run of `inputs` from `state`, oldest first. -/
def stages : σ → List ι → List (Stage σ ι ω)
  | _, [] => []
  | state, input :: rest => stageOf step state input :: stages (step state input).2 rest

/-- The state in which the run of `inputs` from `state` ends. -/
def finalState : σ → List ι → σ
  | state, [] => state
  | state, input :: rest => finalState (step state input).2 rest

@[simp] theorem stages_nil (state : σ) : stages step state [] = [] := rfl

@[simp] theorem finalState_nil (state : σ) : finalState step state [] = state := rfl

@[simp] theorem stages_cons (state : σ) (input : ι) (rest : List ι) :
    stages step state (input :: rest) =
      stageOf step state input :: stages step (step state input).2 rest := rfl

@[simp] theorem finalState_cons (state : σ) (input : ι) (rest : List ι) :
    finalState step state (input :: rest) = finalState step (step state input).2 rest := rfl

theorem finalState_append (state : σ) (first second : List ι) :
    finalState step state (first ++ second) =
      finalState step (finalState step state first) second := by
  induction first generalizing state with
  | nil => rfl
  | cons input rest ih => exact ih _

theorem stages_append (state : σ) (first second : List ι) :
    stages step state (first ++ second) =
      stages step state first ++ stages step (finalState step state first) second := by
  induction first generalizing state with
  | nil => rfl
  | cons input rest ih => simp only [List.cons_append, stages_cons, finalState_cons, ih]

/-- The outputs of the run of `inputs` from `state`, oldest first. -/
def outputs (state : σ) (inputs : List ι) : List ω :=
  (stages step state inputs).map Stage.output

variable {step}

theorem stages_inputs (state : σ) (inputs : List ι) :
    (stages step state inputs).map Stage.input = inputs := by
  induction inputs generalizing state with
  | nil => rfl
  | cons input rest ih =>
      rw [stages_cons, List.map_cons, ih]
      rfl

theorem input_mem_of_mem_stages {state : σ} {inputs : List ι} {stage : Stage σ ι ω}
    (member : stage ∈ stages step state inputs) : stage.input ∈ inputs := by
  induction inputs generalizing state with
  | nil => cases member
  | cons input rest ih =>
      rcases List.mem_cons.mp member with same | later
      · rw [same]
        exact List.mem_cons_self
      · exact List.mem_cons_of_mem _ (ih later)

/-- Where a run of stages is split, the run of inputs is split, and each part is a run. -/
theorem stages_split {state : σ} {inputs : List ι} {before after : List (Stage σ ι ω)}
    {stage : Stage σ ι ω} (split : stages step state inputs = before ++ stage :: after) :
    ∃ first input rest, inputs = first ++ input :: rest ∧ before = stages step state first ∧
      stage = stageOf step (finalState step state first) input ∧
      after = stages step stage.after rest := by
  induction before generalizing state inputs with
  | nil =>
      cases inputs with
      | nil => cases split
      | cons input rest =>
          obtain ⟨rfl, rfl⟩ := List.cons_eq_cons.mp split
          exact ⟨[], input, rest, rfl, rfl, rfl, rfl⟩
  | cons head tail ih =>
      cases inputs with
      | nil => cases split
      | cons input rest =>
          obtain ⟨same, later⟩ := List.cons_eq_cons.mp split
          obtain ⟨first, input', rest', rfl, rfl, rfl, rfl⟩ := ih later
          exact ⟨input :: first, input', rest', rfl, by rw [← same, stages_cons], rfl, rfl⟩

/-- Behind a stage the run goes on from its state, to the same end. -/
theorem stages_split_final {state : σ} {inputs : List ι} {before after : List (Stage σ ι ω)}
    {stage : Stage σ ι ω} (split : stages step state inputs = before ++ stage :: after) :
    ∃ first input rest, before = stages step state first ∧
      stage = stageOf step (finalState step state first) input ∧
      after = stages step stage.after rest ∧
      finalState step state inputs = finalState step stage.after rest := by
  obtain ⟨first, input, rest, rfl, rfl, rfl, rfl⟩ := stages_split split
  exact ⟨first, input, rest, rfl, rfl, rfl, finalState_append step state first (input :: rest)⟩

/-- A stage of an extended history is its last one, or a stage of the history before. -/
theorem split_concat {α : Type u} {history before after : List α} {last stage : α}
    (split : history ++ [last] = before ++ stage :: after) :
    (before = history ∧ stage = last) ∨ ∃ rest, history = before ++ stage :: rest := by
  rcases List.eq_nil_or_concat after with rfl | ⟨rest, final, rfl⟩
  · obtain ⟨same, eq⟩ := List.append_inj' split rfl
    exact .inl ⟨same.symm, (List.singleton_inj.mp eq).symm⟩
  · rw [List.concat_eq_append, ← List.cons_append, ← List.append_assoc] at split
    exact .inr ⟨rest, (List.append_inj' split rfl).1⟩

/-- Of two stages of a history one comes before the other, or they are the same. -/
theorem splits_compare {α : Type u} {first second later rest : List α} {one other : α}
    (same : first ++ one :: later = second ++ other :: rest) :
    (∃ between, second = first ++ one :: between) ∨ one = other ∨
      ∃ between, first = second ++ other :: between ∧ rest = between ++ one :: later := by
  rcases List.append_eq_append_iff.mp same with ⟨between, split, behind⟩ | ⟨between, split, behind⟩
  · cases between with
    | nil => exact .inr (.inl (List.cons_eq_cons.mp behind).1)
    | cons head tail =>
        obtain ⟨rfl, -⟩ := List.cons_eq_cons.mp behind
        exact .inl ⟨tail, split⟩
  · cases between with
    | nil => exact .inr (.inl (List.cons_eq_cons.mp behind).1.symm)
    | cons head tail =>
        obtain ⟨rfl, remains⟩ := List.cons_eq_cons.mp behind
        exact .inr (.inr ⟨tail, split, remains⟩)

/-- What holds along a history and of its last stage holds along the extended one. -/
theorem forall_mem_concat {α : Type u} {history : List α} {last : α} {Holds : α → Prop}
    (before : ∀ stage ∈ history, Holds stage) (now : Holds last) :
    ∀ stage ∈ history ++ [last], Holds stage :=
  List.forall_mem_append.mpr ⟨before, List.forall_mem_singleton.mpr now⟩

/-- A mark in the history that nothing behind it clears. -/
def Outstanding {α : Type u} (Marks Clears : α → Prop) (history : List α) : Prop :=
  ∃ before mark after, history = before ++ mark :: after ∧ Marks mark ∧
    ∀ later ∈ after, ¬ Clears later

/-- A mark is outstanding from the stage that makes it to the first that clears it. -/
theorem outstanding_concat {α : Type u} {Marks Clears : α → Prop} {history : List α} {last : α} :
    Outstanding Marks Clears (history ++ [last]) ↔
      Marks last ∨ Outstanding Marks Clears history ∧ ¬ Clears last := by
  constructor
  · rintro ⟨before, mark, after, split, marks, kept⟩
    rcases List.eq_nil_or_concat after with rfl | ⟨rest, final, rfl⟩
    · obtain ⟨-, same⟩ := List.append_inj' split rfl
      rw [List.singleton_inj.mp same]
      exact .inl marks
    · rw [List.concat_eq_append] at split kept
      rw [← List.cons_append, ← List.append_assoc] at split
      obtain ⟨same, final⟩ := List.append_inj' split rfl
      rw [List.singleton_inj.mp final]
      refine .inr ⟨⟨before, mark, rest, same, marks, fun later member => ?_⟩, ?_⟩
      · exact kept later (List.mem_append_left _ member)
      · exact kept _ (List.mem_append_right _ List.mem_cons_self)
  · rintro (marks | ⟨⟨before, mark, after, rfl, marks, kept⟩, open_⟩)
    · exact ⟨history, last, [], rfl, marks, fun _ member => absurd member List.not_mem_nil⟩
    · refine ⟨before, mark, after ++ [last], by simp, marks, ?_⟩
      exact forall_mem_concat kept open_

theorem not_outstanding_nil {α : Type u} {Marks Clears : α → Prop} :
    ¬ Outstanding Marks Clears [] := by
  rintro ⟨before, mark, after, split, -⟩
  cases before <;> cases split

/-- A mark is not outstanding behind a stage that clears it and before the next mark. -/
theorem not_outstanding_of_cleared {α : Type u} {Marks Clears : α → Prop} (before : List α)
    {after : List α} {clearing : α} (clears : Clears clearing) (other : ¬ Marks clearing)
    (unmarked : ∀ later ∈ after, ¬ Marks later) :
    ¬ Outstanding Marks Clears (before ++ clearing :: after) := by
  induction after using List.reverseRecOn with
  | nil =>
      rw [outstanding_concat]
      rintro (marks | ⟨-, kept⟩)
      · exact other marks
      · exact kept clears
  | append_singleton rest last ih =>
      rw [← List.cons_append, ← List.append_assoc, outstanding_concat]
      rintro (marks | ⟨outstanding, -⟩)
      · exact unmarked last (List.mem_append_right _ List.mem_cons_self) marks
      · exact ih (fun later member => unmarked later (List.mem_append_left _ member)) outstanding

/--
The history rule: what holds of the empty history, and of every history extended
by an admitted stage, holds of an admitted run.
-/
theorem history_invariant (Inv : List (Stage σ ι ω) → σ → Prop) (Admitted : Stage σ ι ω → Prop)
    (preserved : ∀ history state input, Inv history state → Admitted (stageOf step state input) →
      Inv (history ++ [stageOf step state input]) (step state input).2)
    (history : List (Stage σ ι ω)) {state : σ} (initial : Inv history state) {inputs : List ι}
    (admitted : ∀ stage ∈ stages step state inputs, Admitted stage) :
    Inv (history ++ stages step state inputs) (finalState step state inputs) := by
  induction inputs generalizing history state with
  | nil => simpa using initial
  | cons input rest ih =>
      have first := preserved history state input initial (admitted _ List.mem_cons_self)
      have later := ih _ first fun stage member => admitted stage (List.mem_cons_of_mem _ member)
      simpa [List.append_assoc] using later

/-- What every admitted step preserves holds where an admitted run ends. -/
theorem finalState_invariant_of_admitted (Inv : σ → Prop) (Admitted : Stage σ ι ω → Prop)
    (preserved : ∀ state input, Inv state → Admitted (stageOf step state input) →
      Inv (step state input).2)
    {state : σ} (initial : Inv state) {inputs : List ι}
    (admitted : ∀ stage ∈ stages step state inputs, Admitted stage) :
    Inv (finalState step state inputs) :=
  history_invariant (fun _ current => Inv current) Admitted
    (fun _ current input known allowed => preserved current input known allowed) [] initial admitted

/-- What every step preserves holds where the run ends. -/
theorem finalState_invariant {Inv : σ → Prop}
    (preserved : ∀ state input, Inv state → Inv (step state input).2)
    {state : σ} (initial : Inv state) (inputs : List ι) :
    Inv (finalState step state inputs) :=
  finalState_invariant_of_admitted Inv (fun _ => True)
    (fun current input known _ => preserved current input known) initial fun _ _ => trivial

/-- What holds of every admitted step from an invariant state holds of every stage. -/
theorem stages_forall_of_admitted (Inv : σ → Prop) (Admitted Holds : Stage σ ι ω → Prop)
    (preserved : ∀ state input, Inv state → Admitted (stageOf step state input) →
      Inv (step state input).2)
    (each : ∀ state input, Inv state → Admitted (stageOf step state input) →
      Holds (stageOf step state input))
    {state : σ} (initial : Inv state) {inputs : List ι}
    (admitted : ∀ stage ∈ stages step state inputs, Admitted stage) :
    ∀ stage ∈ stages step state inputs, Holds stage := by
  have collected : Inv (finalState step state inputs) ∧
      ∀ stage ∈ [] ++ stages step state inputs, Holds stage := by
    refine history_invariant (fun history current =>
      Inv current ∧ ∀ stage ∈ history, Holds stage) Admitted ?_ [] ⟨initial, by simp⟩ admitted
    rintro history current input ⟨known, sofar⟩ allowed
    refine ⟨preserved current input known allowed, ?_⟩
    exact forall_mem_concat sofar (each current input known allowed)
  simpa using collected.2

/-- What holds of every step taken from an invariant state holds of every stage. -/
theorem stages_forall {Inv : σ → Prop} {Holds : Stage σ ι ω → Prop}
    (preserved : ∀ state input, Inv state → Inv (step state input).2)
    (each : ∀ state input, Inv state → Holds (stageOf step state input))
    {state : σ} (initial : Inv state) (inputs : List ι) :
    ∀ stage ∈ stages step state inputs, Holds stage :=
  stages_forall_of_admitted Inv (fun _ => True) Holds
    (fun current input known _ => preserved current input known)
    (fun current input known _ => each current input known) initial fun _ _ => trivial

/-- What holds of every step holds of every stage. -/
theorem stages_forall_of_step (Holds : Stage σ ι ω → Prop)
    (each : ∀ state input, Holds (stageOf step state input)) (state : σ) (inputs : List ι) :
    ∀ stage ∈ stages step state inputs, Holds stage :=
  stages_forall_of_admitted (fun _ => True) (fun _ => True) Holds (fun _ _ _ _ => trivial)
    (fun current input _ _ => each current input) trivial fun _ _ => trivial

/--
A relation between every stage and every later one.  `Remembers` is what the
state keeps of an earlier stage: the step that makes the stage establishes it,
every further step preserves it, and it decides the relation at each later step.
-/
theorem stages_pairwise (Inv : σ → Prop) (Remembers : Stage σ ι ω → σ → Prop)
    (Related : Stage σ ι ω → Stage σ ι ω → Prop)
    (preserved : ∀ state input, Inv state → Inv (step state input).2)
    (established : ∀ state input, Inv state →
      Remembers (stageOf step state input) (step state input).2)
    (kept : ∀ earlier state input, Inv state → Remembers earlier state →
      Remembers earlier (step state input).2)
    (decides : ∀ earlier state input, Inv state → Remembers earlier state →
      Related earlier (stageOf step state input))
    {state : σ} (initial : Inv state) (inputs : List ι) :
    (stages step state inputs).Pairwise Related := by
  induction inputs generalizing state with
  | nil => exact List.Pairwise.nil
  | cons input rest ih =>
      have next := preserved state input initial
      refine List.Pairwise.cons ?_ (ih next)
      have both : ∀ current input', Inv current ∧ Remembers (stageOf step state input) current →
          Inv (step current input').2 ∧
            Remembers (stageOf step state input) (step current input').2 :=
        fun current input' known =>
          ⟨preserved current input' known.1, kept _ current input' known.1 known.2⟩
      exact stages_forall both
        (fun current input' known => decides _ current input' known.1 known.2)
        ⟨next, established state input initial⟩ rest

/-- Two systems that answer every admitted input alike, and stay related, answer whole runs alike. -/
theorem outputs_eq_of_lockstep {τ : Type u} {other : τ → ι → ω × τ} {Related : σ → τ → Prop}
    {Admitted : ι → Prop}
    (lockstep : ∀ state twin input, Related state twin → Admitted input →
      (step state input).1 = (other twin input).1 ∧
        Related (step state input).2 (other twin input).2)
    {state : σ} {twin : τ} (related : Related state twin) {inputs : List ι}
    (admitted : ∀ input ∈ inputs, Admitted input) :
    outputs step state inputs = outputs other twin inputs ∧
      Related (finalState step state inputs) (finalState other twin inputs) := by
  induction inputs generalizing state twin with
  | nil => exact ⟨rfl, related⟩
  | cons input rest ih =>
      obtain ⟨same, next⟩ := lockstep state twin input related (admitted input List.mem_cons_self)
      obtain ⟨later, final⟩ := ih next fun later member => admitted later (List.mem_cons_of_mem _ member)
      refine ⟨?_, final⟩
      exact List.cons_eq_cons.mpr ⟨same, later⟩

/-- A stage with its states, its input and its output renamed. -/
def Stage.rename (states : σ → σ) (inputs : ι → ι) (outputs : ω → ω) (stage : Stage σ ι ω) :
    Stage σ ι ω :=
  ⟨states stage.before, inputs stage.input, outputs stage.output, states stage.after⟩

/-- The steps respect a renaming of states, inputs and outputs. -/
def Equivariant (step : σ → ι → ω × σ) (states : σ → σ) (inputs : ι → ι) (outputs : ω → ω) : Prop :=
  ∀ state input, step (states state) (inputs input) =
    (outputs (step state input).1, states (step state input).2)

/-- The run of renamed inputs is the renamed run. -/
theorem Equivariant.stages {states : σ → σ} {renamed : ι → ι} {answers : ω → ω}
    (equivariant : Equivariant step states renamed answers) (state : σ) (inputs : List ι) :
    stages step (states state) (inputs.map renamed) =
      (stages step state inputs).map (Stage.rename states renamed answers) := by
  induction inputs generalizing state with
  | nil => rfl
  | cons input rest ih =>
      have first := equivariant state input
      have later := ih (step state input).2
      simp only [List.map_cons, stages_cons, stageOf, Stage.rename, first, later]

end AxeVoice.Foundation
