import Mathlib.Data.List.Basic
import Mathlib.Data.List.Forall2

/-!
# Deterministic machines with output

A machine is a step function `σ → ι → ο × σ`.  This file gives the outputs and the final state of a
run over a list of inputs, the laws of concatenated runs, the induction rule for invariants under a
guard on the inputs, and the lockstep rule for two machines fed the same inputs.
-/

namespace TaRef
namespace Machine

variable {σ τ ι ο π : Type*}

/-- Outputs of a run, one for each input. -/
def outputs (step : σ → ι → ο × σ) : σ → List ι → List ο
  | _, [] => []
  | state, input :: inputs =>
      (step state input).1 :: outputs step (step state input).2 inputs

/-- State in which a run ends. -/
def final (step : σ → ι → ο × σ) : σ → List ι → σ
  | state, [] => state
  | state, input :: inputs => final step (step state input).2 inputs

@[simp]
theorem outputs_nil (step : σ → ι → ο × σ) (state : σ) : outputs step state [] = [] := rfl

@[simp]
theorem outputs_cons (step : σ → ι → ο × σ) (state : σ) (input : ι) (inputs : List ι) :
    outputs step state (input :: inputs) =
      (step state input).1 :: outputs step (step state input).2 inputs := rfl

@[simp]
theorem final_nil (step : σ → ι → ο × σ) (state : σ) : final step state [] = state := rfl

@[simp]
theorem final_cons (step : σ → ι → ο × σ) (state : σ) (input : ι) (inputs : List ι) :
    final step state (input :: inputs) = final step (step state input).2 inputs := rfl

theorem final_append (step : σ → ι → ο × σ) (state : σ) (left right : List ι) :
    final step state (left ++ right) = final step (final step state left) right := by
  induction left generalizing state with
  | nil => rfl
  | cons input left ih => exact ih (step state input).2

theorem outputs_append (step : σ → ι → ο × σ) (state : σ) (left right : List ι) :
    outputs step state (left ++ right) =
      outputs step state left ++ outputs step (final step state left) right := by
  induction left generalizing state with
  | nil => rfl
  | cons input left ih => simp [ih]

@[simp]
theorem length_outputs (step : σ → ι → ο × σ) (state : σ) (inputs : List ι) :
    (outputs step state inputs).length = inputs.length := by
  induction inputs generalizing state with
  | nil => rfl
  | cons input inputs ih => simp [ih]

theorem outputs_take (step : σ → ι → ο × σ) (state : σ) (inputs : List ι) (count : Nat) :
    (outputs step state inputs).take count = outputs step state (inputs.take count) := by
  induction inputs generalizing state count with
  | nil => simp
  | cons input inputs ih =>
      cases count with
      | zero => rfl
      | succ count => simp [ih]

theorem outputs_drop (step : σ → ι → ο × σ) (state : σ) (inputs : List ι) (count : Nat) :
    (outputs step state inputs).drop count =
      outputs step (final step state (inputs.take count)) (inputs.drop count) := by
  induction inputs generalizing state count with
  | nil => simp
  | cons input inputs ih =>
      cases count with
      | zero => rfl
      | succ count => simp [ih]

/-- Every step of a run satisfies `guard` in the state in which it is taken. -/
def Within (step : σ → ι → ο × σ) (guard : σ → ι → Prop) : σ → List ι → Prop
  | _, [] => True
  | state, input :: inputs =>
      guard state input ∧ Within step guard (step state input).2 inputs

/-- Every step of a run satisfies `law` about its state, its input and its output. -/
def Along (step : σ → ι → ο × σ) (law : σ → ι → ο → Prop) : σ → List ι → Prop
  | _, [] => True
  | state, input :: inputs =>
      law state input (step state input).1 ∧ Along step law (step state input).2 inputs

/-- In a run no step of the second kind follows a step of the first kind. -/
def NoneAfter (step : σ → ι → ο × σ) (first second : σ → ι → Prop) : σ → List ι → Prop
  | _, [] => True
  | state, input :: inputs =>
      (first state input →
        Within step (fun state input => ¬ second state input) (step state input).2 inputs) ∧
      NoneAfter step first second (step state input).2 inputs

instance decidableWithin (step : σ → ι → ο × σ) (guard : σ → ι → Prop)
    [∀ state input, Decidable (guard state input)] :
    ∀ state inputs, Decidable (Within step guard state inputs)
  | _, [] => inferInstanceAs (Decidable True)
  | state, input :: inputs =>
      have := decidableWithin step guard (step state input).2 inputs
      inferInstanceAs
        (Decidable (guard state input ∧ Within step guard (step state input).2 inputs))

instance decidableNoneAfter (step : σ → ι → ο × σ) (first second : σ → ι → Prop)
    [∀ state input, Decidable (first state input)]
    [∀ state input, Decidable (second state input)] :
    ∀ state inputs, Decidable (NoneAfter step first second state inputs)
  | _, [] => inferInstanceAs (Decidable True)
  | state, input :: inputs =>
      have := decidableNoneAfter step first second (step state input).2 inputs
      inferInstanceAs (Decidable ((first state input →
        Within step (fun state input => ¬ second state input) (step state input).2 inputs) ∧
          NoneAfter step first second (step state input).2 inputs))

/-- A run has steps of the given kinds in this order, possibly with others in between. -/
def Occur {κ : Type*} (step : σ → ι → ο × σ) (kindly : κ → σ → ι → Prop) :
    List κ → σ → List ι → Prop
  | kinds, _, [] => kinds.isEmpty = true
  | [], _, _ :: _ => True
  | kind :: kinds, state, input :: inputs =>
      kindly kind state input ∧ Occur step kindly kinds (step state input).2 inputs ∨
        Occur step kindly (kind :: kinds) (step state input).2 inputs

theorem occur_nil {κ : Type*} (step : σ → ι → ο × σ) (kindly : κ → σ → ι → Prop) (state : σ)
    (inputs : List ι) : Occur step kindly [] state inputs := by
  cases inputs with
  | nil => rfl
  | cons input inputs => trivial

instance decidableOccur {κ : Type*} (step : σ → ι → ο × σ) (kindly : κ → σ → ι → Prop)
    [∀ kind state input, Decidable (kindly kind state input)] :
    ∀ kinds state inputs, Decidable (Occur step kindly kinds state inputs)
  | kinds, _, [] => inferInstanceAs (Decidable (kinds.isEmpty = true))
  | [], _, _ :: _ => inferInstanceAs (Decidable True)
  | kind :: kinds, state, input :: inputs =>
      have := decidableOccur step kindly kinds (step state input).2 inputs
      have := decidableOccur step kindly (kind :: kinds) (step state input).2 inputs
      inferInstanceAs (Decidable (kindly kind state input ∧
        Occur step kindly kinds (step state input).2 inputs ∨
          Occur step kindly (kind :: kinds) (step state input).2 inputs))

/-- An invariant of guarded steps that forces `law` at every step forces it along every run. -/
theorem along_of_within {step : σ → ι → ο × σ} {guard : σ → ι → Prop} {invariant : σ → Prop}
    {law : σ → ι → ο → Prop}
    (preserved : ∀ state input, invariant state → guard state input →
      law state input (step state input).1 ∧ invariant (step state input).2)
    {state : σ} {inputs : List ι} (initial : invariant state)
    (within : Within step guard state inputs) : Along step law state inputs := by
  induction inputs generalizing state with
  | nil => trivial
  | cons input inputs ih =>
      obtain ⟨holds, next⟩ := preserved state input initial within.1
      exact ⟨holds, ih next within.2⟩

/-- A law along runs in which steps of some kinds do not occur in order, from an invariant that
knows which kinds are still to come. -/
theorem along_of_not_occur {κ : Type*} {step : σ → ι → ο × σ} {kindly : κ → σ → ι → Prop}
    {guard : σ → ι → Prop} {law : σ → ι → ο → Prop} {invariant : List κ → σ → Prop}
    (advance : ∀ kind next kinds state input, invariant (kind :: next :: kinds) state →
      guard state input → kindly kind state input →
        law state input (step state input).1 ∧ invariant (next :: kinds) (step state input).2)
    (stay : ∀ kind kinds state input, invariant (kind :: kinds) state → guard state input →
      ¬ kindly kind state input →
        law state input (step state input).1 ∧ invariant (kind :: kinds) (step state input).2)
    {kind : κ} {kinds : List κ} {state : σ} {inputs : List ι}
    (initial : invariant (kind :: kinds) state) (within : Within step guard state inputs)
    (never : ¬ Occur step kindly (kind :: kinds) state inputs) : Along step law state inputs := by
  induction inputs generalizing state kind kinds with
  | nil => trivial
  | cons input inputs ih =>
      by_cases is_kind : kindly kind state input
      · cases kinds with
        | nil => exact absurd (.inl ⟨is_kind, occur_nil step kindly _ inputs⟩) never
        | cons next kinds =>
            obtain ⟨holds, later⟩ :=
              advance kind next kinds state input initial within.1 is_kind
            exact ⟨holds, ih later within.2 fun occurs => never (.inl ⟨is_kind, occurs⟩)⟩
      · obtain ⟨holds, later⟩ := stay kind kinds state input initial within.1 is_kind
        exact ⟨holds, ih later within.2 fun occurs => never (.inr occurs)⟩

/-- Two guards that agree on the states of an invariant hold along the same runs. -/
theorem within_iff_of_invariant {step : σ → ι → ο × σ} {guard guard' : σ → ι → Prop}
    {invariant : σ → Prop}
    (preserved : ∀ state input, invariant state → invariant (step state input).2)
    (same : ∀ state input, invariant state → (guard state input ↔ guard' state input))
    {state : σ} {inputs : List ι} (initial : invariant state) :
    Within step guard state inputs ↔ Within step guard' state inputs := by
  induction inputs generalizing state with
  | nil => exact Iff.rfl
  | cons input inputs ih =>
      exact and_congr (same state input initial) (ih (preserved state input initial))

theorem within_true (step : σ → ι → ο × σ) (state : σ) (inputs : List ι) :
    Within step (fun _ _ => True) state inputs := by
  induction inputs generalizing state with
  | nil => trivial
  | cons input inputs ih => exact ⟨trivial, ih _⟩

/-- A machine with an observer that sees every input and output. -/
def observed {γ : Type*} (step : σ → ι → ο × σ) (observe : γ → ι → ο → γ) (state : σ × γ)
    (input : ι) : ο × (σ × γ) :=
  ((step state.1 input).1,
    ((step state.1 input).2, observe state.2 input (step state.1 input).1))

@[simp]
theorem observed_mk {γ : Type*} (step : σ → ι → ο × σ) (observe : γ → ι → ο → γ) (state : σ)
    (seen : γ) (input : ι) :
    observed step observe (state, seen) input =
      ((step state input).1, ((step state input).2, observe seen input (step state input).1)) := rfl

/-- The observer that remembers whether the last event of two kinds was one of the first kind. -/
def since (opens closes : ι → ο → Prop) [∀ input output, Decidable (opens input output)]
    [∀ input output, Decidable (closes input output)] (seen : Bool) (input : ι) (output : ο) :
    Bool :=
  if opens input output then true else if closes input output then false else seen

section Since

variable {opens closes : ι → ο → Prop} [∀ input output, Decidable (opens input output)]
  [∀ input output, Decidable (closes input output)] {input : ι} {output : ο}

theorem since_of_opens (seen : Bool) (opened : opens input output) :
    since opens closes seen input output = true := if_pos opened

theorem since_of_closes (seen : Bool) (unopened : ¬ opens input output)
    (closed : closes input output) : since opens closes seen input output = false := by
  rw [since, if_neg unopened, if_pos closed]

theorem since_of_neither (seen : Bool) (unopened : ¬ opens input output)
    (unclosed : ¬ closes input output) : since opens closes seen input output = seen := by
  rw [since, if_neg unopened, if_neg unclosed]

end Since

/-- Two machines whose guarded steps keep `related` states related produce related outputs. -/
theorem lockstep {step : σ → ι → ο × σ} {other : τ → ι → π × τ} {related : σ → τ → Prop}
    {guard : σ → ι → Prop} {guard' : τ → ι → Prop} {agree : ο → π → Prop}
    (simulated : ∀ left right input, related left right → guard left input → guard' right input →
      agree (step left input).1 (other right input).1 ∧
        related (step left input).2 (other right input).2)
    {left : σ} {right : τ} {inputs : List ι} (initial : related left right)
    (within : Within step guard left inputs) (within' : Within other guard' right inputs) :
    List.Forall₂ agree (outputs step left inputs) (outputs other right inputs) := by
  induction inputs generalizing left right with
  | nil => exact .nil
  | cons input inputs ih =>
      obtain ⟨agreed, next⟩ := simulated left right input initial within.1 within'.1
      exact .cons agreed (ih next within.2 within'.2)

/-- The entry related to an entry of the left list. -/
theorem forall₂_getElem? {related : ο → π → Prop} {lefts : List ο} {rights : List π}
    (pairs : List.Forall₂ related lefts rights) {index : Nat} {left : ο}
    (entry : lefts[index]? = some left) :
    ∃ right, rights[index]? = some right ∧ related left right := by
  induction pairs generalizing index with
  | nil => simp at entry
  | cons first _ ih =>
      cases index with
      | zero =>
          obtain rfl := Option.some.inj entry
          exact ⟨_, rfl, first⟩
      | succ index => exact ih entry

/-! ## Steps that may stop -/

/-- The first states of a run without inputs that ends where there is no next state. -/
def iterates (next : σ → Option σ) : Nat → σ → List σ
  | 0, _ => []
  | count + 1, state =>
      state :: match next state with
        | none => []
        | some state => iterates next count state

section Iterates

variable {next : σ → Option σ} {count : Nat} {state after : σ}

theorem iterates_of_stop (stop : next state = none) :
    iterates next (count + 1) state = [state] := by
  rw [iterates, stop]

theorem iterates_of_next (step : next state = some after) :
    iterates next (count + 1) state = state :: iterates next count after := by
  rw [iterates, step]

/-- What every step preserves holds in every state of the run. -/
theorem invariant_of_mem_iterates {invariant : σ → Prop}
    (preserved : ∀ state after, invariant state → next state = some after → invariant after)
    (initial : invariant state) : ∀ reached ∈ iterates next count state, invariant reached := by
  induction count generalizing state with
  | zero => exact fun reached member => absurd member List.not_mem_nil
  | succ count ih =>
      intro reached member
      cases step : next state with
      | none =>
          rw [iterates_of_stop step] at member
          exact List.mem_singleton.mp member ▸ initial
      | some after =>
          rw [iterates_of_next step] at member
          rcases List.mem_cons.mp member with rfl | later
          · exact initial
          · exact ih (preserved state after initial step) reached later

/-- A run goes on from each of its states, up to its length. -/
theorem getElem?_iterates_succ {index : Nat} (room : index + 1 < count) {reached : σ}
    (entry : (iterates next count state)[index]? = some reached)
    (step : next reached = some after) :
    (iterates next count state)[index + 1]? = some after := by
  induction index generalizing state count with
  | zero =>
      obtain ⟨count, rfl⟩ := Nat.exists_eq_add_of_lt room
      obtain rfl : state = reached := Option.some.inj entry
      rw [iterates_of_next step, List.getElem?_cons_succ, Nat.zero_add, Nat.add_comm 1 count]
      rfl
  | succ index ih =>
      cases count with
      | zero => exact absurd room (Nat.not_lt_zero _)
      | succ count =>
          cases first : next state with
          | none =>
              rw [iterates_of_stop first] at entry
              exact nomatch entry
          | some second =>
              rw [iterates_of_next first, List.getElem?_cons_succ] at entry ⊢
              exact ih (Nat.lt_of_succ_lt_succ room) entry

/-- A run whose states are known. -/
theorem iterates_eq_map (states : Nat → σ)
    (steps : ∀ index, index + 1 < count → next (states index) = some (states (index + 1))) :
    iterates next count (states 0) = (List.range count).map states := by
  induction count generalizing states with
  | zero => rfl
  | succ count ih =>
      rw [List.range_succ_eq_map, List.map_cons, List.map_map]
      cases count with
      | zero => cases step : next (states 0) <;> simp [iterates, step]
      | succ count =>
          rw [iterates_of_next (steps 0 (Nat.succ_lt_succ (Nat.succ_pos count)))]
          exact congrArg _ (ih (states ∘ Nat.succ) fun index index_lt =>
            steps (index + 1) (Nat.succ_lt_succ index_lt))

theorem length_iterates_le : (iterates next count state).length ≤ count := by
  induction count generalizing state with
  | zero => exact Nat.le_refl 0
  | succ count ih =>
      cases step : next state with
      | none =>
          rw [iterates_of_stop step]
          exact Nat.succ_le_succ (Nat.zero_le count)
      | some after =>
          rw [iterates_of_next step]
          exact Nat.succ_le_succ ih

/-- A number that every step increases by one counts the steps. -/
theorem counter_of_getElem?_iterates (counter : σ → Nat)
    (counts : ∀ state after, next state = some after → counter after = counter state + 1)
    {index : Nat} {reached : σ} (entry : (iterates next count state)[index]? = some reached) :
    counter reached = counter state + index := by
  induction index generalizing state count with
  | zero =>
      cases count with
      | zero => exact nomatch entry
      | succ count =>
          obtain rfl : state = reached := Option.some.inj entry
          rfl
  | succ index ih =>
      cases count with
      | zero => exact nomatch entry
      | succ count =>
          cases step : next state with
          | none =>
              rw [iterates_of_stop step] at entry
              exact nomatch entry
          | some after =>
              rw [iterates_of_next step, List.getElem?_cons_succ] at entry
              rw [ih entry, counts state after step]
              omega

end Iterates

end Machine
end TaRef
