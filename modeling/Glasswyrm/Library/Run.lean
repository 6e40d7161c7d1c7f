import Mathlib.Data.List.Basic
import Mathlib.Data.List.Induction

namespace Glasswyrm.Library

/-! Runs of a deterministic machine `step : σ → ι → σ`.  A run is the fold of the
step over its inputs; a guarded run is one whose inputs each meet a condition
in the state they are applied to. -/

variable {σ : Type*} {ι : Type*}

def run (step : σ → ι → σ) (start : σ) (inputs : List ι) : σ :=
  inputs.foldl step start

def Guarded (step : σ → ι → σ) (allowed : σ → ι → Prop) : σ → List ι → Prop
  | _, [] => True
  | state, input :: rest =>
      allowed state input ∧ Guarded step allowed (step state input) rest

section

variable {step : σ → ι → σ}

@[simp] theorem run_nil (start : σ) : run step start [] = start := rfl

@[simp] theorem run_cons (start : σ) (input : ι) (rest : List ι) :
    run step start (input :: rest) = run step (step start input) rest := rfl

theorem run_append (start : σ) (first second : List ι) :
    run step start (first ++ second) = run step (run step start first) second :=
  List.foldl_append

theorem run_concat (start : σ) (inputs : List ι) (last : ι) :
    run step start (inputs ++ [last]) = step (run step start inputs) last := by
  simp [run_append]

instance Guarded.decidable {allowed : σ → ι → Prop}
    [∀ state input, Decidable (allowed state input)] :
    ∀ (start : σ) (inputs : List ι),
      Decidable (Guarded step allowed start inputs)
  | _, [] => isTrue trivial
  | start, input :: rest =>
      have : Decidable (Guarded step allowed (step start input) rest) :=
        Guarded.decidable (step start input) rest
      inferInstanceAs (Decidable (_ ∧ _))

/-- A condition that always holds guards every run. -/
theorem Guarded.always {allowed : σ → ι → Prop}
    (holds : ∀ state input, allowed state input) {start : σ}
    {inputs : List ι} : Guarded step allowed start inputs := by
  induction inputs generalizing start with
  | nil => trivial
  | cons input rest ih => exact ⟨holds start input, ih⟩

theorem Guarded.append {allowed : σ → ι → Prop} {start : σ}
    {first second : List ι} :
    Guarded step allowed start (first ++ second) ↔
      Guarded step allowed start first ∧
        Guarded step allowed (run step start first) second := by
  induction first generalizing start with
  | nil => exact ⟨fun later => ⟨trivial, later⟩, And.right⟩
  | cons input rest ih =>
      rw [List.cons_append, Guarded, Guarded, ih, run_cons, and_assoc]

/-- The induction rule for guarded runs: what one allowed step keeps, the
whole run keeps. -/
theorem Guarded.preserves {allowed : σ → ι → Prop} (invariant : σ → Prop)
    (keeps : ∀ state input, invariant state → allowed state input →
      invariant (step state input))
    {start : σ} {inputs : List ι} (guarded : Guarded step allowed start inputs)
    (holds : invariant start) : invariant (run step start inputs) := by
  induction inputs generalizing start with
  | nil => exact holds
  | cons input rest ih =>
      obtain ⟨admitted, remaining⟩ := guarded
      exact ih remaining (keeps start input holds admitted)

/-- Two conditions that agree in every state of the runs that meet the second
are met by the same runs. -/
theorem Guarded.congr {first second assumed : σ → ι → Prop}
    (invariant : σ → Prop)
    (agree : ∀ state input, invariant state → assumed state input →
      (first state input ↔ second state input))
    (keeps : ∀ state input, invariant state → assumed state input →
      second state input → invariant (step state input))
    {start : σ} {inputs : List ι} (holds : invariant start)
    (assumption : Guarded step assumed start inputs) :
    Guarded step first start inputs ↔ Guarded step second start inputs := by
  induction inputs generalizing start with
  | nil => exact Iff.rfl
  | cons input rest ih =>
      obtain ⟨given, remaining⟩ := assumption
      have here := agree start input holds given
      constructor
      · rintro ⟨met, others⟩
        have kept := keeps start input holds given (here.mp met)
        exact ⟨here.mp met, (ih kept remaining).mp others⟩
      · rintro ⟨met, others⟩
        have kept := keeps start input holds given met
        exact ⟨here.mpr met, (ih kept remaining).mpr others⟩

/-- The same rule when every input is allowed. -/
theorem run_preserves {invariant : σ → Prop}
    (keeps : ∀ state input, invariant state → invariant (step state input))
    {start : σ} (holds : invariant start) (inputs : List ι) :
    invariant (run step start inputs) := by
  induction inputs generalizing start with
  | nil => exact holds
  | cons input rest ih => exact ih (keeps start input holds)

/-- What one input achieves and every input keeps, a run with that input
achieves. -/
theorem run_achieves {goal : σ → Prop}
    (keeps : ∀ state input, goal state → goal (step state input))
    {input : ι} (reaches : ∀ state, goal (step state input))
    {inputs : List ι} (member : input ∈ inputs) (start : σ) :
    goal (run step start inputs) := by
  induction inputs generalizing start with
  | nil => cases member
  | cons head rest ih =>
      rcases List.mem_cons.mp member with rfl | later
      · exact run_preserves keeps (reaches start) rest
      · exact ih later (step start head)

end

/-- The induction rule for a run that stops at the first failing step. -/
theorem foldlM_preserves {step : σ → ι → Option σ} {invariant : σ → Prop}
    (keeps : ∀ state input next, invariant state →
      step state input = some next → invariant next)
    {start final : σ} {inputs : List ι} (holds : invariant start)
    (finished : inputs.foldlM step start = some final) : invariant final := by
  induction inputs generalizing start with
  | nil =>
      rw [List.foldlM_nil] at finished
      exact Option.some.inj finished ▸ holds
  | cons input rest ih =>
      rw [List.foldlM_cons] at finished
      obtain ⟨next, taken, remaining⟩ := Option.bind_eq_some_iff.mp finished
      exact ih (keeps start input next holds taken) remaining

/-- What every step of a finished run achieves and later steps keep, the run
has achieved for each input. -/
theorem foldlM_achieves {step : σ → ι → Option σ} {follows : σ → σ → Prop}
    (achieved : ι → σ → Prop) (refl : ∀ state, follows state state)
    (trans : ∀ first second third, follows first second →
      follows second third → follows first third)
    (keeps : ∀ input state next, follows state next →
      achieved input state → achieved input next)
    {inputs : List ι}
    (achieves : ∀ state, ∀ input ∈ inputs, ∀ next,
      step state input = some next →
        follows state next ∧ achieved input next)
    {start final : σ} (finished : inputs.foldlM step start = some final) :
    follows start final ∧ ∀ input ∈ inputs, achieved input final := by
  induction inputs generalizing start with
  | nil =>
      rw [List.foldlM_nil] at finished
      obtain rfl := Option.some.inj finished
      exact ⟨refl start, List.forall_mem_nil _⟩
  | cons input rest ih =>
      rw [List.foldlM_cons] at finished
      obtain ⟨next, taken, remaining⟩ := Option.bind_eq_some_iff.mp finished
      obtain ⟨here, done⟩ := achieves start input List.mem_cons_self next taken
      obtain ⟨later, others⟩ := ih (fun state other member =>
        achieves state other (List.mem_cons_of_mem _ member)) remaining
      exact ⟨trans start next final here later, List.forall_mem_cons.mpr
        ⟨keeps input next final later done, others⟩⟩

/-- A run whose steps all go through is a fold. -/
theorem foldlM_eq_some {step : σ → ι → Option σ} {act : σ → ι → σ}
    {inputs : List ι}
    (agrees : ∀ state, ∀ input ∈ inputs,
      step state input = some (act state input)) (start : σ) :
    inputs.foldlM step start = some (inputs.foldl act start) := by
  induction inputs generalizing start with
  | nil => rfl
  | cons input rest ih =>
      rw [List.foldlM_cons, agrees start input List.mem_cons_self]
      exact ih (fun state later member =>
        agrees state later (List.mem_cons_of_mem _ member)) _

/-- In a run that finishes every input is taken in some state. -/
theorem foldlM_takes {step : σ → ι → Option σ} {start final : σ}
    {inputs : List ι} (finished : inputs.foldlM step start = some final) :
    ∀ input ∈ inputs, ∃ state next, step state input = some next := by
  induction inputs generalizing start with
  | nil => exact List.forall_mem_nil _
  | cons input rest ih =>
      rw [List.foldlM_cons] at finished
      obtain ⟨next, taken, remaining⟩ := Option.bind_eq_some_iff.mp finished
      exact List.forall_mem_cons.mpr ⟨⟨start, next, taken⟩, ih remaining⟩

section

universe u

variable {ε : Type*} {α β : Type u}

theorem Except.bind_eq_ok_iff {first : Except ε α} {next : α → Except ε β}
    {result : β} :
    (first >>= next) = .ok result ↔
      ∃ value, first = .ok value ∧ next value = .ok result := by
  cases first with
  | error failure => simp [bind, Except.bind]
  | ok value => simp [bind, Except.bind]

theorem Except.bind_eq_error_iff {first : Except ε α}
    {next : α → Except ε β} {failure : ε} :
    (first >>= next) = .error failure ↔
      first = .error failure ∨
        ∃ value, first = .ok value ∧ next value = .error failure := by
  cases first with
  | error failure => simp [bind, Except.bind]
  | ok value => simp [bind, Except.bind]

/-- A traversal that succeeds succeeds on every entry. -/
theorem mapM_eq_ok {f : α → Except ε β} {entries : List α} {results : List β}
    (succeeded : entries.mapM f = .ok results) :
    List.Forall₂ (fun entry result => f entry = .ok result) entries
      results := by
  induction entries generalizing results with
  | nil =>
      obtain rfl := Except.ok.inj succeeded
      exact .nil
  | cons entry rest ih =>
      rw [List.mapM_cons, Except.bind_eq_ok_iff] at succeeded
      obtain ⟨result, here, succeeded⟩ := succeeded
      obtain ⟨others, later, same⟩ := Except.bind_eq_ok_iff.mp succeeded
      obtain rfl := Except.ok.inj same
      exact .cons here (ih later)

/-- One that fails fails on some entry. -/
theorem mapM_eq_error {f : α → Except ε β} {entries : List α} {failure : ε}
    (failed : entries.mapM f = .error failure) :
    ∃ entry ∈ entries, f entry = .error failure := by
  induction entries with
  | nil => cases failed
  | cons entry rest ih =>
      rw [List.mapM_cons, Except.bind_eq_error_iff] at failed
      obtain here | ⟨result, _, failed⟩ := failed
      · exact ⟨entry, List.mem_cons_self, here⟩
      · obtain later | ⟨others, _, wrong⟩ :=
          Except.bind_eq_error_iff.mp failed
        · obtain ⟨other, member, fails⟩ := ih later
          exact ⟨other, List.mem_cons_of_mem _ member, fails⟩
        · cases wrong

end

section

variable {ε : Type*} {step : σ → ι → Except ε σ}

/-- Every input that a run takes before it stops meets a condition in the
state it is taken in. -/
def Meets (step : σ → ι → Except ε σ) (allowed : σ → ι → Prop) :
    σ → List ι → Prop
  | _, [] => True
  | state, input :: rest =>
      allowed state input ∧
        ∀ next, step state input = .ok next → Meets step allowed next rest

/-- If a step fails in a certain way just when its input is not allowed, so
does the run. -/
theorem foldlM_error_iff {allowed : σ → ι → Prop} {failure : ε}
    (fails : ∀ state input,
      step state input = .error failure ↔ ¬allowed state input)
    (start : σ) (inputs : List ι) :
    inputs.foldlM step start = .error failure ↔
      ¬Meets step allowed start inputs := by
  induction inputs generalizing start with
  | nil => simp [Meets, pure, Except.pure]
  | cons input rest ih =>
      rw [List.foldlM_cons, Except.bind_eq_error_iff, fails, Meets,
        not_and_or]
      refine or_congr_right ?_
      simp only [ih, not_forall]
      exact exists_congr fun next => exists_prop.symm

/-- A condition that an invariant of the run implies is met. -/
theorem Meets.of_invariant {allowed : σ → ι → Prop} (invariant : σ → Prop)
    {inputs : List ι}
    (allows : ∀ state, ∀ input ∈ inputs, invariant state →
      allowed state input)
    (keeps : ∀ state, ∀ input ∈ inputs, ∀ next, invariant state →
      step state input = .ok next → invariant next)
    {start : σ} (holds : invariant start) :
    Meets step allowed start inputs := by
  induction inputs generalizing start with
  | nil => trivial
  | cons input rest ih =>
      refine ⟨allows start input List.mem_cons_self holds,
        fun next taken => ih ?_ ?_ ?_⟩
      · exact fun state later member =>
          allows state later (List.mem_cons_of_mem _ member)
      · exact fun state later member =>
          keeps state later (List.mem_cons_of_mem _ member)
      · exact keeps start input List.mem_cons_self next holds taken

/-- The induction rule for what a run has made of the inputs taken so far. -/
theorem foldlM_accumulates (made : List ι → σ → Prop)
    {start final : σ} {inputs : List ι}
    (adds : ∀ done state input next, input ∈ inputs → made done state →
      step state input = .ok next → made (done ++ [input]) next)
    (holds : made [] start)
    (finished : inputs.foldlM step start = .ok final) :
    made inputs final := by
  induction inputs using List.reverseRecOn generalizing final with
  | nil =>
      obtain rfl := Except.ok.inj finished
      exact holds
  | append_singleton earlier last ih =>
      rw [List.foldlM_append] at finished
      obtain ⟨between, reached, ended⟩ :=
        Except.bind_eq_ok_iff.mp finished
      rw [List.foldlM_cons, Except.bind_eq_ok_iff] at ended
      obtain ⟨next, taken, same⟩ := ended
      obtain rfl := Except.ok.inj same
      refine adds earlier between last next (by simp) ?_ taken
      exact ih (fun done state input next member =>
        adds done state input next (List.mem_append_left _ member)) reached

/-- What a run in `Except` leaves of an observation, when each step acts on
the observation alone. -/
theorem foldlM_observes {α : Type*} (invariant : σ → Prop)
    (observe : σ → α) (act : α → ι → α)
    (acts : ∀ state input next, invariant state →
      step state input = .ok next →
        invariant next ∧ observe next = act (observe state) input)
    {start final : σ} {inputs : List ι} (holds : invariant start)
    (finished : inputs.foldlM step start = .ok final) :
    invariant final ∧ observe final = inputs.foldl act (observe start) := by
  induction inputs generalizing start with
  | nil =>
      rw [List.foldlM_nil] at finished
      obtain rfl := Except.ok.inj finished
      exact ⟨holds, rfl⟩
  | cons input rest ih =>
      rw [List.foldlM_cons] at finished
      cases taken : step start input with
      | error error => simp [taken, bind, Except.bind] at finished
      | ok next =>
          simp only [taken, bind, Except.bind] at finished
          obtain ⟨kept, observed⟩ := acts start input next holds taken
          rw [List.foldl_cons, ← observed]
          exact ih kept finished

/-- A run in `Except` succeeds exactly when every input is admitted, if
whether a step succeeds depends on its input alone. -/
theorem foldlM_succeeds_iff (invariant : σ → Prop) {admitted : ι → Prop}
    (keeps : ∀ state input next, invariant state →
      step state input = .ok next → invariant next)
    (succeeds : ∀ state input, invariant state →
      ((∃ next, step state input = .ok next) ↔ admitted input))
    {start : σ} {inputs : List ι} (holds : invariant start) :
    (∃ final, inputs.foldlM step start = .ok final) ↔
      ∀ input ∈ inputs, admitted input := by
  induction inputs generalizing start with
  | nil => simp [pure, Except.pure]
  | cons input rest ih =>
      rw [List.foldlM_cons, List.forall_mem_cons,
        ← succeeds start input holds]
      cases taken : step start input with
      | error error => simp [bind, Except.bind]
      | ok next =>
          simp only [bind, Except.bind, Except.ok.injEq, exists_eq', true_and]
          exact ih (keeps start input next holds taken)

/-- Two runs over the same inputs: where the second finished, the first
finishes exactly if it admits every input, and the final states are related. -/
theorem foldlM_lockstep {τ : Type*} {δ : Type*} {other : τ → ι → Except δ τ}
    {related : σ → τ → Prop} {admitted : ι → Prop} {inputs : List ι}
    (advances : ∀ input ∈ inputs, ∀ state companion next,
      related state companion → other companion input = .ok next →
        ((∃ following, step state input = .ok following) ↔ admitted input) ∧
          ∀ following, step state input = .ok following →
            related following next)
    {start : σ} {companion finished : τ} (holds : related start companion)
    (done : inputs.foldlM other companion = .ok finished) :
    ((∃ final, inputs.foldlM step start = .ok final) ↔
        ∀ input ∈ inputs, admitted input) ∧
      ∀ final, inputs.foldlM step start = .ok final →
        related final finished := by
  induction inputs generalizing start companion with
  | nil =>
      obtain rfl := Except.ok.inj done
      refine ⟨by simp [pure, Except.pure], fun final same => ?_⟩
      obtain rfl := Except.ok.inj same
      exact holds
  | cons input rest ih =>
      rw [List.foldlM_cons] at done
      rw [List.foldlM_cons, List.forall_mem_cons]
      cases taken : other companion input with
      | error failure => simp [taken, bind, Except.bind] at done
      | ok next =>
          simp only [taken, bind, Except.bind] at done
          obtain ⟨succeeds, relates⟩ :=
            advances input List.mem_cons_self start companion next holds taken
          rw [← succeeds]
          cases stepped : step start input with
          | error failure => simp [bind, Except.bind]
          | ok following =>
              simp only [bind, Except.bind, Except.ok.injEq, exists_eq',
                true_and]
              exact ih (fun later member =>
                advances later (List.mem_cons_of_mem _ member))
                (relates following stepped) done

end

end Glasswyrm.Library
