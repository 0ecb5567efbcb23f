import Mathlib

/-!
# Labelled runs of a transition system

A run is a finite sequence of labelled steps. An invariant needs one step lemma, and so
does a relation between an earlier and a later state; the inductions over runs are
here once.
-/

namespace HydraTerm.Lib

universe u v
variable {σ : Type u} {ε : Type v} {step : σ → ε → σ → Prop}

/-- `Run step first events last`: the events lead from `first` to `last`, in order. -/
inductive Run (step : σ → ε → σ → Prop) : σ → List ε → σ → Prop
  | nil (state : σ) : Run step state [] state
  | cons {first next last : σ} {event : ε} {events : List ε} :
      step first event next → Run step next events last → Run step first (event :: events) last

/-- Whether every event of a list passes a check, in the state that those before it lead to. -/
def checks (next : σ → ε → σ) (check : σ → ε → Bool) : σ → List ε → Bool
  | _, [] => true
  | state, event :: rest => check state event && checks next check (next state event) rest

namespace Run

variable {first last : σ} {events : List ε} {before after : List ε}

/-- A single step is a run. -/
theorem single {event : ε} (taken : step first event last) : Run step first [event] last :=
  .cons taken (.nil last)

/-- Runs compose. -/
theorem append {middle : σ} (left : Run step first before middle)
    (right : Run step middle after last) : Run step first (before ++ after) last := by
  induction left with
  | nil => exact right
  | cons taken _ ih => exact .cons taken (ih right)

/-- A run of a concatenation passes through a middle state. -/
theorem split (run : Run step first (before ++ after) last) :
    ∃ middle, Run step first before middle ∧ Run step middle after last := by
  induction before generalizing first with
  | nil => exact ⟨first, .nil first, run⟩
  | cons _ _ ih =>
    cases run with
    | cons taken later =>
      obtain ⟨middle, left, right⟩ := ih later
      exact ⟨middle, .cons taken left, right⟩

section

variable (run : Run step first events last) {rel : σ → σ → Prop} {inv : σ → Prop}
include run

/-- A property kept by every step is kept by every run. -/
theorem invariant (holds : inv first)
    (preserved : ∀ {before event after}, step before event after → inv before → inv after) :
    inv last := by
  induction run with
  | nil => exact holds
  | cons taken _ ih => exact ih (preserved taken holds)

/-- A property of the past events and the state that every step carries on holds after every
run, of the events so far. -/
theorem history {inv : List ε → σ → Prop} {past : List ε} (holds : inv past first)
    (preserved : ∀ {past before event after}, step before event after → inv past before →
      inv (past ++ [event]) after) : inv (past ++ events) last := by
  induction run generalizing past with
  | nil => rwa [List.append_nil]
  | cons taken _ ih =>
    rw [List.append_cons]
    exact ih (preserved taken holds)

/-- A reflexive and transitive relation that every step from a good state satisfies holds
between the ends of every run that starts in a good state. -/
theorem related (holds : inv first)
    (preserved : ∀ {before event after}, step before event after → inv before → inv after)
    (refl : ∀ state, rel state state)
    (trans : ∀ {left middle right}, rel left middle → rel middle right → rel left right)
    (stepRel : ∀ {before event after}, step before event after → inv before → rel before after) :
    rel first last := by
  induction run with
  | nil => exact refl _
  | cons taken _ ih =>
    exact trans (stepRel taken holds) (ih (preserved taken holds))

end

/-- A step function runs through any list of events. -/
theorem of_foldl (next : σ → ε → σ) (taken : ∀ state event, step state event (next state event))
    (first : σ) (events : List ε) : Run step first events (events.foldl next first) := by
  induction events generalizing first with
  | nil => exact .nil first
  | cons event _ ih =>
    exact .cons (taken first event) (ih (next first event))

/-- Events that pass a check, each in the state that those before it lead to, are run through. -/
theorem of_checks {next : σ → ε → σ} {check : σ → ε → Bool}
    (taken : ∀ state event, check state event = true → step state event (next state event))
    (checked : checks next check first events = true) :
    Run step first events (events.foldl next first) := by
  induction events generalizing first with
  | nil => exact .nil first
  | cons event _ ih =>
    obtain ⟨passes, later⟩ := Bool.and_eq_true_iff.mp checked
    exact .cons (taken first event passes) (ih later)

/-- A partial step function that goes through a list of events runs through it. -/
theorem of_foldlM {next : σ → ε → Option σ}
    (taken : ∀ state event after, next state event = some after → step state event after)
    (ran : events.foldlM next first = some last) : Run step first events last := by
  induction events generalizing first with
  | nil =>
    obtain rfl : first = last := by simpa using ran
    exact .nil first
  | cons event _ ih =>
    rw [List.foldlM_cons, Option.bind_eq_bind, Option.bind_eq_some_iff] at ran
    obtain ⟨after, isAfter, later⟩ := ran
    exact .cons (taken first event after isAfter) (ih later)

end Run

end HydraTerm.Lib
