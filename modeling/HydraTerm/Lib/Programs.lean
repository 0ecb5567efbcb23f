import Mathlib

/-!
# Programs that ask for one atomic action at a time

A program is the tree of its possible continuations: it is done, or it asks one request and goes
on with the answer. Between two requests anything else may run, so a claim about a program among
others speaks about the requests it can make after the answers it has had.

A protocol says which requests are allowed at a point and how the point moves with an answer.
`Follows` is the corresponding rule of pre- and postconditions: a program that follows a protocol
keeps following it whatever it is answered.

The protocol `checked` is that of a program which may act only if its last check has passed. Such a
program is between a check that passed and its action exactly as long as it `Reaches` the action
without another check.
-/

namespace HydraTerm.Lib

universe u v w x
variable {ρ : Type u} {answer : ρ → Type v} {α : Type w} {κ : Type x}

/-- A program with requests `ρ`, the answers each request can have, and a result. -/
inductive Program (ρ : Type u) (answer : ρ → Type v) (α : Type w)
  | done (result : α)
  | ask (request : ρ) (next : answer request → Program ρ answer α)

/-- The requests allowed at a point, and the point after each answer. -/
structure Protocol (ρ : Type u) (answer : ρ → Type v) (κ : Type x) where
  allowed : κ → ρ → Prop
  after : κ → (request : ρ) → answer request → κ

namespace Program

/-- Every request the program can make from the point on is allowed there, and it ends at a
point that fits its result. -/
inductive Follows (protocol : Protocol ρ answer κ) (fits : κ → α → Prop) :
    κ → Program ρ answer α → Prop
  | done {point : κ} {result : α} : fits point result → Follows protocol fits point (.done result)
  | ask {point : κ} {request : ρ} {next : answer request → Program ρ answer α} :
      protocol.allowed point request →
      (∀ given, Follows protocol fits (protocol.after point request given) (next given)) →
      Follows protocol fits point (.ask request next)

variable {protocol : Protocol ρ answer κ} {fits : κ → α → Prop} {point : κ}

section

variable {request : ρ} {next : answer request → Program ρ answer α}
  (follows : Follows protocol fits point (.ask request next))
include follows

/-- The next request is allowed. -/
theorem Follows.allowed : protocol.allowed point request := by
  cases follows with
  | ask allowed => exact allowed

/-- The program follows the protocol after any answer. -/
theorem Follows.answered (given : answer request) :
    Follows protocol fits (protocol.after point request given) (next given) := by
  cases follows with
  | ask _ later => exact later given

end

/-- The result fits the point the program ends at. -/
theorem Follows.result {result : α} (follows : Follows protocol fits point (.done result)) :
    fits point result := by
  cases follows with
  | done isResult => exact isResult

variable (checks acts : ρ → Prop) (goal : α → Prop) in
/-- The program can make a request of `acts`, or end with a result of `goal`, without a request of
`checks` before. -/
inductive Reaches : Program ρ answer α → Prop
  | done {result : α} : goal result → Reaches (.done result)
  | act {request : ρ} {next : answer request → Program ρ answer α} :
      acts request → Reaches (.ask request next)
  | later {request : ρ} {next : answer request → Program ρ answer α} {given : answer request} :
      ¬ checks request → Reaches (next given) → Reaches (.ask request next)

end Program

/-- An action needs a check that has passed. The point says whether the last one has. -/
def Protocol.checked (checks acts : ρ → Prop) (passes : (request : ρ) → answer request → Prop) :
    Protocol ρ answer Prop where
  allowed passed request := acts request → passed
  after passed request given := (checks request ∧ passes request given) ∨ (¬ checks request ∧ passed)

namespace Program

section Checked

variable {checks acts : ρ → Prop} {passes : (request : ρ) → answer request → Prop}
  {goal : α → Prop} {passed stronger : Prop} {program : Program ρ answer α} {request : ρ}
  {next : answer request → Program ρ answer α}

/-- The program acts, and ends with a result of `goal`, only after a check that has passed. -/
abbrev Checked (checks acts : ρ → Prop) (passes : (request : ρ) → answer request → Prop)
    (goal : α → Prop) (passed : Prop) (program : Program ρ answer α) : Prop :=
  program.Follows (Protocol.checked checks acts passes) (fun passed result => goal result → passed)
    passed

/-- A program that needs no check that passed does not mind one. -/
theorem Checked.mono (checked : program.Checked checks acts passes goal passed)
    (implied : passed → stronger) : program.Checked checks acts passes goal stronger := by
  induction program generalizing passed stronger with
  | done => exact .done fun isGoal => implied (checked.result isGoal)
  | ask _ _ ih =>
    refine .ask (fun isAct => implied (checked.allowed isAct)) fun given => ?_
    refine ih given (checked.answered given) ?_
    rintro (fresh | ⟨unchecked, isPassed⟩)
    · exact .inl fresh
    · exact .inr ⟨unchecked, implied isPassed⟩

/-- A request that is no check leaves the point alone. -/
theorem Checked.ask (unchecked : ¬ checks request) (granted : acts request → passed)
    (later : ∀ given, (next given).Checked checks acts passes goal passed) :
    (Program.ask request next).Checked checks acts passes goal passed :=
  Follows.ask granted fun given => Checked.mono (later given) fun isPassed =>
    .inr ⟨unchecked, isPassed⟩

/-- A check sets the point anew. -/
theorem Checked.check (isCheck : checks request) (noAct : ¬ acts request)
    (later : ∀ given, (next given).Checked checks acts passes goal (passes request given)) :
    (Program.ask request next).Checked checks acts passes goal passed :=
  Follows.ask (fun isAct => absurd isAct noAct) fun given => Checked.mono (later given)
    fun isPassed => .inl ⟨isCheck, isPassed⟩

/-- Without a check that passed nothing is reached. -/
theorem Checked.not_reaches (checked : program.Checked checks acts passes goal False) :
    ¬ program.Reaches checks acts goal := by
  intro reaches
  induction reaches with
  | done isGoal => exact checked.result isGoal
  | act isAct => exact checked.allowed isAct
  | @later _ _ given unchecked _ ih =>
    refine ih (Checked.mono (checked.answered given) ?_)
    rintro (⟨isCheck, _⟩ | ⟨_, impossible⟩)
    · exact unchecked isCheck
    · exact impossible

/-- A program that reaches nothing before its next check makes nothing of the checks it has had. -/
theorem Checked.forget (checked : program.Checked checks acts passes goal passed)
    (unreached : ¬ program.Reaches checks acts goal) :
    program.Checked checks acts passes goal False := by
  induction program generalizing passed with
  | done => exact .done fun isGoal => unreached (.done isGoal)
  | ask request _ ih =>
    refine Follows.ask (fun isAct => unreached (.act isAct)) fun given => ?_
    by_cases isCheck : checks request
    · refine Checked.mono (checked.answered given) ?_
      rintro (fresh | ⟨unchecked, _⟩)
      · exact .inl fresh
      · exact absurd isCheck unchecked
    · refine Checked.mono (ih given (checked.answered given) fun reaches => ?_)
        False.elim
      exact unreached (.later isCheck reaches)

end Checked

end Program

end HydraTerm.Lib
