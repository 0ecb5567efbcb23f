import Mathlib

/-!
# Sequences of checks

A validator is a chain of checks in `Except`, each of which stops with its own error.
These equivalences take a successful chain apart and put one together without
unfolding the monad. A check of every element of a list in turn relates the list to its
result element by element.
-/

namespace HydraTerm.Lib

open List

universe u v
variable {ε : Type u} {α β : Type v}

/-- A sequence succeeds exactly when its first part does and the rest does after it. -/
theorem bind_ok_iff {first : Except ε α} {rest : α → Except ε β} {result : β} :
    (first >>= rest) = .ok result ↔ ∃ middle, first = .ok middle ∧ rest middle = .ok result := by
  cases first with
  | error reason | ok value => simp [bind, Except.bind]

/-- A refused condition followed by the remaining checks. -/
theorem check_ok_iff {refused : Prop} [Decidable refused] {reason : ε} {rest : Except ε α}
    {result : α} :
    (if refused then .error reason else rest) = .ok result ↔ ¬ refused ∧ rest = .ok result := by
  split <;> simp_all

/-- A result that is kept is one that succeeded. -/
theorem toOption_eq_some {result : Except ε α} {value : α}
    (isSome : result.toOption = some value) : result = .ok value := by
  cases result with
  | error => contradiction
  | ok => exact congrArg _ (Option.some.inj isSome)

variable {source : List α} {result : List β} {compute : α → Except ε β}

/-- A list computed element by element relates to its source element by element. -/
theorem forall₂_of_mapM {compute : α → Option β} (computed : source.mapM compute = some result) :
    List.Forall₂ (fun one other => compute one = some other) source result := by
  induction source generalizing result with
  | nil =>
    obtain rfl : [] = result := by simpa using computed
    exact .nil
  | cons _ _ ih =>
    simp only [mapM_cons, Option.bind_eq_bind, Option.bind_eq_some_iff, Option.pure_def,
      Option.some.injEq] at computed
    obtain ⟨_, isHead, _, isTail, rfl⟩ := computed
    exact .cons isHead (ih isTail)

/-- So does a list whose elements all pass. -/
theorem forall₂_of_mapM_ok (computed : source.mapM compute = .ok result) :
    List.Forall₂ (fun one other => compute one = .ok other) source result := by
  induction source generalizing result with
  | nil =>
    obtain rfl : [] = result := by simpa [pure, Except.pure] using computed
    exact .nil
  | cons _ _ ih =>
    rw [mapM_cons, bind_ok_iff] at computed
    obtain ⟨head, isHead, computed⟩ := computed
    rw [bind_ok_iff] at computed
    obtain ⟨tail, isTail, isResult⟩ := computed
    obtain rfl : head :: tail = result := Except.ok.inj isResult
    exact .cons isHead (ih isTail)

/-- Each element of the source has its counterpart in the result. -/
theorem exists_of_forall₂ {rel : α → β → Prop} {one : α} (related : List.Forall₂ rel source result)
    (member : one ∈ source) : ∃ other ∈ result, rel one other := by
  induction related with
  | nil => exact absurd member not_mem_nil
  | cons head _ ih =>
    rcases mem_cons.mp member with rfl | later
    · exact ⟨_, mem_cons_self, head⟩
    · obtain ⟨other, otherMember, holds⟩ := ih later
      exact ⟨other, mem_cons_of_mem _ otherMember, holds⟩

/-- When every element passes, each has its result. -/
theorem exists_of_mapM_ok (computed : source.mapM compute = .ok result) {one : α}
    (member : one ∈ source) : ∃ other ∈ result, compute one = .ok other :=
  exists_of_forall₂ (forall₂_of_mapM_ok computed) member

/-- And the results are those of the elements. -/
theorem mem_of_mapM_ok (computed : source.mapM compute = .ok result) {other : β} :
    other ∈ result ↔ ∃ one ∈ source, compute one = .ok other := by
  refine ⟨exists_of_forall₂ (forall₂_of_mapM_ok computed).flip, ?_⟩
  rintro ⟨one, member, isOther⟩
  obtain ⟨_, _, same⟩ := exists_of_mapM_ok computed member
  rwa [Except.ok.inj (isOther.symm.trans same)]

/-- A list passes exactly when each of its elements does. -/
theorem mapM_ok_iff :
    (∃ result, source.mapM compute = .ok result) ↔ ∀ one ∈ source, ∃ other, compute one = .ok other := by
  constructor
  · rintro ⟨result, computed⟩ one member
    obtain ⟨other, -, isOther⟩ := exists_of_mapM_ok computed member
    exact ⟨other, isOther⟩
  · intro passes
    induction source with
    | nil => exact ⟨[], rfl⟩
    | cons _ _ ih =>
      obtain ⟨⟨head, isHead⟩, later⟩ := forall_mem_cons.mp passes
      obtain ⟨tail, isTail⟩ := ih later
      refine ⟨head :: tail, ?_⟩
      simp only [mapM_cons, bind_ok_iff]
      exact ⟨head, isHead, tail, isTail, rfl⟩

/-- Relating lists element by element composes. -/
theorem forall₂_trans {rel : α → α → Prop} (trans : ∀ one middle other, rel one middle →
    rel middle other → rel one other) {first second third : List α}
    (left : List.Forall₂ rel first second) (right : List.Forall₂ rel second third) :
    List.Forall₂ rel first third := by
  induction left generalizing third with
  | nil => exact right
  | cons head _ ih =>
    cases right with
    | cons next rest => exact .cons (trans _ _ _ head next) (ih rest)

/-- Lists that agree element by element under two readings have the same readings. -/
theorem map_eq_of_forall₂ {γ : Type v} {readOne : α → γ} {readOther : β → γ}
    (related : List.Forall₂ (fun one other => readOne one = readOther other) source result) :
    source.map readOne = result.map readOther := by
  rwa [← forall₂_eq_eq_eq, forall₂_map_left_iff, forall₂_map_right_iff]

end HydraTerm.Lib
