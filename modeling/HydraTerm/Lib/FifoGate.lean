import Mathlib

/-!
# A first-come, first-served gate

One party holds the gate and the others wait in the order they came. A release hands the
gate to the first that waits, so it is never free while somebody waits, and a party that
only tries the gate cannot overtake one that waits. A waiting party may withdraw.
-/

namespace HydraTerm.Lib

open List

universe u
variable {α : Type u}

/-- The holder of a gate and those who wait for it. -/
structure FifoGate (α : Type u) where
  holder : Option α
  waiters : List α
  deriving DecidableEq

namespace FifoGate

/-- A gate that nobody holds. -/
def free : FifoGate α := ⟨none, []⟩

variable (gate : FifoGate α)

/-- Come to the gate: pass when it is free, wait otherwise. -/
def enter (party : α) : FifoGate α :=
  match gate.holder with
  | none => { gate with holder := some party }
  | some _ => { gate with waiters := gate.waiters ++ [party] }

/-- The holder leaves and the first that waits passes. -/
def leave : FifoGate α := ⟨gate.waiters.head?, gate.waiters.tail⟩

/-- A waiting party gives up. -/
def withdraw [DecidableEq α] (gate : FifoGate α) (party : α) : FifoGate α :=
  { gate with waiters := gate.waiters.erase party }

/-- Everybody at the gate, the holder first. -/
def members : List α := gate.holder.toList ++ gate.waiters

/-- Nobody waits at a free gate, and nobody is there twice. -/
structure Fair : Prop where
  idle : gate.holder = none → gate.waiters = []
  nodup : gate.members.Nodup

variable {gate} {party : α}

theorem free_fair : (free : FifoGate α).Fair := ⟨fun _ => rfl, nodup_nil⟩

/-- Whoever comes is the last at the gate. -/
theorem members_enter (fair : gate.Fair) (party : α) :
    (gate.enter party).members = gate.members ++ [party] := by
  cases held : gate.holder with
  | none => simp [enter, members, held, fair.idle held]
  | some holder => simp [enter, members, held]

theorem enter_fair (fair : gate.Fair) (new : party ∉ gate.members) : (gate.enter party).Fair := by
  constructor
  · cases held : gate.holder <;> simp [enter, held]
  · rw [members_enter fair, ← concat_eq_append]
    exact fair.nodup.concat new

/-- Leaving takes the holder away. -/
theorem members_leave (gate : FifoGate α) : gate.leave.members = gate.waiters := by
  cases waiting : gate.waiters <;> simp [leave, members, waiting]

theorem leave_fair (fair : gate.Fair) : gate.leave.Fair := by
  constructor
  · intro nobody
    have none_waiting : gate.waiters = [] := head?_eq_none_iff.mp nobody
    simp [leave, none_waiting]
  · rw [members_leave]
    exact (nodup_append.mp fair.nodup).2.1

/-- A holder is at the gate. -/
theorem mem_of_holder (held : gate.holder = some party) : party ∈ gate.members := by
  simp [members, held]

/-- A holder does not wait. -/
theorem holder_notMem_waiters (fair : gate.Fair) (held : gate.holder = some party) :
    party ∉ gate.waiters := by
  intro waiting
  have apart := (nodup_append.mp fair.nodup).2.2
  exact apart party (by simp [held]) party waiting rfl

/-- Of those at the gate, all but the holder wait. -/
theorem mem_waiters (inside : party ∈ gate.members) (other : gate.holder ≠ some party) :
    party ∈ gate.waiters := by
  rcases mem_append.mp inside with holds | waits
  · exact absurd (Option.mem_toList.mp holds) other
  · exact waits

variable [DecidableEq α]

/-- Withdrawing takes only the party itself away. -/
theorem mem_withdraw (fair : gate.Fair) (waiting : party ∈ gate.waiters) {other : α} :
    other ∈ (gate.withdraw party).members ↔ other ≠ party ∧ other ∈ gate.members := by
  have apart := nodup_append.mp fair.nodup
  simp only [withdraw, members, mem_append, apart.2.1.mem_erase_iff]
  constructor
  · rintro (holds | ⟨different, waits⟩)
    · refine ⟨?_, .inl holds⟩
      rintro rfl
      exact apart.2.2 other holds other waiting rfl
    · exact ⟨different, .inr waits⟩
  · rintro ⟨different, holds | waits⟩
    · exact .inl holds
    · exact .inr ⟨different, waits⟩

theorem withdraw_fair (fair : gate.Fair) (party : α) : (gate.withdraw party).Fair := by
  constructor
  · intro nobody
    simp [withdraw, fair.idle nobody]
  · exact fair.nodup.sublist (List.Sublist.append_left erase_sublist _)

end FifoGate

end HydraTerm.Lib
