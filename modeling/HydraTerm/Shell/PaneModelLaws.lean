import HydraTerm.Lib.Checks
import HydraTerm.Lib.Keyed
import HydraTerm.Shell.PaneTransitions

/-!
# Canonical models stay valid

A valid model seats a list of named, distinct agents, one for each slot of its layout:
`Seats model agents`. Every transition is then an operation on that list, and the model it
returns seats the outcome.
-/

namespace HydraTerm.Shell

open Lib List

/-! ## Seats -/

/-- The position of a slot in reading order. -/
def SlotId.index : SlotId → Nat
  | s0 => 0
  | s1 => 1
  | s2 => 2
  | s3 => 3

/-- The agent of each slot when agents take their slots in reading order. -/
def seat (agents : List AgentId) (slot : SlotId) : Option AgentId := agents[slot.index]?

theorem SlotId.index_injective {one other : SlotId} (same : one.index = other.index) :
    one = other := by
  cases one <;> cases other <;> simp_all [SlotId.index]

/-- The slots from a position on begin with the slot of that position. -/
theorem SlotId.drop_eq_cons {position : Nat} (inside : position < 4) :
    ∃ slot : SlotId, SlotId.all.drop position = slot :: SlotId.all.drop (position + 1) ∧
      slot.index = position := by
  interval_cases position
  · exact ⟨.s0, rfl, rfl⟩
  · exact ⟨.s1, rfl, rfl⟩
  · exact ⟨.s2, rfl, rfl⟩
  · exact ⟨.s3, rfl, rfl⟩

theorem SlotId.exists_index {position : Nat} (inside : position < 4) :
    ∃ slot : SlotId, slot.index = position := by
  obtain ⟨slot, _, isIndex⟩ := SlotId.drop_eq_cons inside
  exact ⟨slot, isIndex⟩

/-- A list of at most four, by its length. -/
theorem upTo_four {α : Type} {items : List α} (few : items.length ≤ 4) :
    items = [] ∨ (∃ a, items = [a]) ∨ (∃ a b, items = [a, b]) ∨ (∃ a b c, items = [a, b, c]) ∨
      ∃ a b c d, items = [a, b, c, d] := by
  match items, few with
  | [], _ => exact .inl rfl
  | [a], _ => exact .inr (.inl ⟨a, rfl⟩)
  | [a, b], _ => exact .inr (.inr (.inl ⟨a, b, rfl⟩))
  | [a, b, c], _ => exact .inr (.inr (.inr (.inl ⟨a, b, c, rfl⟩)))
  | [a, b, c, d], _ => exact .inr (.inr (.inr (.inr ⟨a, b, c, d, rfl⟩)))
  | _ :: _ :: _ :: _ :: _ :: _, few => exact absurd few (by simp)

variable {agents : List AgentId} {assignment : SlotId → Option AgentId} {agent : AgentId}

/-- Reading all slots gives the seated agents back. -/
theorem filterMap_seat (few : agents.length ≤ 4) : SlotId.all.filterMap (seat agents) = agents := by
  rcases upTo_four few with rfl | ⟨a, rfl⟩ | ⟨a, b, rfl⟩ | ⟨a, b, c, rfl⟩ | ⟨a, b, c, d, rfl⟩ <;> rfl

theorem filterMap_slots_seat (few : agents.length ≤ 4) :
    (SlotId.all.take agents.length).filterMap (seat agents) = agents := by
  rcases upTo_four few with rfl | ⟨a, rfl⟩ | ⟨a, b, rfl⟩ | ⟨a, b, c, rfl⟩ | ⟨a, b, c, d, rfl⟩ <;> rfl

/-- An agent is in some slot when it is listed among the agents of all slots. -/
theorem any_slot_iff :
    (SlotId.all.any fun used => assignment used == some agent) = true ↔
      agent ∈ SlotId.all.filterMap assignment := by
  simp [mem_filterMap]

variable {slot : SlotId} (layout : CanonicalLayout)

/-- The agent after the seated ones takes the next slot. -/
theorem update_seat {front : List AgentId} (agent : AgentId) (isNext : slot.index = front.length) :
    Function.update (seat front) slot (some agent) = seat (front ++ [agent]) := by
  funext used
  by_cases same : used = slot
  · subst same
    simp [seat, isNext]
  · have different : used.index ≠ front.length := fun equal =>
      same (SlotId.index_injective (equal.trans isNext.symm))
    rw [Function.update_of_ne same, seat, seat, getElem?_append]
    split
    · rfl
    next outside =>
      rw [getElem?_eq_none (not_lt.mp outside)]
      exact (getElem?_eq_none (by simp only [length_singleton]; omega)).symm

/-- Where the assigned slots are a prefix of all slots, reading them leaves no hole. -/
theorem assignment_eq_seat {panes : Nat} (count : (SlotId.all.filterMap assignment).length = panes)
    (assigned : ∀ slot : SlotId, slot.index < panes → (assignment slot).isSome) :
    assignment = seat (SlotId.all.filterMap assignment) := by
  have onFirst := assigned .s0
  have onSecond := assigned .s1
  have onThird := assigned .s2
  have onFourth := assigned .s3
  simp only [SlotId.index, SlotId.all] at onFirst onSecond onThird onFourth count ⊢
  funext slot
  cases first : assignment .s0 <;> cases second : assignment .s1 <;> cases third : assignment .s2 <;>
    cases fourth : assignment .s3 <;> simp [first, second, third,
      fourth] at count <;> subst count <;>
    simp [first, second, third, fourth] at onFirst onSecond onThird onFourth <;>
    cases slot <;> simp [seat, SlotId.index, first, second, third, fourth]

theorem CanonicalLayout.paneCount_bounds : 1 ≤ layout.paneCount ∧ layout.paneCount ≤ 4 := by
  cases layout <;> decide

theorem CanonicalLayout.slots_length : layout.slots.length = layout.paneCount := by
  cases layout <;> rfl

theorem CanonicalLayout.mem_slots_iff {layout : CanonicalLayout} :
    slot ∈ layout.slots ↔ slot.index < layout.paneCount := by
  cases layout <;> cases slot <;> decide

namespace PaneLayoutModel

/-- The model seats these agents, one in each slot of its layout: all named, none twice. -/
structure Seats (model : PaneLayoutModel) (agents : List AgentId) : Prop where
  count : agents.length = model.layout.paneCount
  seated : model.assignment = seat agents
  named : ∀ agent ∈ agents, agent ≠ ""
  distinct : agents.Nodup

namespace Seats

variable {model : PaneLayoutModel}

theorem few (seats : model.Seats agents) : agents.length ≤ 4 :=
  seats.count ▸ model.layout.paneCount_bounds.2

theorem readingOrder (seats : model.Seats agents) : model.agentsInReadingOrder = agents := by
  rw [agentsInReadingOrder, CanonicalLayout.slots, SlotId.first, ← seats.count, seats.seated]
  exact filterMap_slots_seat seats.few

theorem filterMap_all (seats : model.Seats agents) :
    SlotId.all.filterMap model.assignment = agents := by
  rw [seats.seated]
  exact filterMap_seat seats.few

/-- The slot of a seated agent is the one at its position. -/
theorem slotOf (seats : model.Seats agents)
    (atSlot : agents[slot.index]? = some agent) : model.slotOf agent = some slot := by
  have only : ∀ used : SlotId, model.assignment used = some agent → used = slot := by
    intro used held
    rw [seats.seated, seat] at held
    obtain ⟨_, isUsed⟩ := List.getElem?_eq_some_iff.mp held
    obtain ⟨_, isSlot⟩ := List.getElem?_eq_some_iff.mp atSlot
    exact SlotId.index_injective ((seats.distinct.getElem_inj_iff).mp (isUsed.trans isSlot.symm))
  have held : model.assignment slot = some agent := by
    rw [seats.seated]
    exact atSlot
  cases found : model.slotOf agent with
  | none =>
    have absent := find?_eq_none.mp found slot (by cases slot <;> decide)
    exact absurd held (by simpa using absent)
  | some used =>
    have isAgent : model.assignment used = some agent := by simpa using find?_some found
    rw [only used isAgent]

/-- Only seated agents have a slot. -/
theorem mem_of_slotOf (seats : model.Seats agents)
    (isSlot : model.slotOf agent = some slot) : agents[slot.index]? = some agent := by
  have held : model.assignment slot = some agent := by simpa using find?_some isSlot
  rwa [seats.seated] at held

/-- An agent and the others are all agents. -/
theorem cons_filter_perm (seats : model.Seats agents) (member : agent ∈ agents) :
    (agent :: agents.filter (· ≠ agent)).Perm agents := by
  have distinct : (agents.map id).Nodup := by simpa using seats.distinct
  exact cons_filter_key_ne_perm distinct member

end Seats

variable {model : PaneLayoutModel}

/-- A model is valid exactly when it seats some agents. -/
theorem isValid_iff : model.isValid = true ↔ ∃ agents, model.Seats agents := by
  constructor
  · intro valid
    simp only [isValid, CanonicalLayout.slots_length, Bool.and_eq_true, decide_eq_true_eq,
      all_eq_true, CanonicalLayout.mem_slots_iff] at valid
    obtain ⟨⟨⟨count, assigned⟩, named⟩, distinct⟩ := valid
    exact ⟨_, count, assignment_eq_seat count assigned, named, distinct⟩
  · rintro ⟨agents, seats⟩
    simp only [isValid, seats.filterMap_all, CanonicalLayout.slots_length, seats.count, decide_true,
      Bool.true_and, Bool.and_eq_true, all_eq_true, decide_eq_true_eq,
      CanonicalLayout.mem_slots_iff]
    refine ⟨⟨?_, seats.named⟩, seats.distinct⟩
    intro slot inside
    rw [← seats.count] at inside
    simp [seats.seated, seat, inside]

/-! ## Models of a list of agents -/

variable {out : SlotId → Option AgentId}

/-- Seating agents after others succeeds exactly when they are named and no agent is seated
twice, and seats them in order. -/
theorem assign_seated {front back : List AgentId}
    (few : front.length + back.length ≤ 4) (distinct : front.Nodup) :
    assign (seat front) ((SlotId.all.drop front.length).zip back) = .ok out ↔
      (∀ agent ∈ back, agent ≠ "") ∧ (front ++ back).Nodup ∧ out = seat (front ++ back) := by
  induction back generalizing front with
  | nil =>
    simp [zip_nil_right, assign, Except.ok.injEq, append_nil, distinct, true_and, not_mem_nil,
      implies_true, eq_comm]
  | cons agent rest ih =>
    rw [length_cons] at few
    obtain ⟨_, isSlot, isIndex⟩ := SlotId.drop_eq_cons (by omega : front.length < 4)
    have shifted : front.length + 1 = (front ++ [agent]).length := by simp
    have seated : (SlotId.all.any fun used => seat front used == some agent) = true ↔ agent ∈ front := by
      rw [any_slot_iff, filterMap_seat (by omega)]
    rw [isSlot, zip_cons_cons, assign, check_ok_iff, check_ok_iff, seated,
      update_seat agent isIndex,
      shifted]
    have joined : front ++ agent :: rest = front ++ [agent] ++ rest := by simp
    rw [joined]
    constructor
    · rintro ⟨named, fresh, ok⟩
      have frontDistinct : (front ++ [agent]).Nodup :=
        nodup_append.mpr ⟨distinct, nodup_singleton _, by
          rintro one member _ isAgent rfl
          exact fresh (mem_singleton.mp isAgent ▸ member)⟩
      obtain ⟨restNamed, allDistinct, isOut⟩ :=
        (ih (by simpa using by omega) frontDistinct).mp ok
      exact ⟨forall_mem_cons.mpr ⟨named, restNamed⟩, allDistinct, isOut⟩
    · rintro ⟨named, allDistinct, isOut⟩
      obtain ⟨agentNamed, restNamed⟩ := forall_mem_cons.mp named
      have frontDistinct : (front ++ [agent]).Nodup := (nodup_append.mp allDistinct).1
      refine ⟨agentNamed, fun member => ?_,
        (ih (by simpa using by omega) frontDistinct).mpr ⟨restNamed, allDistinct, isOut⟩⟩
      exact (nodup_append.mp frontDistinct).2.2 agent member agent (mem_singleton_self _) rfl

variable {layout}

/-- The agents of a layout take its slots. -/
theorem assign_slots (count : agents.length = layout.paneCount) :
    assign (fun _ => none) (layout.slots.zip agents) = .ok out ↔
      (∀ agent ∈ agents, agent ≠ "") ∧ agents.Nodup ∧ out = seat agents := by
  have most := layout.paneCount_bounds.2
  have empty : (fun _ => none : SlotId → Option AgentId) = seat [] := rfl
  have slots : layout.slots.zip agents = (SlotId.all.drop ([] : List AgentId).length).zip agents := by
    rw [CanonicalLayout.slots, SlotId.first, ← count, length_nil, drop_zero]
    rcases upTo_four (count ▸ most) with rfl | ⟨a, rfl⟩ | ⟨a, b, rfl⟩ | ⟨a, b, c, rfl⟩ | ⟨a, b, c, d, rfl⟩ <;>
      rfl
  rw [empty, slots]
  exact assign_seated (by simpa [count] using most) nodup_nil

/-- Giving a layout's slots to agents of its number seats them. -/
theorem seats_of_assigned
    (count : agents.length = layout.paneCount) (ok : (do
      let assignment ← assign (fun _ => none) (layout.slots.zip agents)
      pure { layout, assignment, ratios := fun _ => none }) = Except.ok model) :
    model.Seats agents ∧ model.ratios = (fun _ => none) ∧ model.layout = layout := by
  obtain ⟨_, assigned, ok⟩ := bind_ok_iff.mp ok
  cases ok
  obtain ⟨named, distinct, isAssignment⟩ := (assign_slots count).mp assigned
  exact ⟨⟨count, isAssignment, named, distinct⟩, rfl, rfl⟩

theorem defaultLayoutFor_count {count : Nat}
    (isDefault : defaultLayoutFor count = some layout) : count = layout.paneCount := by
  rw [defaultLayoutFor.eq_def] at isDefault
  split at isDefault <;> cases isDefault <;> rfl

section

variable {prefer : Option CanonicalLayout}

/-- A model made of agents seats them, in the preferred layout if it has their number, with
no ratios of its own. -/
theorem fromAgents_seats (ok : fromAgents agents prefer = .ok model) :
    model.Seats agents ∧ model.ratios = (fun _ => none) ∧
      ∀ layout, prefer = some layout → layout.paneCount = agents.length → model.layout = layout := by
  simp only [fromAgents] at ok
  have byDefault : ∀ {fallback : Except PaneLayoutError CanonicalLayout}
      {continue_ : CanonicalLayout → Except PaneLayoutError PaneLayoutModel},
      (∀ layout, fallback = .ok layout → defaultLayoutFor agents.length = some layout) →
      (fallback >>= continue_) = .ok model →
        ∃ layout, agents.length = layout.paneCount ∧ continue_ layout = .ok model := by
    intro fallback continue_ isDefault found
    obtain ⟨layout, chosen, made⟩ := bind_ok_iff.mp found
    exact ⟨layout, defaultLayoutFor_count (isDefault layout chosen), made⟩
  split at ok
  next _ =>
    split at ok
    next fits =>
      obtain ⟨seats, ratios, isLayout⟩ := seats_of_assigned fits.symm ok
      refine ⟨seats, ratios, fun layout isPreferred _ => ?_⟩
      rw [isLayout]
      exact Option.some.inj isPreferred
    next differs =>
      obtain ⟨_, count, made⟩ := byDefault (by grind) ok
      obtain ⟨seats, ratios, _⟩ := seats_of_assigned count made
      refine ⟨seats, ratios, fun other isPreferred fits => absurd fits ?_⟩
      cases isPreferred
      exact differs
  next =>
    obtain ⟨_, count, made⟩ := byDefault (by grind) ok
    obtain ⟨seats, ratios, _⟩ := seats_of_assigned count made
    exact ⟨seats, ratios, fun other isPreferred => absurd isPreferred (by simp)⟩

/-- A transition that makes its model of a list of agents. -/
theorem map_fromAgents_ok (ok : (some <$> fromAgents agents prefer) = .ok (some model)) :
    fromAgents agents prefer = .ok model := by
  cases made : fromAgents agents prefer with
  | error => simp [made, Functor.map, Except.map] at ok
  | ok result =>
    obtain rfl : result = model := by simpa [made, Functor.map, Except.map] using ok
    rfl

end

/-! ## Transitions that keep or list the agents -/

variable {out : PaneLayoutModel}

/-- A model that seats a rearrangement of named, distinct agents. -/
theorem Seats.of_perm {order : List AgentId} (count : order.length = out.layout.paneCount)
    (seated : out.assignment = seat order) (same : order.Perm agents)
    (named : ∀ agent ∈ agents, agent ≠ "") (distinct : agents.Nodup) : out.Seats order :=
  ⟨count, seated, fun agent member => named agent (same.mem_iff.mp member), same.nodup_iff.mpr distinct⟩

theorem requireSlot_ok (ok : model.requireSlot agent = .ok slot) :
    model.slotOf agent = some slot := by
  rw [requireSlot] at ok
  split at ok
  next found => exact found.trans (congrArg some (Except.ok.inj ok))
  next => cases ok

/-- A swap exchanges two of the agents. -/
theorem swapAgents_seats {agentA agentB : AgentId} (seats : model.Seats agents)
    (ok : model.swapAgents agentA agentB = .ok out) : ∃ order, out.Seats order ∧ order.Perm agents := by
  obtain ⟨slotA, foundA, ok⟩ := bind_ok_iff.mp ok
  obtain ⟨slotB, foundB, ok⟩ := bind_ok_iff.mp ok
  have atA := seats.mem_of_slotOf (requireSlot_ok foundA)
  have atB := seats.mem_of_slotOf (requireSlot_ok foundB)
  cases ok
  split
  · exact ⟨agents, seats, .refl _⟩
  next _ =>
    have same : (agents.map (Equiv.swap agentA agentB)).Perm agents := by
      refine (perm_ext_iff_of_nodup (seats.distinct.map (Equiv.injective _)) seats.distinct).mpr ?_
      intro agent
      rw [mem_map_of_involutive (Equiv.swap_apply_self agentA agentB), Equiv.swap_apply_def]
      have memberA := mem_of_getElem? atA
      have memberB := mem_of_getElem? atB
      split
      next isA => simp [isA, memberA, memberB]
      next =>
        split
        next isB => simp [isB, memberA, memberB]
        next => rfl
    refine ⟨_, Seats.of_perm ?_ ?_ same seats.named seats.distinct, same⟩
    · rw [length_map]
      exact seats.count
    · funext used
      simp only [seat, getElem?_map, seats.seated]
      by_cases isB : used = slotB
      · subst isB
        simp [atB]
      · rw [Function.update_of_ne isB]
        by_cases isA : used = slotA
        · subst isA
          simp [atA]
        · rw [Function.update_of_ne isA, seat]
          cases held : agents[used.index]? with
          | none => rfl
          | some agent =>
            have other : ∀ {slot : SlotId} {name : AgentId}, agents[slot.index]? = some name →
                used ≠ slot → agent ≠ name := by
              rintro slot name atSlot elsewhere rfl
              have found := seats.slotOf atSlot
              rw [seats.slotOf held] at found
              exact elsewhere (Option.some.inj found)
            rw [Option.map_some, Equiv.swap_apply_of_ne_of_ne (other atA isA) (other atB isB)]

theorem fillSlots_length {assignment filled : SlotId → Option AgentId} {slots : List SlotId}
    (ok : fillSlots assignment slots agents = some filled) : slots.length = agents.length := by
  induction slots generalizing assignment agents with
  | nil =>
    cases agents with
    | nil => rfl
    | cons => exact absurd ok (by simp [fillSlots])
  | cons _ _ ih =>
    cases agents with
    | nil => exact absurd ok (by simp [fillSlots])
    | cons => exact congrArg (· + 1) (ih ok)

/-- Filling the slots beside the main one seats its agent among the others. -/
theorem fillSlots_main {target : CanonicalLayout} {mainSlot : SlotId} {selected : AgentId}
    {survivors : List AgentId} {filled : SlotId → Option AgentId}
    (isMain : mainSlotForLayout target = some mainSlot)
    (ok : fillSlots (Function.update (fun _ => none) mainSlot (some selected))
      (target.slots.filter (· ≠ mainSlot)) survivors = some filled) :
    filled = seat (survivors.insertIdx mainSlot.index selected) ∧
      mainSlot.index ≤ survivors.length ∧ survivors.length + 1 = target.paneCount := by
  have count := fillSlots_length ok
  cases target <;> simp only [mainSlotForLayout, reduceCtorEq,
    Option.some.injEq] at isMain <;> subst isMain
  all_goals
    simp only [CanonicalLayout.slots, CanonicalLayout.paneCount, SlotId.first,
      SlotId.all] at count ok ⊢
    rcases survivors with _ | ⟨a, _ | ⟨b, _ | ⟨c, _ | ⟨d, rest⟩⟩⟩⟩ <;> simp at count
    simp [fillSlots] at ok
    subst ok
    refine ⟨funext fun slot => ?_, by simp [SlotId.index], rfl⟩
    cases slot <;> simp [seat, SlotId.index, Function.update]

section

variable (seats : model.Seats agents) {newAgent : AgentId} {edge : EdgeDir}
include seats

/-- A swallow moves one agent to the main slot. -/
theorem applySwallow_seats {dir : SwallowDir}
    (ok : model.applySwallow slot dir = some out) : ∃ order, out.Seats order ∧ order.Perm agents := by
  simp only [applySwallow, Option.bind_eq_bind, Option.bind_eq_some_iff, Option.pure_def,
    Option.some.injEq] at ok
  obtain ⟨_, _, selected, isSelected, mainSlot, isMain, _, filled, rfl⟩ := ok
  rw [seats.readingOrder] at filled
  obtain ⟨rfl, inside, count⟩ := fillSlots_main isMain filled
  have member : selected ∈ agents := by
    rw [seats.seated] at isSelected
    exact mem_of_getElem? isSelected
  have same : ((agents.filter (· ≠ selected)).insertIdx mainSlot.index selected).Perm agents :=
    (perm_insertIdx _ _ inside).trans (seats.cons_filter_perm member)
  refine ⟨_, Seats.of_perm ?_ rfl same seats.named seats.distinct, same⟩
  rw [length_insertIdx_of_le_length inside]
  exact count

theorem splitInDirection_seats (ok : model.splitInDirection edge newAgent = .ok (some out)) :
    ∃ order, out.Seats order ∧ order.Perm (newAgent :: agents) := by
  obtain ⟨_, _, ok⟩ := bind_ok_iff.mp ok
  split at ok
  · cases ok
  next _ _ _ =>
    rw [seats.readingOrder] at ok
    refine ⟨_, (fromAgents_seats (map_fromAgents_ok ok)).1, ?_⟩
    split
    · exact .refl _
    · exact perm_append_singleton _ _

theorem splitInDirectionFromSlot_seats {fromSlot : SlotId}
    (ok : model.splitInDirectionFromSlot fromSlot edge newAgent = .ok (some out)) :
    ∃ order, out.Seats order ∧ order.Perm (newAgent :: agents) := by
  obtain ⟨_, _, ok⟩ := bind_ok_iff.mp ok
  rw [check_ok_iff] at ok
  obtain ⟨_, ok⟩ := ok
  split at ok
  · cases ok
  next _ _ =>
    rw [seats.readingOrder] at ok
    refine ⟨_, (fromAgents_seats (map_fromAgents_ok ok)).1, ?_⟩
    split
    next second =>
      refine perm_insertIdx _ _ ?_
      simp only [Bool.and_eq_true, decide_eq_true_eq] at second
      rw [seats.count, second.1.1]
      decide
    · exact perm_append_singleton _ _

theorem revive_seats {revived : AgentId} (ok : model.revive revived = .ok (some out)) :
    ∃ order, out.Seats order ∧ order.Perm (revived :: agents) := by
  obtain ⟨_, _, ok⟩ := bind_ok_iff.mp ok
  split at ok
  · cases ok
  · rw [seats.readingOrder] at ok
    exact ⟨_, (fromAgents_seats (map_fromAgents_ok ok)).1, perm_append_singleton _ _⟩

theorem reduceRemoving_seats (ok : model.reduceRemoving agent = .ok (some out)) :
    out.Seats (agents.filter (· ≠ agent)) ∧ agent ∈ agents := by
  obtain ⟨_, found, ok⟩ := bind_ok_iff.mp ok
  rw [seats.readingOrder] at ok
  have member := mem_of_getElem? (seats.mem_of_slotOf (requireSlot_ok found))
  simp only at ok
  split at ok
  · cases ok
  · exact ⟨(fromAgents_seats (map_fromAgents_ok ok)).1, member⟩

end

end PaneLayoutModel
end HydraTerm.Shell
