import HydraTerm.Lib.Maps

/-!
# Which session a channel carries

The browser keeps two maps for the sessions it is attached to, from a session to its channel for
input and from a channel to its session for output. They are written separately. A session that is
attached again gives up the channel it had; a channel that is given to another session is not taken
from the session that had it.
-/

namespace HydraTerm.Browser

open Lib

/-- The maps, and the session that input goes to. -/
structure MultiAttachManager where
  bySession : AList (fun _ : String => Nat)
  byChannel : AList (fun _ : Nat => String)
  active : Option String

namespace MultiAttachManager

def new : MultiAttachManager := ⟨∅, ∅, none⟩

variable (manager : MultiAttachManager) (sessionId : String)

def onAttached (channel : Nat) :
    MultiAttachManager where
  bySession := put manager.bySession sessionId channel
  byChannel :=
    let released := match manager.bySession.lookup sessionId with
      | some prevChannel =>
        if prevChannel ≠ channel then manager.byChannel.erase prevChannel else manager.byChannel
      | none => manager.byChannel
    put released channel sessionId
  active := some sessionId

def detachSession : MultiAttachManager :=
  match manager.bySession.lookup sessionId with
  | none => manager
  | some channel =>
    let bySession := manager.bySession.erase sessionId
    { bySession := bySession
      byChannel := manager.byChannel.erase channel
      -- The latest of the remaining sessions; a map lists its latest key first.
      active := if manager.active = some sessionId then bySession.keys.head? else manager.active }

def setActive : MultiAttachManager :=
  if sessionId ∈ manager.bySession then { manager with active := some sessionId } else manager

def channelForSession : Option Nat :=
  manager.bySession.lookup sessionId

def sessionForChannel (channel : Nat) : Option String :=
  manager.byChannel.lookup channel

def isAttached : Prop :=
  sessionId ∈ manager.bySession

/-- The calls that change the registry. -/
inductive Call where
  | onAttached (sessionId : String) (channel : Nat)
  | detachSession (sessionId : String)
  | setActive (sessionId : String)
  | clear

def call : Call → MultiAttachManager
  | .onAttached sessionId channel => manager.onAttached sessionId channel
  | .detachSession sessionId => manager.detachSession sessionId
  | .setActive sessionId => manager.setActive sessionId
  | .clear => new

/-- The registry after a sequence of calls. -/
def after (calls : List Call) : MultiAttachManager := calls.foldl call new

/-- Output of a channel is shown by the session whose input uses the channel. -/
def Inverse : Prop :=
  ∀ sessionId channel, manager.channelForSession sessionId = some channel ↔
    manager.sessionForChannel channel = some sessionId

/-- The channel of an attach carries no other session. -/
def Free : Call → Prop
  | .onAttached sessionId channel =>
    ∀ other, manager.sessionForChannel channel = some other → other = sessionId
  | _ => True

variable {manager sessionId} {channel : Nat}

theorem channelForSession_onAttached (other : String) :
    (manager.onAttached sessionId channel).channelForSession other =
      if other = sessionId then some channel else manager.channelForSession other :=
  lookup_put _ _ _ _

/-- An attach gives the session its channel, and takes the one before from it. -/
theorem sessionForChannel_onAttached (other : Nat) :
    (manager.onAttached sessionId channel).sessionForChannel other =
      if other = channel then some sessionId
      else if manager.channelForSession sessionId = some other then none
      else manager.sessionForChannel other := by
  simp only [onAttached, sessionForChannel, lookup_put, channelForSession]
  split
  · rfl
  next different =>
    obtain found | ⟨prev, found⟩ := Option.eq_none_or_eq_some (manager.bySession.lookup sessionId)
    · simp [found]
    · by_cases kept : prev = channel
      · simp [found, kept, Ne.symm different]
      · simp [found, kept, lookup_erase_eq, eq_comm]

/-- An attach keeps the maps inverse just when its channel was free. -/
theorem Inverse.onAttached_iff (inverse : manager.Inverse) :
    (manager.onAttached sessionId channel).Inverse ↔
      manager.Free (.onAttached sessionId channel) := by
  constructor
  · intro after other carries
    by_contra different
    have stays : (manager.onAttached sessionId channel).channelForSession other = some channel := by
      rw [channelForSession_onAttached, if_neg different]
      exact (inverse other channel).mpr carries
    rw [after other channel, sessionForChannel_onAttached, if_pos rfl] at stays
    exact different (Option.some.inj stays).symm
  · intro free other line
    rw [channelForSession_onAttached, sessionForChannel_onAttached]
    by_cases isSession : other = sessionId
    · subst isSession
      by_cases isChannel : line = channel
      · simp [isChannel]
      · simp only [if_pos, if_neg isChannel, Option.some.injEq, Ne.symm isChannel, false_iff]
        split
        · simp
        · next notPrev => exact fun carries => notPrev ((inverse other line).mpr carries)
    · rw [if_neg isSession, inverse other line]
      by_cases isChannel : line = channel
      · subst isChannel
        rw [if_pos rfl]
        exact ⟨fun carries => absurd (free other carries) isSession,
          fun same => absurd (Option.some.inj same).symm isSession⟩
      · rw [if_neg isChannel]
        split
        · next prev =>
          have carries := (inverse sessionId line).mp prev
          simp [carries, Ne.symm isSession]
        · rfl

theorem Inverse.detachSession (inverse : manager.Inverse) :
    (manager.detachSession sessionId).Inverse := by
  unfold MultiAttachManager.detachSession
  split
  · exact inverse
  next channel found =>
    intro other line
    simp only [channelForSession, sessionForChannel, lookup_erase_eq]
    have same := inverse other line
    have bound := (inverse sessionId line).mp
    have back := (inverse sessionId channel).mp found
    simp only [channelForSession, sessionForChannel] at same bound back
    by_cases isSession : other = sessionId <;> by_cases isChannel : line = channel
    · simp [isSession, isChannel]
    · subst isSession
      simp only [if_pos, if_neg isChannel, reduceCtorEq, false_iff, ← same, found]
      exact fun same => isChannel (Option.some.inj same).symm
    · subst isChannel
      simp only [if_neg isSession, if_pos, reduceCtorEq, iff_false, same, back]
      exact fun same => isSession (Option.some.inj same).symm
    · simp [if_neg isSession, if_neg isChannel, same]

/-- A call keeps the maps inverse just when it attaches to a free channel, if it attaches. -/
theorem Inverse.call_iff (inverse : manager.Inverse) (call : Call) :
    (manager.call call).Inverse ↔ manager.Free call := by
  cases call with
  | onAttached => exact inverse.onAttached_iff
  | detachSession => exact iff_of_true inverse.detachSession trivial
  | setActive =>
    refine iff_of_true ?_ trivial
    simp only [MultiAttachManager.call, setActive]
    split <;> exact inverse
  | clear => exact iff_of_true (fun _ _ => by simp [MultiAttachManager.call, new, channelForSession,
      sessionForChannel]) trivial

/-- Input goes to an attached session. -/
theorem call_active (attached : ∀ sessionId, manager.active = some sessionId →
      manager.isAttached sessionId) (call : Call) :
    ∀ sessionId, (manager.call call).active = some sessionId →
      (manager.call call).isAttached sessionId := by
  cases call with
  | onAttached sessionId =>
    rintro _ ⟨⟩
    exact mem_of_lookup ((channelForSession_onAttached sessionId).trans (if_pos rfl))
  | detachSession =>
    simp only [MultiAttachManager.call, MultiAttachManager.detachSession]
    split
    · exact attached
    · intro other isActive
      split at isActive
      · exact AList.mem_keys.mpr (List.mem_of_mem_head? isActive)
      next different =>
        refine AList.mem_erase.mpr ⟨?_, attached other isActive⟩
        rintro rfl
        exact different isActive
  | setActive =>
    simp only [MultiAttachManager.call, setActive]
    split
    · rintro _ ⟨⟩
      assumption
    · exact attached
  | clear =>
    rintro _ ⟨⟩

/-- After every sequence of calls input goes to an attached session. The maps are inverse throughout
a sequence exactly when each attach found its channel free or with the same session. -/
theorem attach_registry (calls : List Call) :
    (∀ sessionId, (after calls).active = some sessionId → (after calls).isAttached sessionId) ∧
      ((∀ before later, calls = before ++ later → (after before).Inverse) ↔
        ∀ before call later, calls = before ++ call :: later → (after before).Free call) := by
  refine ⟨?_, fun always before call later split => ?_, fun free before later split => ?_⟩
  · induction calls using List.reverseRecOn with
    | nil => rintro _ ⟨⟩
    | append_singleton _ call ih =>
      rw [after, List.foldl_concat]
      exact call_active ih call
  · have next := always (before ++ [call]) later (by simpa using split)
    rw [after, List.foldl_concat] at next
    exact ((always before (call :: later) split).call_iff call).mp next
  · induction before using List.reverseRecOn generalizing later with
    | nil => exact fun _ _ => by simp [after, new, channelForSession, sessionForChannel]
    | append_singleton before call ih =>
      have split' : calls = before ++ call :: later := by simpa using split
      rw [after, List.foldl_concat]
      exact ((ih _ split').call_iff call).mpr (free before call later split')

/-- A channel that is reused without a detach: input for the first session goes to the second. -/
theorem reused_channel_not_inverse :
    (after [.onAttached "a" 1, .onAttached "b" 1]).channelForSession "a" = some 1 ∧
      (after [.onAttached "a" 1, .onAttached "b" 1]).sessionForChannel 1 = some "b" ∧
      ¬ (after [.onAttached "a" 1, .onAttached "b" 1]).Inverse := by
  refine ⟨by decide, by decide, fun inverse => ?_⟩
  exact absurd ((inverse "a" 1).mp (by decide)) (by decide)

end MultiAttachManager

end HydraTerm.Browser
