import HydraTerm.Grid.SmallTerminal
import HydraTerm.Mirror.Invariant

/-!
# An attached client mirrors the daemon's grid

For every interleaving of the session, its forwarders, the request handler and the client in
which no revision reaches the ceiling and row stamps are sound: the client's painted grid
shows what the session's grid showed at the client's current generation and revision, damage
is applied only to the base it names, and a forwarder's damage continues from the last
screen that forwarder sent.
-/

namespace HydraTerm.Mirror

open Grid Daemon Renderer Lib

universe u
variable {ε : Type u}

/-- The session had a grid at this generation and revision, and it showed this screen. -/
def ShowedAt (engine : Engine ε) (system : System ε) (generation : SessionGeneration)
    (revision : Nat) (screen : Screen) : Prop :=
  (∃ grid ∈ system.past, grid.generation = generation ∧ grid.revision = revision)
    ∧ ∀ grid ∈ system.past, grid.generation = generation → grid.revision = revision →
      screenOf (grid.snapshot engine).toGridSnapshot = screen

/-- The invariant of the whole system. -/
structure SystemInv (engine : Engine ε) (system : System ε) : Prop where
  daemon : DaemonInv engine system
  client : ClientInv engine system

/-- It holds before anything happens. -/
theorem systemInv_new (engine : Engine ε) (id : SessionId) (cols rows : Nat)
    (generation : SessionGeneration) :
    SystemInv engine (System.new engine id cols rows generation) := by
  constructor
  · refine ⟨pastInv_new engine cols rows generation, trivial, ?_, ?_⟩
    · rintro forwarder ⟨⟩
    · rintro event ⟨⟩
  · refine ⟨viewInv_new id, ?_⟩
    rintro held ⟨⟩

/-- It holds in every state of every sound interleaving. -/
theorem systemInv_run {engine : Engine ε} {first last : System ε} {actions : List Action}
    (run : Run (SoundStep engine) first actions last) (inv : SystemInv engine first) :
    SystemInv engine last := by
  apply run.invariant inv
  intro before action after step holds
  exact ⟨daemonInv_step step holds.daemon, clientInv_step step holds.daemon holds.client⟩

/-- In every state of every interleaving in which no revision reaches the ceiling and row
stamps are sound, the client's screen is the session's at its current generation and
revision; a frame the client would apply next continues from exactly that pair; and a frame
a forwarder would send next continues from the last screen it sent. -/
theorem attached_client_mirrors (engine : Engine ε) (id : SessionId) (cols rows : Nat)
    (generation : SessionGeneration) {actions : List Action} {system : System ε}
    (run : Run (SoundStep engine) (System.new engine id cols rows generation) actions system) :
    (∀ gen rev, system.view.sync.current = some (gen, rev) →
      ∃ held, system.view.held = some held ∧ ShowedAt engine system gen rev (screenOf held))
    ∧ (∀ frame rest held sync grid, system.wire = .damage frame :: rest →
      system.view.held = some held →
      system.view.sync.onDamage frame.id frame held = (sync, .applied grid) →
      system.view.sync.current = some (frame.generation, frame.baseRevision)
        ∧ held.generation = frame.generation ∧ held.revision = frame.baseRevision)
    ∧ (∀ forwarder ∈ system.forwarders, ∀ frame rest,
      forwarder.stage.pending = .damage frame :: rest →
      lastSentRevision forwarder.sent = some frame.baseRevision) := by
  obtain ⟨daemon, client⟩ := systemInv_run run (systemInv_new engine id cols rows generation)
  refine ⟨?_, ?_, ?_⟩
  · intro gen rev current
    have painted := client.view.painted
    rw [current] at painted
    cases holding : system.view.held with
    | none =>
      rw [holding] at painted
      contradiction
    | some held =>
      rw [holding, Option.map_some] at painted
      cases painted
      obtain ⟨shown, member, sameGeneration, sameRevision, screen⟩ := client.mirrors held holding
      refine ⟨held, rfl, ⟨shown, member, sameGeneration, sameRevision⟩, ?_⟩
      intro other otherMember _ otherRevision
      have sameGrid : other = shown :=
        daemon.past.unique other otherMember shown member (otherRevision.trans sameRevision.symm)
      rw [sameGrid, screen]
  · intro frame rest held sync grid _ holding applied
    have kind := onDamage_answer system.view.sync frame.id frame held
    rw [applied] at kind
    cases kind with
    | applied _ _ applicable =>
      have painted := client.view.painted
      rw [applicable.continues, holding, Option.map_some] at painted
      obtain ⟨sameGeneration, sameRevision⟩ := Prod.mk.inj (Option.some.inj painted)
      exact ⟨applicable.continues, sameGeneration.symm, sameRevision.symm⟩
  · intro forwarder member frame rest pending
    have sound := daemon.forwarders forwarder member
    obtain ⟨_, continues, _⟩ := sound.stage.send sound.held pending
    exact continues frame rfl

/-- A client attaches to a blank session, receives the restore grid, and then the damage of
the first output. -/
def firstLetters : List Action :=
  [.attach false, .handle, .deliver true, .output (ascii "ab") [] "h", .forward 0, .forward 0,
    .forward 0, .deliver true]

/-- The session of that client before it attaches. -/
def blankSession : System SmallTerm := System.new smallEngine "s" 4 2 "g"

/-- After the damage the client is at revision one and shows what the session shows. -/
theorem attached_client_mirrors_letters :
    (firstLetters.foldl (System.step smallEngine) blankSession).view.sync.current = some ("g", 1)
    ∧ ∃ held, (firstLetters.foldl (System.step smallEngine) blankSession).view.held = some held
      ∧ ShowedAt smallEngine (firstLetters.foldl (System.step smallEngine) blankSession) "g" 1
        (screenOf held) :=
  have current : (firstLetters.foldl (System.step smallEngine) blankSession).view.sync.current
      = some ("g", 1) := by decide +kernel
  ⟨current, (attached_client_mirrors smallEngine "s" 4 2 "g"
    (.of_checks (soundStep_of_check smallEngine) (by decide +kernel))).1 "g" 1 current⟩

end HydraTerm.Mirror
