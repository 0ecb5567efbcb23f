import HydraTerm.Lib.Runs
import HydraTerm.Remote.InputBridge

/-!
# What the agent forwards of a daemon's lines

An attach asks for raw output or for the structured screen, and sets up the route of its session. The
mode goes into one flag of the connection, before the attach is sent, and the reader looks at
this flag when it drops the lines of the screen. So the last attach decides for every session.

The caches that a line also updates play no part in what is forwarded and are left out. How a queue and
the daemon answer comes with each event.
-/

namespace HydraTerm.Remote

open Lib

/-! ## Routes -/

/-- `DaemonEventClass`. -/
inductive DaemonEventClass
  | grid
  | damage
  | output
  | resyncRequired
  | sessions
  | other
  deriving DecidableEq

/-- `output_label`. -/
def DaemonEventClass.outputLabel : DaemonEventClass → String
  | .grid => "grid"
  | .damage => "damage"
  | .output => "output"
  | .resyncRequired => "resync_required"
  | .sessions | .other => "other"

/-- `DaemonOutputAttachment`. -/
inductive DaemonOutputAttachment
  | legacy
  | unconfirmed
  | exact (generation : Nat)

namespace DaemonOutputRoutes

variable (routes : DaemonOutputRoutes) (sessionId : String)

/-- The routes with another route for a session. -/
def set (route : Option DaemonSessionOutputRoute) : DaemonOutputRoutes :=
  { routes with sessions := Function.update routes.sessions sessionId route }

/-- `begin_attach`, with the route that it replaces. -/
def beginAttach (outputGeneration : Option Nat) :
    Option DaemonSessionOutputRoute × DaemonOutputRoutes :=
  if !routes.outputGenerationEcho then (none, routes)
  else (routes.sessions sessionId, routes.set sessionId (some (outputGeneration.elim .legacy .pending)))

/-- `restore_attach`. -/
def restoreAttach (prior : Option DaemonSessionOutputRoute) : DaemonOutputRoutes :=
  if !routes.outputGenerationEcho then routes else routes.set sessionId prior

/-- `observe`. A live line owns itself; a Grid that echoes the generation of a pending attach confirms
it, and one that echoes another generation than that of a confirmed attach is rejected. -/
def observe (event : DaemonEventClass) (outputGeneration liveOutputGeneration : Option Nat) :
    DaemonOutputAttachment × DaemonOutputRoutes :=
  if !routes.outputGenerationEcho then (.legacy, routes)
  else
    match liveOutputGeneration with
    | some generation => (.exact generation, routes)
    | none =>
      match routes.sessions sessionId with
      | some (.pending desired) =>
        if event = .grid ∧ outputGeneration = some desired then
          (.exact desired, routes.set sessionId (some (.confirmed desired)))
        else (.unconfirmed, routes)
      | some (.confirmed desired) =>
        if event = .grid ∧ outputGeneration.any (· ≠ desired) then (.unconfirmed, routes)
        else (.exact desired, routes)
      | some .legacy => (.legacy, routes)
      | none => (.unconfirmed, routes)

end DaemonOutputRoutes

/-! ## The connection -/

/-- The fields of `DaemonLineMetadata` that say where a line goes. -/
structure DaemonLineMetadata where
  event : DaemonEventClass
  sessionId : Option String
  outputGeneration : Option Nat
  liveOutputGeneration : Option Nat

/-- The line shows a screen, or asks for one. -/
def DaemonLineMetadata.IsStructured (line : DaemonLineMetadata) : Prop :=
  line.event = .grid ∨ line.event = .damage ∨ line.event = .resyncRequired

/-- One daemon connection: its flag, its routes and the lines that went to the peer. -/
structure OutputConnection where
  rawOutput : Bool
  routes : DaemonOutputRoutes
  forwarded : List (DaemonLineMetadata × DaemonOutputAttachment)

/-- How far an attach gets: the request queue refuses it, the daemon does, or it is served. -/
inductive AttachOutcome
  | unsent
  | refused
  | served
  deriving DecidableEq

/-- What happens on a connection. -/
inductive OutputEvent
  | attach (id : String) (raw : Bool) (outputGeneration : Option Nat) (outcome : AttachOutcome)
  | detach (id : String)
  | line (line : DaemonLineMetadata) (room : Bool)

namespace OutputConnection

def new (outputGenerationEcho : Bool) : OutputConnection :=
  ⟨false, ⟨outputGenerationEcho, fun _ => none⟩, []⟩

variable (connection : OutputConnection)

/-- `send_attach`. -/
def sendAttach (id : String) (raw : Bool)
    (outputGeneration : Option Nat) (queueTakes : Bool) : OutputConnection :=
  let connection := { connection with rawOutput := raw }
  let (prior, routes) := connection.routes.beginAttach id outputGeneration
  if queueTakes then { connection with routes := routes }
  else { connection with routes := routes.restoreAttach id prior }

/-- What the event reader does with a line. It stops, and the connection with it, when the output queue
has no room. -/
def readLine (line : DaemonLineMetadata) (room : Bool) : Option OutputConnection :=
  match line.sessionId with
  | none => some connection
  | some sessionId =>
    let ev := line.event.outputLabel
    let (attachment, routes) := connection.routes.observe sessionId line.event line.outputGeneration
      line.liveOutputGeneration
    if connection.rawOutput && (ev = "grid" || ev = "damage" || ev = "resync_required") then
      some { connection with routes := routes }
    else if room then
      some { connection with
        routes := routes, forwarded := connection.forwarded ++ [(line, attachment)] }
    else none

/-- The connection after an event, unless the event ends it. -/
def next : OutputEvent → Option OutputConnection
  | .attach id raw outputGeneration outcome =>
    some (connection.sendAttach id raw outputGeneration (outcome ≠ .unsent))
  | .detach id => some { connection with routes := connection.routes.set id none }
  | .line line room => connection.readLine line room

/-- One event on a connection. -/
def Takes (before : OutputConnection) (event : OutputEvent) (after : OutputConnection) : Prop :=
  before.next event = some after

/-- The line goes to the peer. -/
def Forwards (line : DaemonLineMetadata) (room : Bool) : Prop :=
  ∃ after attachment, connection.Takes (.line line room) after ∧
    after.forwarded = connection.forwarded ++ [(line, attachment)]

end OutputConnection

/-! ## The last attach decides -/

/-- The mode of the last attach, however far it got. -/
def OutputEvent.modeAfter (raw : Bool) : OutputEvent → Bool
  | .attach _ asked _ _ => asked
  | _ => raw

def lastMode (past : List OutputEvent) : Bool := past.foldl OutputEvent.modeAfter false

/-- The mode in which the daemon serves a session to this connection. -/
def OutputEvent.servedAfter (id : String) (mode : Option Bool) : OutputEvent → Option Bool
  | .attach other raw _ .served => if other = id then some raw else mode
  | .detach other => if other = id then none else mode
  | _ => mode

def servedMode (id : String) (past : List OutputEvent) : Option Bool :=
  past.foldl (OutputEvent.servedAfter id) none

namespace OutputConnection

variable {connection before after last : OutputConnection} {past : List OutputEvent}
  {event : OutputEvent} {line : DaemonLineMetadata} {id : String} {room echo : Bool}

/-- The flag holds the mode of the last attach; no line and no detach changes it. -/
theorem Takes.rawOutput (taken : before.Takes event after) :
    after.rawOutput = event.modeAfter before.rawOutput := by
  cases event with
  | attach =>
    obtain rfl := Option.some.inj taken
    dsimp only [sendAttach]
    split <;> rfl
  | detach => rw [← Option.some.inj taken]; rfl
  | line =>
    simp only [Takes, next, readLine] at taken
    split at taken
    · rw [← Option.some.inj taken]; rfl
    · split_ifs at taken <;> rw [← Option.some.inj taken] <;> rfl

/-- A line of the screen goes to the peer exactly when the flag is not set and there is room. -/
theorem forwards_iff (isOf : line.sessionId = some id) (structured : line.IsStructured) :
    connection.Forwards line room ↔ connection.rawOutput = false ∧ room = true := by
  have label : (line.event.outputLabel = "grid" || line.event.outputLabel = "damage" ||
      line.event.outputLabel = "resync_required") = true := by
    rcases structured with isEvent | isEvent | isEvent <;> rw [isEvent] <;> decide
  simp only [Forwards, Takes, next, readLine, isOf, label, Bool.and_true]
  cases connection.rawOutput <;> cases room <;> simp

/-- One flag decides for the whole connection. A Grid, Damage or ResyncRequired line goes to the peer
exactly when the last attach that was asked for on the connection, of whichever session and whether
or not it succeeded, was structured, and the output queue has room. -/
theorem structured_lines_forwarded_iff (run : Run Takes (new echo) past last)
    (isOf : line.sessionId = some id) (structured : line.IsStructured) :
    last.Forwards line room ↔ lastMode past = false ∧ room = true := by
  have held : last.rawOutput = lastMode ([] ++ past) := by
    refine @Run.history _ _ Takes _ _ _ run (fun past last => last.rawOutput = lastMode past) [] rfl ?_
    intro past before event after taken held
    rw [taken.rawOutput, held, lastMode, lastMode, List.foldl_append]
    rfl
  rw [forwards_iff isOf structured, held, List.nil_append]

/-- The Grid that answers the first attach of a session. -/
def firstGrid : DaemonLineMetadata := ⟨.grid, some "s", some 1, none⟩

/-- The first Grid of a session goes to the peer after another session was attached raw before it. -/
theorem structured_lines_forwarded_afterRaw :
    let past := [.attach "t" true (some 2) .served, .line ⟨.output, some "t", none, some 2⟩ true,
      .attach "s" false (some 1) .served]
    ∃ last, Run Takes (new true) past last ∧ last.Forwards firstGrid true := by
  have run : Run Takes (new true) [.attach "t" true (some 2) .served,
      .line ⟨.output, some "t", none, some 2⟩ true, .attach "s" false (some 1) .served] _ :=
    .cons rfl (.cons rfl (.single rfl))
  exact ⟨_, run, (structured_lines_forwarded_iff run rfl (.inl rfl)).mpr ⟨rfl, rfl⟩⟩

/-- A raw attach of another session stops the lines of a structured one, even one that the daemon
refuses. -/
theorem raw_attach_silences_others :
    let past := [.attach "s" false (some 1) .served, .attach "t" true (some 2) .refused]
    ∃ last, Run Takes (new true) past last ∧ servedMode "s" past = some false ∧
      ¬last.Forwards firstGrid true := by
  refine ⟨_, .cons rfl (.single rfl), rfl, ?_⟩
  rintro ⟨_, attachment, ⟨rfl⟩, forwarded⟩
  cases forwarded

end OutputConnection

end HydraTerm.Remote
