import HydraTerm.Daemon.AttachmentFence
import HydraTerm.Grid.TermGrid

/-!
# Sessions and the inputs of a spawn

A session of the daemon's map is one child process with its grid. The map's operations read
four things of it: the grid's generation, the exit latch, the attachment fence and, on
Windows, the retirement that owns it. The process, its terminal and the grid's contents are
not part of this model; a spawn's success or failure is an input.

The two platforms differ in several branches, so the platform is a parameter. File system
queries and random identifiers are inputs of each request as well: nothing is assumed of
them, except that the drawn identifiers do vary, without which minting one that differs from
a given text would not end.
-/

namespace HydraTerm.Daemon

open Grid

/-- The platform the daemon is built for. -/
inductive Platform where
  | unix
  | windows
  deriving DecidableEq

/-- The kinds of a path's components. -/
inductive PathComponent where
  | pathPrefix
  | rootDir
  | curDir
  | parentDir
  | normal
  deriving DecidableEq

/-- What the checks read of a file's metadata. -/
structure FileMetadata where
  isFile : Bool
  mode : Nat

/-- The answers of the file system while one request is handled. -/
structure FileSystem where
  isDir : String → Bool
  isAbsolute : String → Bool
  components : String → List PathComponent
  metadata : String → Option FileMetadata

/-- Random identifiers in the order they are drawn. -/
structure UuidDraws where
  draw : Nat → SessionGeneration
  varied : ∀ excluded, ∃ index, draw index ≠ excluded

/-- Mint a generation. -/
def UuidDraws.new (uuids : UuidDraws) : SessionGeneration := uuids.draw 0

/-- Mint a generation, drawing again while it equals the excluded one. -/
def UuidDraws.newExcluding (uuids : UuidDraws) (excluded : SessionGeneration) : SessionGeneration :=
  uuids.draw (Nat.find (uuids.varied excluded))

/-- The account a headless child runs under. -/
structure ChildEnvironment where
  home : String
  shell : String

/-- The text has a character that ends a line or a C string. -/
def hasLineBreakOrNul (text : String) : Bool :=
  text.toList.any (fun char => char == '\x00' || char == '\n' || char == '\r')

variable (platform : Platform) (files : FileSystem)

/-- An absolute path without relative components. -/
def normalizedAbsolute (path : String) : Bool :=
  files.isAbsolute path && (files.components path).all (fun component =>
    component == .rootDir || component == .normal
      || (platform == .windows && component == .pathPrefix))

/-- The refusal of every invalid child environment. -/
def childEnvironmentInvalid : String := "headless child environment is invalid"

/-- Check the child environment of a request, if it has one. -/
def validateChildEnvironment :
    Option ChildEnvironment → Except String Unit
  | none => .ok ()
  | some environment =>
    if environment.home.isEmpty || environment.shell.isEmpty
        || decide (environment.home.utf8ByteSize > 4096)
        || decide (environment.shell.utf8ByteSize > 4096)
        || hasLineBreakOrNul environment.home || hasLineBreakOrNul environment.shell
        || !normalizedAbsolute platform files environment.home
        || !normalizedAbsolute platform files environment.shell
        || files.components environment.home == [.rootDir]
        || !files.isDir environment.home then
      .error childEnvironmentInvalid
    else
      match files.metadata environment.shell with
      | none => .error childEnvironmentInvalid
      | some metadata =>
        let refused := match platform with
          | .unix => !metadata.isFile || metadata.mode &&& 0o111 == 0 || metadata.mode &&& 0o022 != 0
          | .windows => !metadata.isFile
        if refused then .error childEnvironmentInvalid else .ok ()

/-- What a start request asks to spawn. -/
structure StartRequest where
  id : SessionId
  cwd : String
  command : String
  args : List String
  childEnvironment : Option ChildEnvironment
  cols : Nat
  rows : Nat

/-- The text has a NUL character. -/
def hasNul (text : String) : Bool := text.toList.any (· == '\x00')

/-- The checks that both kinds of start make of what is to be spawned, in order. The
conditional start refuses with one reason for all of them. -/
def checkSpawnInputs (request : StartRequest) :
    Except String Unit := do
  if request.command.isEmpty then .error "command must not be empty"
  if hasNul request.command || request.args.any hasNul then
    .error "command and args must not contain NUL bytes"
  validateChildEnvironment platform files request.childEnvironment
  if !request.cwd.isEmpty && !files.isDir request.cwd then
    .error s!"cwd is not a directory: {request.cwd}"
  let (cols, rows) := normalizeDims request.cols request.rows
  if !fitsSnapshotBudget cols rows then
    .error (s!"grid {cols}x{rows} exceeds the snapshot cell budget ({maxSnapshotCells} cells); "
      ++ "request a smaller size")

/-- What the surroundings answer while a start request is handled: the file system, the
identifiers drawn, whether the process could be spawned, and which of the sessions that may
go the map's iteration meets first. -/
structure SpawnWorld where
  files : FileSystem
  uuids : UuidDraws
  spawned : Except String Unit
  scan : Nat

/-- A session of the map. -/
structure Session where
  generation : SessionGeneration
  exitState : Option (Option Int)
  fence : AttachmentFence
  retirement : Option Nat
  deriving DecidableEq

/-- A freshly spawned session: running, unowned. -/
def Session.spawn (generation : SessionGeneration) : Session where
  generation := generation
  exitState := none
  fence := .default
  retirement := none

namespace Session

/-- Active guards or pending handoffs protect the session. -/
def attachmentInUse (session : Session) : Bool := session.fence.inUse

/-- Acquire a guard. A session that is being retired takes no new attachment. -/
def acquireAttachment (platform : Platform) (session : Session) (handoff : Option AttachmentHandoff)
    (ownerNonce : Nat) : Except String (Session × AttachmentGuard) :=
  if platform = .windows ∧ session.retirement.isSome then
    .error "session retirement is in progress"
  else
    match session.fence.acquire handoff ownerNonce with
    | .error refusal => .error refusal.message
    | .ok (fence, guard) => .ok ({ session with fence := fence }, guard)

/-- The session's slot may be given to another: it has exited and nothing owns it. -/
def canReclaim (platform : Platform) (session : Session) : Bool :=
  if platform = .windows ∧ session.retirement.isSome then false
  else session.exitState.isSome && !session.attachmentInUse

variable {platform} {session : Session}

/-- A session that is running or attached is not reclaimable. -/
theorem reclaimable_exited (reclaimable : session.canReclaim platform = true) :
    session.exitState.isSome = true ∧ session.attachmentInUse = false := by
  unfold canReclaim at reclaimable
  split at reclaimable
  · cases reclaimable
  · simpa using reclaimable

/-- A session that has exited, is not attached and is not being retired is reclaimable. -/
theorem canReclaim_of_exited
    (free : ¬(platform = .windows ∧ session.retirement.isSome)) (exited : session.exitState.isSome = true)
    (unowned : session.attachmentInUse = false) : session.canReclaim platform = true := by
  unfold canReclaim
  rw [if_neg free, exited, unowned]
  rfl

end Session

end HydraTerm.Daemon
