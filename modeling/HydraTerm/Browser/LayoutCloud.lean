import HydraTerm.Lib.Runs

/-!
# Saving the browser's layout

The browser keeps one layout that waits to be saved, for whichever device, and sends it when a timer
fires or on demand. It does not wait for the PUT before. So a layout is saved unless that of another
device takes its place while it waits, or an earlier one of its device arrives after it.
-/

namespace HydraTerm.Browser

open Lib List

/-- The body of a PUT. -/
structure LayoutPut where
  deviceId : String
  layout : String

/-- The client, with the PUTs on the way and the rows of the server. -/
structure RemoteLayoutCloud where
  pendingTimer : Bool
  pending : Option LayoutPut
  inFlight : List LayoutPut
  rows : String → Option String

/-- A call, the timer, or a PUT that reaches the server. -/
inductive CloudEvent
  | putLayout (deviceId layout : String)
  | timerFires
  | flush
  | arrives (put : LayoutPut)

namespace RemoteLayoutCloud

variable {before after first last : RemoteLayoutCloud} {event : CloudEvent} {past : List CloudEvent}
  {deviceId layout : String} {newest : Option String}

def new (rows : String → Option String) : RemoteLayoutCloud := ⟨false, none, [], rows⟩

section

variable (cloud : RemoteLayoutCloud) (deviceId : String)

def putLayout (deviceId layout : String) : RemoteLayoutCloud :=
  { cloud with pending := some ⟨deviceId, layout⟩, pendingTimer := true }

def flush : RemoteLayoutCloud :=
  let cloud := { cloud with pendingTimer := false }
  match cloud.pending with
  | none => cloud
  | some put => { cloud with pending := none, inFlight := cloud.inFlight ++ [put] }

variable (before : RemoteLayoutCloud) in
/-- The PUTs may reach the server in any order. -/
inductive Takes : CloudEvent → RemoteLayoutCloud → Prop
  | putLayout (deviceId layout : String) :
      Takes (.putLayout deviceId layout) (before.putLayout deviceId layout)
  | timerFires : before.pendingTimer = true → Takes .timerFires before.flush
  | flush : Takes .flush before.flush
  | arrives {put : LayoutPut} {earlier later : List LayoutPut} :
      before.inFlight = earlier ++ put :: later →
      Takes (.arrives put) { before with
        inFlight := earlier ++ later
        rows := Function.update before.rows put.deviceId (some put.layout) }

/-- The newest layout of a device after an event. -/
def newestAfter (newest : Option String) : CloudEvent → Option String
  | .putLayout other layout => if other = deviceId then some layout else newest
  | _ => newest

/-- The last layout that was put for a device. -/
def lastPut (past : List CloudEvent) : Option String :=
  past.foldl (newestAfter deviceId) none

/-- The PUTs for a device that are on the way. -/
def sent : List LayoutPut :=
  cloud.inFlight.filter (·.deviceId = deviceId)

/-- The layout that waits, if it is the device's. -/
def waiting : List LayoutPut :=
  cloud.pending.toList.filter (·.deviceId = deviceId)

/-- A step that neither displaces a waiting layout of the device nor sends it beside an earlier one. -/
def Spares (before : RemoteLayoutCloud) (event : CloudEvent) (after : RemoteLayoutCloud) : Prop :=
  before.Takes event after ∧ match event with
    | .putLayout other _ => other = deviceId ∨ before.waiting deviceId = []
    | .timerFires | .flush => before.sent deviceId = [] ∨ before.waiting deviceId = []
    | .arrives _ => True

/-- The newest layout of a device waits, or else is the one on the way, or else is in the row. -/
structure Follows (newest : Option String) (cloud : RemoteLayoutCloud) : Prop where
  timer : cloud.pending.isSome → cloud.pendingTimer = true
  single : (cloud.sent deviceId).length ≤ 1
  latest : ∀ layout ∈ newest, (cloud.sent deviceId ++ cloud.waiting deviceId).foldl
    (fun _ put => some put.layout) (cloud.rows deviceId) = some layout

end

/-- Sending the layout that waits moves it, and changes nothing else. -/
theorem Follows.flush (follows : Follows deviceId newest before)
    (spared : before.sent deviceId = [] ∨ before.waiting deviceId = []) :
    Follows deviceId newest before.flush := by
  obtain ⟨pendingTimer, _ | put, inFlight, rows⟩ := before
  · exact ⟨nofun, follows.single, follows.latest⟩
  · obtain ⟨-, single, latest⟩ := follows
    by_cases isOf : put.deviceId = deviceId <;> refine ⟨nofun, ?_, ?_⟩ <;>
      simp_all [RemoteLayoutCloud.flush, sent, waiting]

theorem Follows.step (taken : Spares deviceId before event after)
    (follows : Follows deviceId newest before) :
    Follows deviceId (newestAfter deviceId newest event) after := by
  obtain ⟨taken, spared⟩ := taken
  obtain ⟨timer, single, latest⟩ := follows
  cases taken with
  | putLayout other layout =>
    refine ⟨fun _ => rfl, single, ?_⟩
    by_cases isOf : other = deviceId
    · simp [newestAfter, waiting, putLayout, isOf]
    · rw [spared.resolve_left isOf] at latest
      simpa [newestAfter, waiting, sent, putLayout, isOf] using latest
  | timerFires | flush => exact Follows.flush ⟨timer, single, latest⟩ spared
  | @arrives put earlier later isSent =>
    rw [sent, isSent, filter_append] at single latest
    by_cases isOf : put.deviceId = deviceId
    · -- The device has this PUT on the way and no other, so it passes from there into the row.
      rw [filter_cons_of_pos (by simpa using isOf)] at single latest
      obtain ⟨noEarlier, noLater⟩ : earlier.filter (·.deviceId = deviceId) = [] ∧
          later.filter (·.deviceId = deviceId) = [] := by
        rw [length_append, length_cons] at single
        constructor <;> refine length_eq_zero_iff.mp ?_ <;> omega
      rw [noEarlier, noLater] at latest
      refine ⟨timer, ?_, ?_⟩ <;> rw [sent, filter_append, noEarlier, noLater]
      · exact Nat.zero_le 1
      · simpa [waiting, newestAfter, isOf] using latest
    · rw [filter_cons_of_neg (by simpa using isOf), ← filter_append] at single latest
      refine ⟨timer, single, ?_⟩
      simpa [sent, waiting, newestAfter, Function.update_of_ne (Ne.symm isOf)] using latest

/-- When nothing waits and nothing is on the way, the row of a device holds the last layout that was
put for it, if no event of the run displaced a layout of the device or sent two at once. -/
theorem layout_converges {rows : String → Option String}
    (run : Run (Spares deviceId) (new rows) past last) (idle : last.pendingTimer = false)
    (arrived : last.inFlight = []) (isLast : lastPut deviceId past = some layout) :
    last.rows deviceId = some layout := by
  have follows : Follows deviceId (lastPut deviceId ([] ++ past)) last := by
    refine @Run.history _ _ _ _ _ _ run (fun past => Follows deviceId (lastPut deviceId past)) []
      ⟨nofun, Nat.zero_le 1, nofun⟩ ?_
    intro past before event after taken follows
    rw [lastPut, foldl_append]
    exact follows.step taken
  have empty : last.pending = none := by
    simpa [idle] using follows.timer
  have latest := follows.latest layout isLast
  simpa [sent, waiting, arrived, empty] using latest

/-- Two layouts of a device, the second put while that of another device is on the way, and stored
before it. -/
theorem layout_converges_twice :
    ∃ last, Run (Spares "a") (new fun _ => none)
        [.putLayout "a" "1", .timerFires, .arrives ⟨"a", "1"⟩, .putLayout "b" "2", .flush,
          .putLayout "a" "3", .timerFires, .arrives ⟨"a", "3"⟩, .arrives ⟨"b", "2"⟩] last ∧
      last.rows "a" = some "3" := by
  have run : Run (Spares "a") (new fun _ => none) _ _ :=
    .cons ⟨.putLayout "a" "1", .inl rfl⟩ (.cons ⟨.timerFires rfl, .inl rfl⟩
      (.cons ⟨@Takes.arrives _ ⟨"a", "1"⟩ [] [] rfl, trivial⟩
      (.cons ⟨.putLayout "b" "2", .inr rfl⟩ (.cons ⟨.flush, .inl rfl⟩
      (.cons ⟨.putLayout "a" "3", .inl rfl⟩ (.cons ⟨.timerFires rfl, .inl rfl⟩
      (.cons ⟨@Takes.arrives _ ⟨"a", "3"⟩ [_] [] rfl, trivial⟩
      (.single ⟨@Takes.arrives _ ⟨"b", "2"⟩ [] [] rfl, trivial⟩))))))))
  exact ⟨_, run, layout_converges run rfl rfl rfl⟩

/-- The layout of another device displaces one that waits, which then is never sent. And an earlier
layout of a device that arrives late replaces the later one. -/
theorem layouts_lost :
    (∃ last, Run Takes (new fun _ => none)
        [.putLayout "a" "1", .putLayout "b" "2", .timerFires, .arrives ⟨"b", "2"⟩] last ∧
      last.pendingTimer = false ∧ last.inFlight = [] ∧ last.rows "a" = none) ∧
    ∃ last, Run Takes (new fun _ => none)
        [.putLayout "a" "1", .flush, .putLayout "a" "2", .flush, .arrives ⟨"a", "2"⟩,
          .arrives ⟨"a", "1"⟩] last ∧
      last.pendingTimer = false ∧ last.inFlight = [] ∧ last.rows "a" = some "1" := by
  constructor
  · exact ⟨_, .cons (.putLayout ..) (.cons (.putLayout ..) (.cons (.timerFires rfl)
      (.single (@Takes.arrives _ _ [] [] rfl)))), rfl, rfl, rfl⟩
  · exact ⟨_, .cons (.putLayout ..) (.cons .flush (.cons (.putLayout ..) (.cons .flush
      (.cons (@Takes.arrives _ _ [_] [] rfl) (.single (@Takes.arrives _ _ [] [] rfl)))))), rfl, rfl,
      rfl⟩

end RemoteLayoutCloud

end HydraTerm.Browser
