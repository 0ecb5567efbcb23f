import HydraTerm.Lib.Maps

/-!
# Lines in chunks

A terminal line that does not fit a frame is sent in chunks, the last of which is marked. The
browser puts them together for each channel, within a limit for a line and one for all channels.
What is too long is dropped with the rest of its line. A malformed chunk drops the line that it
interrupts; where it begins a line, the rest of that line is taken for a line of its own.

To bind or unbind a channel clears it, and frames of a channel that is not bound do not come here.
The buffer of a line is its bytes; that it grows ahead of them is left out.
-/

namespace HydraTerm.Browser

open Lib

/-- The limits for one line and for all that is held. -/
structure ChunkLimits where
  maxLineBytes : Nat
  maxAggregateBytes : Nat

/-- The answer to a chunk. -/
inductive ChunkAssemblyResult
  | partialLine (chunkBytes totalBytes : Nat)
  | complete (chunkBytes totalBytes : Nat) (bytes : List UInt8)
  | dropped
  deriving DecidableEq

/-- The bytes that are held for each channel, and the channels whose line is being dropped. -/
structure BoundedChunkReassembler where
  pending : AList (fun _ : Nat => List UInt8)
  discarding : Finset Nat
  pendingBytes : Nat

namespace BoundedChunkReassembler

variable {limits : ChunkLimits} {state : BoundedChunkReassembler} {channel : Nat}

/-- Nothing is held. -/
def new : BoundedChunkReassembler := ⟨∅, ∅, 0⟩

/-- Whether something was dropped, and the state without it. -/
def dropPending (state : BoundedChunkReassembler) (channel : Nat) :
    Bool × BoundedChunkReassembler :=
  match state.pending.lookup channel with
  | none => (false, state)
  | some current => (true, { state with
      pending := state.pending.erase channel
      pendingBytes := state.pendingBytes - current.length })

section

variable (limits)

/-- A chunk of a channel. Its first byte says whether it is the last of its line. -/
def push (state : BoundedChunkReassembler) (channel : Nat)
    (payload : List UInt8) : ChunkAssemblyResult × BoundedChunkReassembler :=
  let isLast := decide (payload.head? = some 1)
  let discard (next : BoundedChunkReassembler) : BoundedChunkReassembler :=
    { next with discarding := insert channel next.discarding }
  if channel ∈ state.discarding then
    (.dropped,
      if isLast then { state with discarding := state.discarding.erase channel } else state)
  else if payload.head? ≠ some 0 ∧ !isLast then
    let (interrupted, next) := state.dropPending channel
    (.dropped, if interrupted then discard next else next)
  else
    let body := payload.tail
    let current := (state.pending.lookup channel).getD []
    let totalBytes := current.length + body.length
    if totalBytes > limits.maxLineBytes ∨
        state.pendingBytes + body.length > limits.maxAggregateBytes then
      let (_, next) := state.dropPending channel
      (.dropped, if isLast then next else discard next)
    else if isLast then
      (.complete body.length totalBytes (current ++ body), { state with
        pending := state.pending.erase channel
        pendingBytes := state.pendingBytes + body.length - totalBytes })
    else
      (.partialLine body.length totalBytes, { state with
        pending := state.pending.insert channel (current ++ body)
        pendingBytes := state.pendingBytes + body.length })

/-- Forget the line of a channel. -/
def clear (state : BoundedChunkReassembler) (channel : Nat) : BoundedChunkReassembler :=
  let (_, next) := state.dropPending channel
  { next with discarding := next.discarding.erase channel }

/-- The calls of the reassembler. -/
inductive Call
  | push (channel : Nat) (payload : List UInt8)
  | clear (channel : Nat)
  | clearAll

/-- The reassembler, and for each channel the chunks of the line that is under way with their
answers. A line begins after a final chunk or when its channel is cleared. -/
structure Observed where
  state : BoundedChunkReassembler
  line : Nat → List (List UInt8 × ChunkAssemblyResult)

/-- One call, and what it does to the lines. -/
def Observed.call (observed : Observed) : Call → Observed
  | .push channel payload =>
    let (result, next) := observed.state.push limits channel payload
    ⟨next, Function.update observed.line channel
      (if payload.head? = some 1 then [] else observed.line channel ++ [(payload, result)])⟩
  | .clear channel =>
    ⟨observed.state.clear channel, Function.update observed.line channel []⟩
  | .clearAll => ⟨new, fun _ => []⟩

/-- The reassembler after calls from its start. -/
def Observed.after (calls : List Call) : Observed :=
  calls.foldl (Observed.call limits) ⟨new, fun _ => []⟩

/-- What is held for a channel. -/
def held (state : BoundedChunkReassembler) (channel : Nat) : List UInt8 :=
  (state.pending.lookup channel).getD []

/-! ## The bytes that are held -/

/-- The counter is the sum of what is held, and a channel that is being dropped holds nothing. -/
structure Counted (state : BoundedChunkReassembler) : Prop where
  counted : state.pendingBytes = total List.length state.pending
  within : state.pendingBytes ≤ limits.maxAggregateBytes
  empty : ∀ channel ∈ state.discarding, channel ∉ state.pending

/-- The state without what a channel holds. -/
def without (state : BoundedChunkReassembler) (channel : Nat) : BoundedChunkReassembler :=
  { state with
    pending := state.pending.erase channel
    pendingBytes := state.pendingBytes - (state.held channel).length }

/-- A channel that holds nothing has nothing to lose. -/
theorem without_of_absent (absent : channel ∉ state.pending) : state.without channel = state := by
  have same : state.pending.erase channel = state.pending :=
    AList.ext (List.kerase_of_notMem_keys absent)
  simp [without, held, same, AList.lookup_eq_none.mpr absent]

/-- What the drop returns, whether or not something is held. -/
theorem dropPending_eq (state : BoundedChunkReassembler) (channel : Nat) :
    state.dropPending channel = (decide (channel ∈ state.pending), state.without channel) := by
  unfold dropPending
  cases found : state.pending.lookup channel with
  | none =>
    have absent := AList.lookup_eq_none.mp found
    simp [absent, without_of_absent absent]
  | some => simp [mem_of_lookup found, without, held, found]

/-- The share of one channel in what is held. -/
theorem total_without (state : BoundedChunkReassembler) (channel : Nat) :
    total List.length (state.pending.erase channel) + (state.held channel).length =
      total List.length state.pending := by
  rw [← total_erase List.length state.pending channel, held]
  cases state.pending.lookup channel <;> rfl

/-! ## Whole lines -/

/-- While the calls are `clean`, what the reassembler holds of a line that is not being dropped is
all of it so far. -/
structure Tracks (clean : Prop) (observed : Observed) : Prop where
  counted : Counted limits observed.state
  whole : clean → ∀ channel, channel ∉ observed.state.discarding →
    observed.state.held channel = ((observed.line channel).map (·.1.tail)).flatten ∧
      ∀ chunk ∈ observed.line channel, chunk.2 ≠ .dropped

end

/-- The call is no malformed chunk where a line begins. -/
def Ordinary (state : BoundedChunkReassembler) : Call → Prop
  | .push channel payload => payload.head? = some 0 ∨ payload.head? = some 1 ∨
      channel ∈ state.discarding ∨ channel ∈ state.pending
  | .clear _ | .clearAll => True

/-- The other channels hold what they held. -/
theorem held_without (state : BoundedChunkReassembler) (channel other : Nat) :
    (state.without channel).held other = if other = channel then [] else state.held other := by
  simp only [held, without, lookup_erase_eq]
  split <;> rfl

variable {observed : Observed} {clean : Prop}

/-- Nothing is held at the start. -/
theorem tracks_new : Tracks limits clean ⟨new, fun _ => []⟩ :=
  ⟨⟨rfl, Nat.zero_le _, fun _ isIn => absurd isIn (Finset.notMem_empty _)⟩,
    fun _ _ _ => ⟨rfl, nofun⟩⟩

/-- The line of one channel is replaced, and what is held for the others stays. -/
theorem Tracks.update (tracks : Tracks limits clean observed) {next : BoundedChunkReassembler}
    (counted : Counted limits next) (line : List (List UInt8 × ChunkAssemblyResult))
    (others : ∀ other, other ≠ channel → next.held other = observed.state.held other ∧
      (other ∈ next.discarding ↔ other ∈ observed.state.discarding))
    (whole : clean → channel ∉ next.discarding → next.held channel = (line.map (·.1.tail)).flatten ∧
      ∀ chunk ∈ line, chunk.2 ≠ .dropped) :
    Tracks limits clean ⟨next, Function.update observed.line channel line⟩ := by
  refine ⟨counted, fun isClean other kept => ?_⟩
  by_cases same : other = channel
  · subst same
    simpa using whole isClean kept
  · obtain ⟨sameHeld, sameDiscarding⟩ := others other same
    have old := tracks.whole isClean other fun isIn => kept (sameDiscarding.mpr isIn)
    simpa [same, sameHeld] using old

/-- Nothing is held for the channel any more. If the rest of its line is not dropped, the line is
over. -/
theorem Tracks.drop (tracks : Tracks limits clean observed) (channel : Nat)
    (discarding : Finset Nat) (line : List (List UInt8 × ChunkAssemblyResult))
    (others : ∀ other, other ≠ channel → (other ∈ discarding ↔ other ∈ observed.state.discarding))
    (ends : clean → channel ∉ discarding → line = []) :
    Tracks limits clean ⟨{ observed.state.without channel with discarding := discarding },
      Function.update observed.line channel line⟩ := by
  have share := total_without observed.state channel
  have sum := tracks.counted.counted
  have within := tracks.counted.within
  refine tracks.update ⟨?_, ?_, fun other isIn stays => ?_⟩ line (fun other different => ?_)
    fun isClean kept => ?_
  · simp only [without]
    omega
  · simp only [without]
    omega
  · obtain ⟨different, old⟩ := AList.mem_erase.mp stays
    exact tracks.counted.empty other ((others other different).mp isIn) old
  · exact ⟨(held_without _ _ _).trans (if_neg different), others other different⟩
  · rw [ends isClean kept]
    exact ⟨(held_without _ _ _).trans (if_pos rfl), by simp⟩

/-- Every call keeps track, an ordinary one of whole lines as well. -/
theorem Tracks.call (tracks : Tracks limits clean observed) {call : Call}
    (ordinary : clean → Ordinary observed.state call) :
    Tracks limits clean (observed.call limits call) := by
  have counted := tracks.counted
  cases call with
  | clearAll => exact tracks_new
  | clear channel =>
    simp only [Observed.call, BoundedChunkReassembler.clear, dropPending_eq]
    exact tracks.drop channel _ [] (fun other different => by simp [different, without])
      fun _ _ => rfl
  | push channel payload =>
    -- What a rejected chunk leaves: nothing is held, and the rest is dropped unless it was the
    -- last.
    have rejected := tracks.drop channel (insert channel observed.state.discarding)
      (observed.line channel ++ [(payload, .dropped)]) (by simp +contextual) (by simp)
    have finished := tracks.drop channel observed.state.discarding [] (fun _ _ => Iff.rfl)
      fun _ _ => rfl
    simp only [Observed.call, push, dropPending_eq]
    by_cases discarding : channel ∈ observed.state.discarding
    · have empty := without_of_absent (counted.empty channel discarding)
      rw [if_pos discarding]
      by_cases isLast : payload.head? = some 1
      · have ended := tracks.drop channel (observed.state.discarding.erase channel) []
          (by simp +contextual) fun _ _ => rfl
        simpa [isLast, decide_true, empty] using ended
      · have goesOn := tracks.drop channel observed.state.discarding
          (observed.line channel ++ [(payload, .dropped)]) (fun _ _ => Iff.rfl)
          fun _ kept => absurd discarding kept
        simpa [isLast, decide_false, empty] using goesOn
    · rw [if_neg discarding]
      by_cases isLast : payload.head? = some 1
      · simp only [isLast, decide_true, Bool.not_true, and_false, if_true, Bool.false_eq_true,
          if_false]
        split
        · exact finished
        next _ =>
          rw [Nat.add_sub_add_right]
          exact finished
      · simp only [isLast, decide_false, Bool.not_false, and_true, Bool.false_eq_true, if_false]
        split
        next malformed =>
          -- A malformed chunk interrupts a line, since it does not begin one.
          by_cases present : channel ∈ observed.state.pending
          · simp only [present, decide_true, if_true]
            exact rejected
          · simp only [present, decide_false, Bool.false_eq_true, if_false]
            refine tracks.drop channel _ _ (fun _ _ => Iff.rfl) fun isClean => ?_
            simp [Ordinary, malformed, isLast, discarding, present] at ordinary
            exact absurd isClean ordinary
        · split
          · exact rejected
          next _ =>
            refine tracks.update ⟨?_, ?_, fun other isIn => ?_⟩ _
              (fun other different => ⟨by simp [held, different], Iff.rfl⟩) fun isClean _ => ?_
            · have share := total_without observed.state channel
              have sum := counted.counted
              simp only [total_insert, List.length_append]
              simp only [held] at share
              omega
            · dsimp only
              omega
            · simp only [AList.mem_insert, not_or]
              exact ⟨fun same => discarding (same ▸ isIn), counted.empty other isIn⟩
            · obtain ⟨isHeld, accepted⟩ := tracks.whole isClean channel discarding
              refine ⟨by simp [held, ← isHeld], ?_⟩
              simp only [List.mem_append, List.mem_singleton]
              rintro chunk (old | rfl)
              · exact accepted chunk old
              · simp

/-- Every one of the calls is ordinary when it comes. -/
def AllOrdinary (limits : ChunkLimits) (observed : Observed) : List Call → Prop
  | [] => True
  | call :: rest =>
    Ordinary observed.state call ∧ AllOrdinary limits (observed.call limits call) rest

/-- So do many calls, by induction on them. -/
theorem Tracks.calls (tracks : Tracks limits clean observed) {calls : List Call}
    (ordinary : clean → AllOrdinary limits observed calls) :
    Tracks limits clean (calls.foldl (Observed.call limits) observed) := by
  induction calls generalizing observed with
  | nil => exact tracks
  | cons _ _ ih =>
    exact ih (tracks.call fun isClean => (ordinary isClean).1) fun isClean => (ordinary isClean).2

/-- `encode_next_terminal_chunk` of the agent, for a line that is not compressed: a payload, where
it ends and whether it is the last. -/
def encodeNextTerminalChunk (line : List UInt8) (offset : Nat) : Option (List UInt8 × Nat × Bool) :=
  if offset > line.length ∨ offset = line.length ∧ line ≠ [] then none
  else
    let stop := min (offset + 16 * 1024) line.length
    let isLast := decide (stop ≥ line.length)
    some ((if isLast then 1 else 0) :: line.extract offset stop, stop, isLast)

/-- The last answer to the chunks of a line from an offset on. -/
def sendLine (limits : ChunkLimits) (channel : Nat) (line : List UInt8) :
    Nat → Nat → BoundedChunkReassembler → ChunkAssemblyResult × BoundedChunkReassembler
  | 0, _, state => (.dropped, state)
  | tries + 1, offset, state =>
    match encodeNextTerminalChunk line offset with
    | none => (.dropped, state)
    | some (payload, _, true) => state.push limits channel payload
    | some (payload, stop, false) =>
      sendLine limits channel line tries stop (state.push limits channel payload).2

/-- Where the first bytes of a line are held, the rest of its chunks return it if it fits the
limits, and leave what the other channels hold. -/
theorem sendLine_returns {line : List UInt8} (kept : channel ∉ state.discarding)
    (fitsLine : line.length ≤ limits.maxLineBytes)
    (fits : state.pendingBytes + line.length ≤ limits.maxAggregateBytes) {tries offset : Nat}
    (enough : line.length < offset + tries) (inside : offset < max 1 line.length)
    {pending : AList fun _ : Nat => List UInt8} (others : pending.erase channel = state.pending)
    (begun : (pending.lookup channel).getD [] = line.take offset) :
    ∃ chunkBytes, sendLine limits channel line tries offset
        ⟨pending, state.discarding, state.pendingBytes + offset⟩ =
      (.complete chunkBytes line.length line, state) := by
  induction tries generalizing offset pending with
  | zero => omega
  | succ tries ih =>
    rw [sendLine, encodeNextTerminalChunk, if_neg (by rw [Ne, ← List.length_eq_zero_iff]; omega)]
    have upTo : offset ≤ line.length := by omega
    by_cases isLast : line.length ≤ offset + 16 * 1024
    · refine ⟨line.length - offset, ?_⟩
      simp [push, kept, isLast, begun, upTo, fitsLine, fits, others, ← List.take_add]
    · have stop : min (offset + 16384) line.length = offset + 16384 := by omega
      have body : min 16384 (line.length - offset) = 16384 := by omega
      have room : offset + 16384 ≤ limits.maxLineBytes ∧
          state.pendingBytes + (offset + 16384) ≤ limits.maxAggregateBytes := by omega
      have erased : (pending.insert channel (line.take (offset + 16384))).erase channel =
          state.pending := others ▸ AList.ext (List.kerase_cons_eq rfl)
      have rest := @ih (offset + 16384) (by omega) (by omega) _ erased (by simp)
      simpa [push, kept, isLast, begun, upTo, stop, body, room, Nat.add_assoc, ← not_le,
        List.take_add] using rest

/-- A line of two chunks while another channel holds bytes and a third is being dropped: the line is
returned when both chunks come, and when the second comes after the first was held. -/
theorem sendLine_returns_twoChunks :
    let limits : ChunkLimits := ⟨20000, 40000⟩
    let line : List UInt8 := List.replicate 16385 65
    let held : AList fun _ : Nat => List UInt8 := AList.insert 5 [7, 8] ∅
    (∃ chunkBytes, sendLine limits 3 line 16386 0 ⟨held, {9}, 2⟩ =
      (.complete chunkBytes line.length line, ⟨held, {9}, 2⟩)) ∧
    ∃ chunkBytes, sendLine limits 3 line 2 16384 ⟨held.insert 3 (line.take 16384), {9}, 16386⟩ =
      (.complete chunkBytes line.length line, ⟨held, {9}, 2⟩) := by
  have kept : 3 ∉ ({9} : Finset Nat) := by decide
  have length : (List.replicate 16385 (65 : UInt8)).length = 16385 := List.length_replicate
  dsimp only
  generalize List.replicate 16385 (65 : UInt8) = line at length ⊢
  have fits : 2 + line.length ≤ 40000 := by omega
  have returns := @sendLine_returns ⟨20000, 40000⟩ ⟨AList.insert 5 [7, 8] ∅, {9}, 2⟩ 3 line kept
    (length.trans_le (by decide)) fits
  constructor
  · exact @returns 16386 0 (by omega) (by omega) _ rfl rfl
  · exact @returns 2 16384 (by omega) (by omega) _ rfl (by rw [AList.lookup_insert]; rfl)

end BoundedChunkReassembler

end HydraTerm.Browser
