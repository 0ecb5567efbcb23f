import Mathlib

/-!
# Binary terminal frames

One message of the data channel is one frame: a header of eight bytes (version, kind, channel,
length) and the payload. The browser encodes and the agent decodes, each with its own code. Input is
cut into frames that keep the agent's bound.
-/

namespace HydraTerm.Remote

open List

/-- `FRAME_VERSION`. -/
def frameVersion : UInt8 := 1

/-- `MAX_FRAME_PAYLOAD`. -/
def maxFramePayload : Nat := 8 * 1024 * 1024

/-- `MAX_INPUT_PAYLOAD`. -/
def maxInputPayload : Nat := 64 * 1024

/-- `HEADER_LEN`. -/
def headerLen : Nat := 8

/-- `FrameKind`. -/
inductive FrameKind
  | terminalInput
  | terminalOutput
  | terminalOutputChunk
  | terminalGzipJsonChunk
  deriving DecidableEq

/-- The byte of a kind. -/
def FrameKind.toU8 : FrameKind → UInt8
  | terminalInput => 1
  | terminalOutput => 2
  | terminalOutputChunk => 3
  | terminalGzipJsonChunk => 4

/-- `FrameKind::from_u8`. -/
def FrameKind.fromU8 (value : UInt8) : Option FrameKind :=
  if value = 1 then some terminalInput
  else if value = 2 then some terminalOutput
  else if value = 3 then some terminalOutputChunk
  else if value = 4 then some terminalGzipJsonChunk
  else none

/-- `encodeFrame` of the browser; the error is the length in its message. -/
def encodeFrame (kind : FrameKind) (channel : Nat) (payload : List UInt8) :
    Except Nat (List UInt8) :=
  if payload.length > maxFramePayload then .error payload.length
  else
    .ok ([frameVersion, kind.toU8, UInt8.ofNat (channel % 0x10000 / 0x100),
      UInt8.ofNat (channel % 0x100), UInt8.ofNat (payload.length / 0x1000000),
      UInt8.ofNat (payload.length / 0x10000), UInt8.ofNat (payload.length / 0x100),
      UInt8.ofNat payload.length] ++ payload)

/-- The loop of `encodeInputFrames`. -/
def inputFramesFrom (channel : Nat) (payload : List UInt8) (off : Nat) :
    Except Nat (List (List UInt8)) :=
  if off < payload.length then do
    let frame ← encodeFrame .terminalInput channel ((payload.drop off).take maxInputPayload)
    let later ← inputFramesFrom channel payload (off + maxInputPayload)
    .ok (frame :: later)
  else .ok []
termination_by payload.length - off
decreasing_by
  simp only [maxInputPayload]
  omega

/-- `encodeInputFrames`. -/
def encodeInputFrames (channel : Nat) (payload : List UInt8) : Except Nat (List (List UInt8)) :=
  if payload.length ≤ maxInputPayload then do
    let frame ← encodeFrame .terminalInput channel payload
    .ok [frame]
  else inputFramesFrom channel payload 0

/-- `Frame`. -/
structure Frame where
  kind : FrameKind
  channel : UInt16
  payload : List UInt8

/-- `FrameError`. -/
inductive FrameError
  | short
  | badVersion (version : UInt8)
  | badKind (kind : UInt8)
  | tooLarge (length : Nat)
  | trailing

/-- `decode` of the agent. -/
def decode (buf : List UInt8) : Except FrameError Frame :=
  match buf with
  | version :: kindByte :: c₁ :: c₀ :: l₃ :: l₂ :: l₁ :: l₀ :: rest =>
    if version ≠ frameVersion then .error (.badVersion version)
    else
      match FrameKind.fromU8 kindByte with
      | none => .error (.badKind kindByte)
      | some kind =>
        let channel := UInt16.ofNat (c₁.toNat * 0x100 + c₀.toNat)
        let length := l₃.toNat * 0x1000000 + l₂.toNat * 0x10000 + l₁.toNat * 0x100 + l₀.toNat
        if length > maxFramePayload then .error (.tooLarge length)
        else if rest.length < length then .error .short
        else if rest.length > length then .error .trailing
        else .ok ⟨kind, channel, rest⟩
  | _ => .error .short

/-! ## What the agent reads of what the browser wrote -/

theorem FrameKind.fromU8_toU8 (kind : FrameKind) : FrameKind.fromU8 kind.toU8 = some kind := by
  cases kind <;> rfl

/-- A frame is read as it was written, on the channel's sixteen bits. -/
theorem decode_encodeFrame {kind : FrameKind} {channel : Nat} {payload buf : List UInt8}
    (encoded : encodeFrame kind channel payload = .ok buf) :
    decode buf = .ok ⟨kind, UInt16.ofNat channel, payload⟩ := by
  unfold encodeFrame at encoded
  split at encoded
  · cases encoded
  next small =>
    cases encoded
    simp only [maxFramePayload] at small
    have sameChannel : UInt16.ofNat (channel % 0x10000 / 0x100 % 2 ^ 8 * 0x100 +
        channel % 0x100 % 2 ^ 8) = UInt16.ofNat channel := by
      apply UInt16.toNat_inj.mp
      simp only [UInt16.toNat_ofNat']
      omega
    have sameLength : payload.length / 0x1000000 % 2 ^ 8 * 0x1000000 +
        payload.length / 0x10000 % 2 ^ 8 * 0x10000 + payload.length / 0x100 % 2 ^ 8 * 0x100 +
          payload.length % 2 ^ 8 = payload.length := by
      omega
    simp only [cons_append, nil_append, decode, ne_eq, not_true_eq_false, if_false,
      FrameKind.fromU8_toU8, UInt8.toNat_ofNat', sameChannel, sameLength, maxFramePayload,
      if_neg small, lt_irrefl, gt_iff_lt]

/-! ## The pieces of an input -/

/-- The frames of an input hold consecutive pieces of it, cut at the multiples of the bound. -/
structure Pieces (payload : List UInt8) (off : Nat) (pieces : List (List UInt8)) : Prop where
  whole : pieces.flatten = payload.drop off
  short : ∀ piece ∈ pieces, piece.length ≤ maxInputPayload
  cuts : ∀ front, front <+: pieces →
    front.flatten.length = min (front.length * maxInputPayload) (payload.length - off)

variable (channel : Nat) (payload : List UInt8)

/-- The frame of a piece, which keeps the bound. -/
theorem encodeFrame_piece {piece : List UInt8} (short : piece.length ≤ maxInputPayload) :
    ∃ buf, encodeFrame .terminalInput channel piece = .ok buf := by
  refine ⟨_, if_neg ?_⟩
  simp only [maxInputPayload, maxFramePayload] at short ⊢
  omega

theorem inputFramesFrom_ok (off : Nat) :
    ∃ pieces frames, inputFramesFrom channel payload off = .ok frames ∧ Pieces payload off pieces ∧
      List.Forall₂ (fun piece frame => encodeFrame .terminalInput channel piece = .ok frame) pieces
        frames := by
  fun_induction inputFramesFrom with
  | case1 off inside ih =>
    obtain ⟨pieces, frames, isLater, spec, each⟩ := ih
    have short : ((payload.drop off).take maxInputPayload).length ≤ maxInputPayload :=
      length_take_le _ _
    obtain ⟨frame, isFrame⟩ := encodeFrame_piece channel short
    refine ⟨(payload.drop off).take maxInputPayload :: pieces, frame :: frames, ?_, ?_,
      .cons isFrame each⟩
    · rw [isFrame, isLater]
      rfl
    · refine ⟨?_, ?_, ?_⟩
      · rw [flatten_cons, spec.whole, ← drop_drop, take_append_drop]
      · rintro piece (_ | ⟨_, later⟩)
        · exact short
        · exact spec.short piece later
      · intro front isFront
        rcases prefix_cons_iff.mp isFront with rfl | ⟨front, rfl, isRest⟩
        · simp
        · have cut := spec.cuts front isRest
          simp only [flatten_cons, length_append, length_take, length_drop,
            length_cons, cut, Nat.add_mul, maxInputPayload] at inside ⊢
          omega
  | case2 =>
    refine ⟨[], [], rfl, ⟨?_, by simp, ?_⟩, .nil⟩
    · rw [drop_eq_nil_of_le (by omega)]
      rfl
    · intro front isFront
      rw [prefix_nil.mp isFront]
      simp

/-- `encodeInputFrames` always has frames, and they hold the input. -/
theorem encodeInputFrames_ok :
    ∃ pieces frames, encodeInputFrames channel payload = .ok frames ∧ Pieces payload 0 pieces ∧
      List.Forall₂ (fun piece frame => encodeFrame .terminalInput channel piece = .ok frame) pieces
        frames := by
  unfold encodeInputFrames
  split
  next short =>
    obtain ⟨frame, isFrame⟩ := encodeFrame_piece channel short
    refine ⟨[payload], [frame], by rw [isFrame]; rfl, ⟨by simp, by simpa using short, ?_⟩,
      .cons isFrame .nil⟩
    intro front isFront
    rcases prefix_cons_iff.mp isFront with rfl | ⟨front, rfl, isRest⟩
    · simp
    · rw [prefix_nil.mp isRest]
      simpa using short
  · exact inputFramesFrom_ok channel payload 0

end HydraTerm.Remote
