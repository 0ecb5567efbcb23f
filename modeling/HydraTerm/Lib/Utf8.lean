import Mathlib

/-!
# UTF-8 decoded piece by piece

A text is encoded as bytes, the bytes are cut into pieces, and every piece is decoded by itself. A
lossy decoder never fails: what is not the encoding of a character it replaces, one replacement for
every longest beginning of an encoding and one for every byte that begins none.

Pieces that are cut between characters give the text back. A cut inside a character is never
harmless: the beginning is replaced once and each of the bytes that are left is replaced again, so
what is decoded is longer than the text (`decodeLossy_pieces_iff`). This is so for every text, those
that hold replacement characters included.
-/

namespace HydraTerm.Lib.Utf8

open List

/-- `U+FFFD`. -/
def replacement : Char := Char.ofNat 0xFFFD

/-! ## Encoding -/

/-- The bytes of a character. -/
def encodeChar (char : Char) : List UInt8 :=
  let point := char.toNat
  if point < 0x80 then [UInt8.ofNat point]
  else if point < 0x800 then
    [UInt8.ofNat (0xC0 + point / 0x40), UInt8.ofNat (0x80 + point % 0x40)]
  else if point < 0x10000 then
    [UInt8.ofNat (0xE0 + point / 0x1000), UInt8.ofNat (0x80 + point / 0x40 % 0x40),
      UInt8.ofNat (0x80 + point % 0x40)]
  else
    [UInt8.ofNat (0xF0 + point / 0x40000), UInt8.ofNat (0x80 + point / 0x1000 % 0x40),
      UInt8.ofNat (0x80 + point / 0x40 % 0x40), UInt8.ofNat (0x80 + point % 0x40)]

/-- The bytes of a text. -/
def encode (text : List Char) : List UInt8 := text.flatMap encodeChar

@[simp] theorem encode_nil : encode [] = [] := rfl

variable (text : List Char)

@[simp] theorem encode_cons (char : Char) :
    encode (char :: text) = encodeChar char ++ encode text := rfl

theorem encode_append (first second : List Char) :
    encode (first ++ second) = encode first ++ encode second := flatMap_append

/-! ## Decoding -/

/-- How many bytes a character has that begins with this one; none begins with it if 0. -/
def charWidth (first : UInt8) : Nat :=
  if first.toNat < 0x80 then 1 else if first.toNat < 0xC2 then 0
  else if first.toNat < 0xE0 then 2 else if first.toNat < 0xF0 then 3
  else if first.toNat < 0xF5 then 4 else 0

/-- A byte that continues a character. -/
def isContinuation (byte : UInt8) : Bool := decide (0x80 ≤ byte.toNat ∧ byte.toNat < 0xC0)

/-- A second byte that may follow the first one: overlong forms, surrogates and points beyond the
last one are excluded here. -/
def secondAllowed (first second : UInt8) : Bool :=
  if first.toNat = 0xE0 then decide (0xA0 ≤ second.toNat ∧ second.toNat < 0xC0)
  else if first.toNat = 0xED then decide (0x80 ≤ second.toNat ∧ second.toNat < 0xA0)
  else if first.toNat = 0xF0 then decide (0x90 ≤ second.toNat ∧ second.toNat < 0xC0)
  else if first.toNat = 0xF4 then decide (0x80 ≤ second.toNat ∧ second.toNat < 0x90)
  else isContinuation second

/-- Read at the first byte: a character, if one is there, and how many more bytes were taken. A byte
that is missing reads as 0, which continues nothing. -/
def decodeFront (first : UInt8) (rest : List UInt8) : Option Char × Nat :=
  let second := rest.getD 0 0
  let third := rest.getD 1 0
  let fourth := rest.getD 2 0
  match charWidth first with
  | 1 => (some (Char.ofNat first.toNat), 0)
  | 2 =>
    if secondAllowed first second then
      (some (Char.ofNat (first.toNat % 0x20 * 0x40 + second.toNat % 0x40)), 1)
    else (none, 0)
  | 3 =>
    if secondAllowed first second then
      if isContinuation third then
        (some (Char.ofNat (first.toNat % 0x10 * 0x1000 + second.toNat % 0x40 * 0x40 +
          third.toNat % 0x40)), 2)
      else (none, 1)
    else (none, 0)
  | 4 =>
    if secondAllowed first second then
      if isContinuation third then
        if isContinuation fourth then
          (some (Char.ofNat (first.toNat % 8 * 0x40000 + second.toNat % 0x40 * 0x1000 +
            third.toNat % 0x40 * 0x40 + fourth.toNat % 0x40)), 3)
        else (none, 2)
      else (none, 1)
    else (none, 0)
  | _ => (none, 0)

/-- Decode, with a replacement for what is no character. -/
def decodeLossy : List UInt8 → List Char
  | [] => []
  | first :: rest =>
    (decodeFront first rest).1.getD replacement :: decodeLossy (rest.drop (decodeFront first rest).2)
termination_by bytes => bytes.length
decreasing_by
  simp only [List.length_drop, List.length_cons]
  omega

@[simp] theorem decodeLossy_nil : decodeLossy [] = [] := by rw [decodeLossy]

/-! ## Characters and their pieces -/

theorem toNat_byte (value : Nat) (small : value < 256) : (UInt8.ofNat value).toNat = value := by
  simp only [UInt8.toNat_ofNat']
  omega

theorem char_bounds (char : Char) :
    char.toNat < 0xD800 ∨ (0xDFFF < char.toNat ∧ char.toNat < 0x110000) := by
  exact char.valid

variable (char : Char) in
/-- The shapes of an encoding. -/
inductive Encoded : List UInt8 → Prop
  | one (first : UInt8) (width : charWidth first = 1) (value : first.toNat = char.toNat) :
      Encoded [first]
  | two (first second : UInt8) (width : charWidth first = 2)
      (allowed : secondAllowed first second = true)
      (value : first.toNat % 0x20 * 0x40 + second.toNat % 0x40 = char.toNat) :
      Encoded [first, second]
  | three (first second third : UInt8) (width : charWidth first = 3)
      (allowed : secondAllowed first second = true) (last : isContinuation third = true)
      (value : first.toNat % 0x10 * 0x1000 + second.toNat % 0x40 * 0x40 + third.toNat % 0x40 =
        char.toNat) : Encoded [first, second, third]
  | four (first second third fourth : UInt8) (width : charWidth first = 4)
      (allowed : secondAllowed first second = true) (middle : isContinuation third = true)
      (last : isContinuation fourth = true)
      (value : first.toNat % 8 * 0x40000 + second.toNat % 0x40 * 0x1000 + third.toNat % 0x40 * 0x40 +
        fourth.toNat % 0x40 = char.toNat) : Encoded [first, second, third, fourth]

theorem encoded_encodeChar (char : Char) : Encoded char (encodeChar char) := by
  have bounds := char_bounds char
  unfold encodeChar
  dsimp only
  split_ifs with ascii short middle
  · refine .one _ ?_ (toNat_byte _ (by omega))
    rw [charWidth, toNat_byte _ (by omega), if_pos ascii]
  · have first := toNat_byte (0xC0 + char.toNat / 0x40) (by omega)
    have second := toNat_byte (0x80 + char.toNat % 0x40) (by omega)
    refine .two _ _ ?_ ?_ ?_ <;> grind [charWidth, secondAllowed, isContinuation]
  · have first := toNat_byte (0xE0 + char.toNat / 0x1000) (by omega)
    have second := toNat_byte (0x80 + char.toNat / 0x40 % 0x40) (by omega)
    have third := toNat_byte (0x80 + char.toNat % 0x40) (by omega)
    refine .three _ _ _ ?_ ?_ ?_ ?_ <;> grind [charWidth, secondAllowed, isContinuation]
  · have first := toNat_byte (0xF0 + char.toNat / 0x40000) (by omega)
    have second := toNat_byte (0x80 + char.toNat / 0x1000 % 0x40) (by omega)
    have third := toNat_byte (0x80 + char.toNat / 0x40 % 0x40) (by omega)
    have fourth := toNat_byte (0x80 + char.toNat % 0x40) (by omega)
    refine .four _ _ _ _ ?_ ?_ ?_ ?_ ?_ <;> grind [charWidth, secondAllowed, isContinuation]

variable {char : Char} {byte : UInt8}

/-- A whole encoding is read as its character. -/
theorem decodeLossy_encodeChar (char : Char) (rest : List UInt8) :
    decodeLossy (encodeChar char ++ rest) = char :: decodeLossy rest := by
  have isChar (value : Nat) (same : value = char.toNat) : Char.ofNat value = char := by
    rw [same, Char.ofNat_toNat]
  have shape := encoded_encodeChar char
  generalize encodeChar char = bytes at shape ⊢
  cases shape with
  | one _ width value =>
    rw [singleton_append, decodeLossy]
    simp [decodeFront, width, isChar _ value]
  | two _ _ width allowed value =>
    rw [cons_append, decodeLossy]
    simp [decodeFront, width, allowed, isChar _ value]
  | three _ _ _ width allowed last value =>
    rw [cons_append, decodeLossy]
    simp [decodeFront, width, allowed, last, isChar _ value]
  | four _ _ _ _ width allowed middle last value =>
    rw [cons_append, decodeLossy]
    simp [decodeFront, width, allowed, middle, last, isChar _ value]

/-- Whole characters in front are read as they are. -/
theorem decodeLossy_encode_append (rest : List UInt8) :
    decodeLossy (encode text ++ rest) = text ++ decodeLossy rest := by
  induction text with
  | nil => rfl
  | cons _ _ ih =>
    rw [encode_cons, append_assoc, decodeLossy_encodeChar, ih, cons_append]

theorem decodeLossy_encode : decodeLossy (encode text) = text := by
  simpa using decodeLossy_encode_append text []

theorem charWidth_continuation (continues : isContinuation byte = true) : charWidth byte = 0 := by
  simp only [isContinuation, decide_eq_true_eq] at continues
  rw [charWidth, if_neg (by omega), if_pos (by omega)]

/-- A byte that continues nothing is replaced. -/
theorem decodeLossy_continuation (continues : isContinuation byte = true)
    (rest : List UInt8) : decodeLossy (byte :: rest) = replacement :: decodeLossy rest := by
  rw [decodeLossy]
  simp [decodeFront, charWidth_continuation continues]

/-- So is each of several. -/
theorem decodeLossy_continuations {bytes : List UInt8}
    (continue' : ∀ byte ∈ bytes, isContinuation byte = true) (rest : List UInt8) :
    decodeLossy (bytes ++ rest) = List.replicate bytes.length replacement ++ decodeLossy rest := by
  induction bytes with
  | nil => rfl
  | cons byte _ ih =>
    rw [cons_append, decodeLossy_continuation (continue' byte mem_cons_self),
      ih fun other later => continue' other (mem_cons_of_mem _ later)]
    rfl

theorem isContinuation_of_secondAllowed {first second : UInt8}
    (allowed : secondAllowed first second = true) : isContinuation second = true := by
  simp only [isContinuation, decide_eq_true_eq]
  unfold secondAllowed at allowed
  split_ifs at allowed <;> simp only [isContinuation, decide_eq_true_eq] at allowed <;> omega

theorem secondAllowed_zero (first : UInt8) : secondAllowed first 0 = false := by
  unfold secondAllowed
  split_ifs <;> decide

/-- After its first byte an encoding has only bytes that continue it. -/
theorem encodeChar_continues (char : Char) :
    ∀ byte ∈ (encodeChar char).tail, isContinuation byte = true := by
  have shape := encoded_encodeChar char
  generalize encodeChar char = bytes at shape ⊢
  cases shape with
  | one => simp
  | two _ _ _ allowed =>
    simp [isContinuation_of_secondAllowed allowed]
  | three _ _ _ _ allowed last =>
    simp [isContinuation_of_secondAllowed allowed, last]
  | four _ _ _ _ _ allowed middle last =>
    simp [isContinuation_of_secondAllowed allowed, middle, last]

variable {text} {front back left : List UInt8} {pieces : List (List UInt8)} {right : List UInt8}
  (before after : List Char)

/-- So has what is left of it after a cut. -/
theorem encodeChar_back (cut : encodeChar char = front ++ back)
    (begun : front ≠ []) : ∀ byte ∈ back, isContinuation byte = true := by
  intro byte member
  refine encodeChar_continues char byte ?_
  obtain ⟨_, front, rfl⟩ := exists_cons_of_ne_nil begun
  rw [cut, cons_append, tail_cons]
  exact mem_append_right front member

theorem encodeChar_ne_nil (char : Char) : encodeChar char ≠ [] := by
  have shape := encoded_encodeChar char
  generalize encodeChar char = bytes at shape ⊢
  cases shape <;> simp

theorem eq_nil_of_encode (empty : encode text = []) : text = [] := by
  cases text with
  | nil => rfl
  | cons char => exact absurd (append_eq_nil_iff.mp empty).1 (encodeChar_ne_nil char)

/-- The beginning of an encoding is replaced once. -/
theorem decodeLossy_begun (cut : encodeChar char = front ++ back)
    (begun : front ≠ []) (unfinished : back ≠ []) : decodeLossy front = [replacement] := by
  obtain ⟨head, front, rfl⟩ := exists_cons_of_ne_nil begun
  obtain ⟨next, back, rfl⟩ := exists_cons_of_ne_nil unfinished
  have missing : isContinuation 0 = false := by decide
  have shape := encoded_encodeChar char
  rw [cut] at shape
  generalize joined : head :: front ++ next :: back = bytes at shape
  rw [decodeLossy]
  -- The bytes that are missing read as 0, where the reading stops.
  cases shape with
  | one => simp at joined
  | two _ _ width =>
    rcases front with _ | ⟨_, front⟩ <;> simp_all [decodeFront, secondAllowed_zero]
  | three _ _ _ width =>
    rcases front with _ | ⟨_, _ | ⟨_, front⟩⟩ <;> simp_all [decodeFront, secondAllowed_zero]
  | four _ _ _ _ width =>
    rcases front with _ | ⟨_, _ | ⟨_, _ | ⟨_, front⟩⟩⟩ <;> simp_all [decodeFront, secondAllowed_zero]

/-! ## Pieces -/

/-- Where the bytes of a text are cut: between two characters, or inside one. -/
inductive Cut : List Char → List UInt8 → List UInt8 → Prop
  | between (before after : List Char) : Cut (before ++ after) (encode before) (encode after)
  | inside (before : List Char) (char : Char) (after : List Char) (front back : List UInt8)
      (cut : encodeChar char = front ++ back) (begun : front ≠ []) (unfinished : back ≠ []) :
      Cut (before ++ char :: after) (encode before ++ front) (back ++ encode after)

theorem Cut.cons (char : Char)
    (cut : Cut text left right) : Cut (char :: text) (encodeChar char ++ left) right := by
  cases cut with
  | between before after => exact .between (char :: before) after
  | inside before other after front back cut begun unfinished =>
    rw [← append_assoc]
    exact .inside (char :: before) other after front back cut begun unfinished

theorem cut_cases (cut : encode text = left ++ right) : Cut text left right := by
  induction text generalizing left with
  | nil =>
    obtain ⟨rfl, rfl⟩ := append_eq_nil_iff.mp cut.symm
    exact .between [] []
  | cons char text ih =>
    rw [encode_cons] at cut
    rcases append_eq_append_iff.mp cut with ⟨later, rfl, isRest⟩ | ⟨back, isChar, rfl⟩
    · exact (ih isRest).cons char
    · rcases eq_or_ne left [] with rfl | begun
      · rw [nil_append] at isChar
        rw [← isChar]
        exact .between [] (char :: text)
      · rcases eq_or_ne back [] with rfl | unfinished
        · rw [append_nil] at isChar
          rw [← isChar, nil_append]
          have whole := Cut.between [char] text
          simpa using whole
        · exact .inside [] char text left back isChar begun unfinished

/-- Pieces give at least one character for each one of the text, and for each byte that was left of
one before. -/
theorem decodeLossy_pieces_length (continues : ∀ byte ∈ left, isContinuation byte = true)
    (whole : pieces.flatten = left ++ encode text) :
    left.length + text.length ≤ (pieces.flatMap decodeLossy).length := by
  induction pieces generalizing left text with
  | nil =>
    obtain ⟨rfl, none⟩ := append_eq_nil_iff.mp whole.symm
    simp [eq_nil_of_encode none]
  | cons piece pieces ih =>
    rw [flatMap_cons, length_append]
    rcases append_eq_append_iff.mp whole with ⟨later, rfl, isRest⟩ | ⟨later, rfl, isRest⟩
    · -- The piece lies in what was left of a character.
      have decoded := decodeLossy_continuations
        (fun byte member => continues byte (mem_append_left later member)) []
      have others := ih
        (fun byte member => continues byte (mem_append_right piece member)) isRest
      rw [append_nil] at decoded
      simp only [decoded, decodeLossy_nil, append_nil, length_replicate, length_append] at others ⊢
      omega
    · have cut := cut_cases isRest
      generalize others : pieces.flatten = rest at cut
      rw [decodeLossy_continuations continues, length_append, length_replicate]
      cases cut with
      | between _ after =>
        have bound := @ih after [] (by simp) others
        simp only [decodeLossy_encode, length_append, length_nil] at bound ⊢
        omega
      | inside _ _ _ _ _ cut begun unfinished =>
        have bound := ih (encodeChar_back cut begun) others
        simp only [decodeLossy_encode_append, decodeLossy_begun cut begun unfinished,
          length_append, length_cons, length_nil]
        omega

/-- A number of bytes after which a character of the text begins, or the text ends. -/
def Boundary (text : List Char) (position : Nat) : Prop :=
  ∃ before, before <+: text ∧ (encode before).length = position

/-- Behind a beginning of the text the boundaries are those of the rest. -/
theorem boundary_append (position : Nat) :
    Boundary (before ++ after) ((encode before).length + position) ↔ Boundary after position := by
  constructor
  · rintro ⟨reached, isFront, length⟩
    rcases prefix_or_prefix_of_prefix isFront (prefix_append before after) with
      ⟨missing, rfl⟩ | ⟨more, rfl⟩
    · rw [encode_append, length_append] at length
      exact ⟨[], nil_prefix, by simp only [encode_nil, length_nil]; omega⟩
    · rw [encode_append, length_append] at length
      exact ⟨more, (prefix_append_right_inj before).mp isFront, by omega⟩
  · rintro ⟨reached, isFront, rfl⟩
    refine ⟨before ++ reached, (prefix_append_right_inj before).mpr isFront, ?_⟩
    rw [encode_append, length_append]

/-- Inside a character there is none. -/
theorem not_boundary_inside {after : List Char} (cut : encodeChar char = front ++ back)
    (begun : front ≠ []) (unfinished : back ≠ []) : ¬ Boundary (char :: after) front.length := by
  rintro ⟨reached, isFront, length⟩
  cases reached with
  | nil => exact begun (length_eq_zero_iff.mp length.symm)
  | cons =>
    obtain ⟨rfl, -⟩ := cons_prefix_cons.mp isFront
    have more : 0 < back.length := length_pos_of_ne_nil unfinished
    rw [encode_cons, cut, length_append, length_append] at length
    omega

/-- Every piece ends at a boundary. -/
def Between (pieces : List (List UInt8)) (text : List Char) : Prop :=
  ∀ front, front <+: pieces → Boundary text front.flatten.length

theorem between_cons (pieces : List (List UInt8)) :
    Between (encode before :: pieces) (before ++ after) ↔ Between pieces after := by
  constructor
  · intro between front isFront
    have reached := between (encode before :: front) (cons_prefix_cons.mpr ⟨rfl, isFront⟩)
    rw [flatten_cons, length_append] at reached
    exact (boundary_append before after _).mp reached
  · intro between front isFront
    rcases prefix_cons_iff.mp isFront with rfl | ⟨front, rfl, isRest⟩
    · exact ⟨[], nil_prefix, rfl⟩
    · rw [flatten_cons, length_append]
      exact (boundary_append before after _).mpr (between front isRest)

/-- Pieces of the bytes of a text give the text back exactly when no cut is inside a character. -/
theorem decodeLossy_pieces_iff (whole : pieces.flatten = encode text) :
    pieces.flatMap decodeLossy = text ↔ Between pieces text := by
  induction pieces generalizing text with
  | nil =>
    refine ⟨fun _ front isFront => ?_, fun _ => (eq_nil_of_encode whole.symm).symm⟩
    rw [prefix_nil.mp isFront]
    exact ⟨[], nil_prefix, rfl⟩
  | cons _ pieces ih =>
    have cut := cut_cases (whole.symm.trans flatten_cons)
    generalize others : pieces.flatten = rest at cut
    cases cut with
    | between =>
      rw [flatMap_cons, decodeLossy_encode, append_cancel_left_eq, ih others, between_cons]
    | inside before _ _ front back cut begun unfinished =>
      refine ⟨fun same => absurd (congrArg List.length same) ?_, fun between => ?_⟩
      · -- One replacement for the beginning, and one at least for what is left.
        have bound := decodeLossy_pieces_length (encodeChar_back cut begun) others
        have more : 0 < back.length := length_pos_of_ne_nil unfinished
        simp only [flatMap_cons, decodeLossy_encode_append,
          decodeLossy_begun cut begun unfinished, length_append, length_cons,
          length_nil]
        omega
      · have reached := between [encode before ++ front] (cons_prefix_cons.mpr
          ⟨rfl, nil_prefix⟩)
        rw [flatten_singleton, length_append, boundary_append] at reached
        exact absurd reached (not_boundary_inside cut begun unfinished)

end HydraTerm.Lib.Utf8
