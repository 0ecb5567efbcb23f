import Mathlib

/-!
# Strings of the browser

A JavaScript string is a sequence of 16-bit code units. Two units that form a surrogate pair are one
code point of the upper planes; a surrogate without its partner is a code point by itself. Encoded as
UTF-8 a code point takes one to four bytes, and a lone surrogate the three of its replacement.

Putting strings together can join two lone surrogates to a pair, so lengths in bytes add up only
where the second string does not begin with a low surrogate; otherwise the joined string is shorter.
-/

namespace HydraTerm.Browser

open List

/-- A JavaScript string. -/
abbrev JsString := List UInt16

/-- The first half of a pair. -/
def isHighSurrogate (unit : UInt16) : Bool := decide (0xD800 ≤ unit.toNat ∧ unit.toNat ≤ 0xDBFF)

/-- The second half of a pair. -/
def isLowSurrogate (unit : UInt16) : Bool := decide (0xDC00 ≤ unit.toNat ∧ unit.toNat ≤ 0xDFFF)

/-- The code point of a pair. -/
def pairPoint (high low : UInt16) : Nat :=
  0x10000 + (high.toNat - 0xD800) * 0x400 + (low.toNat - 0xDC00)

/-- The code point at the front of a string. -/
def frontPoint : JsString → Nat
  | [] => 0
  | [unit] => unit.toNat
  | first :: second :: _ =>
    if isHighSurrogate first && isLowSurrogate second then pairPoint first second else first.toNat

/-- `codePointAt`, for an offset within the string. -/
def codePointAt (text : JsString) (offset : Nat) : Nat := frontPoint (text.drop offset)

variable (point : Nat)

/-- The number of code units of a code point. -/
def codePointWidth : Nat := if point > 0xFFFF then 2 else 1

/-- `String.fromCodePoint`. -/
def fromCodePoint : JsString :=
  if point > 0xFFFF then
    [UInt16.ofNat (0xD800 + (point - 0x10000) / 0x400),
      UInt16.ofNat (0xDC00 + (point - 0x10000) % 0x400)]
  else [UInt16.ofNat point]

/-- `utf8CodePointBytes`. -/
def utf8CodePointBytes : Nat :=
  if point ≤ 0x7F then 1 else if point ≤ 0x7FF then 2 else if point ≤ 0xFFFF then 3 else 4

/-- The number of bytes that `TextEncoder` gives for a string. -/
def utf8Length : JsString → Nat
  | [] => 0
  | [unit] => utf8CodePointBytes unit.toNat
  | first :: second :: rest =>
    if isHighSurrogate first && isLowSurrogate second then 4 + utf8Length rest
    else utf8CodePointBytes first.toNat + utf8Length (second :: rest)

/-! ## Code points -/

theorem codePointWidth_pos : 0 < codePointWidth point := by
  unfold codePointWidth
  split <;> omega

variable (high low : UInt16)

/-- A pair stands for a code point of the upper planes. -/
theorem pairPoint_gt : 0xFFFF < pairPoint high low := by
  unfold pairPoint
  omega

theorem utf8CodePointBytes_pairPoint : utf8CodePointBytes (pairPoint high low) = 4 := by
  have upper := pairPoint_gt high low
  unfold utf8CodePointBytes
  rw [if_neg (by omega), if_neg (by omega), if_neg (by omega)]

/-- The halves of a pair are found again in its code point. -/
theorem fromCodePoint_pairPoint {high low : UInt16} (isHigh : isHighSurrogate high = true)
    (isLow : isLowSurrogate low = true) : fromCodePoint (pairPoint high low) = [high, low] := by
  simp only [isHighSurrogate, isLowSurrogate, decide_eq_true_eq] at isHigh isLow
  rw [fromCodePoint, if_pos (pairPoint_gt high low)]
  have highHalf : 0xD800 + (pairPoint high low - 0x10000) / 0x400 = high.toNat := by
    unfold pairPoint
    omega
  have lowHalf : 0xDC00 + (pairPoint high low - 0x10000) % 0x400 = low.toNat := by
    unfold pairPoint
    omega
  rw [highHalf, lowHalf, UInt16.ofNat_toNat, UInt16.ofNat_toNat]

/-- The code point at the front is that of the first units: one, or a pair. -/
inductive FrontPoint : JsString → Prop
  | single (unit : UInt16) (rest : JsString)
      (point : frontPoint (unit :: rest) = unit.toNat)
      (length : utf8Length (unit :: rest) = utf8CodePointBytes unit.toNat + utf8Length rest) :
      FrontPoint (unit :: rest)
  | pair (high low : UInt16) (rest : JsString) (isHigh : isHighSurrogate high = true)
      (isLow : isLowSurrogate low = true)
      (point : frontPoint (high :: low :: rest) = pairPoint high low)
      (length : utf8Length (high :: low :: rest) = 4 + utf8Length rest) :
      FrontPoint (high :: low :: rest)

variable {text : JsString} (unit : UInt16)

theorem frontPoint_cases (nonempty : text ≠ []) : FrontPoint text := by
  match text with
  | [unit] => exact .single unit [] rfl (by simp [utf8Length])
  | first :: second :: rest =>
    by_cases isPair : isHighSurrogate first && isLowSurrogate second
    · obtain ⟨isHigh, isLow⟩ := Bool.and_eq_true_iff.mp isPair
      exact .pair first second rest isHigh isLow (by rw [frontPoint, if_pos isPair])
        (by rw [utf8Length, if_pos isPair])
    · exact .single first (second :: rest) (by rw [frontPoint, if_neg isPair])
        (by rw [utf8Length, if_neg isPair])

theorem codePointWidth_unit : codePointWidth unit.toNat = 1 := by
  have bound := unit.toNat_lt
  rw [codePointWidth, if_neg (by omega)]

theorem codePointWidth_pairPoint : codePointWidth (pairPoint high low) = 2 := by
  rw [codePointWidth, if_pos (pairPoint_gt high low)]

theorem fromCodePoint_unit : fromCodePoint unit.toNat = [unit] := by
  have bound := unit.toNat_lt
  rw [fromCodePoint, if_neg (by omega), UInt16.ofNat_toNat]

/-- The code point at the front gives back the units it was read from. -/
theorem take_width_frontPoint (nonempty : text ≠ []) :
    text.take (codePointWidth (frontPoint text)) = fromCodePoint (frontPoint text) := by
  cases frontPoint_cases nonempty with
  | single _ _ point => rw [point, codePointWidth_unit, fromCodePoint_unit]; rfl
  | pair _ _ _ isHigh isLow point =>
    rw [point, codePointWidth_pairPoint, fromCodePoint_pairPoint isHigh isLow]
    rfl

/-! ## Lengths in bytes -/

/-- A string that does not begin with a low surrogate begins a code point wherever it is put. -/
theorem utf8Length_append {first : JsString} {second : JsString}
    (starts : ∀ unit rest, second = unit :: rest → isLowSurrogate unit = false) :
    utf8Length (first ++ second) = utf8Length first + utf8Length second := by
  induction first using utf8Length.induct with
  | case1 => simp [utf8Length]
  | case2 =>
    cases second with
    | nil => simp [utf8Length]
    | cons next rest =>
      simp [utf8Length, starts next rest rfl]
  | case3 _ _ _ isPair ih =>
    simp only [cons_append, utf8Length, isPair, if_true, ih]
    omega
  | case4 _ _ _ noPair ih =>
    rw [cons_append] at ih
    rw [cons_append, cons_append, utf8Length, if_neg noPair, ih, utf8Length, if_neg noPair]
    omega

/-- A unit below the surrogates is a code point by itself. -/
theorem utf8Length_cons_of_low {unit : UInt16} (low : unit.toNat < 0xD800) (text : JsString) :
    utf8Length (unit :: text) = utf8CodePointBytes unit.toNat + utf8Length text := by
  cases @frontPoint_cases (unit :: text) (cons_ne_nil _ _) with
  | single _ _ _ length => exact length
  | pair _ _ _ isHigh =>
    simp only [isHighSurrogate, decide_eq_true_eq] at isHigh
    omega

/-- A unit at the front adds at most the bytes it has by itself. -/
theorem utf8Length_cons_le (text : JsString) :
    utf8Length (unit :: text) ≤ utf8CodePointBytes unit.toNat + utf8Length text := by
  cases text with
  | nil => simp [utf8Length]
  | cons next rest =>
    rw [utf8Length]
    split
    next isPair =>
      -- A pair takes four bytes, its halves by themselves six.
      have lone (half : UInt16) (isSurrogate : 0xD800 ≤ half.toNat) :
          utf8CodePointBytes half.toNat = 3 := by
        have bound := half.toNat_lt
        rw [utf8CodePointBytes, if_neg (by omega), if_neg (by omega), if_pos (by omega)]
      simp only [Bool.and_eq_true, isHighSurrogate, isLowSurrogate, decide_eq_true_eq] at isPair
      have rests : utf8Length rest + 3 ≤ utf8Length (next :: rest) := by
        cases rest with
        | nil => simp [utf8Length, lone next (by omega)]
        | cons third =>
          have noHigh : ¬ (isHighSurrogate next && isLowSurrogate third) = true := by
            simp only [Bool.and_eq_true, isHighSurrogate, decide_eq_true_eq]
            omega
          rw [utf8Length, if_neg noHigh, lone next (by omega)]
          omega
      rw [lone unit (by omega)]
      omega
    · exact le_refl _

/-- Joining strings never adds bytes. -/
theorem utf8Length_append_le (first second : JsString) :
    utf8Length (first ++ second) ≤ utf8Length first + utf8Length second := by
  induction first using utf8Length.induct with
  | case1 => simp [utf8Length]
  | case2 unit => exact utf8Length_cons_le unit second
  | case3 _ _ _ isPair =>
    simp only [cons_append, utf8Length, isPair, if_true]
    omega
  | case4 _ _ _ noPair ih =>
    rw [cons_append] at ih
    rw [cons_append, cons_append, utf8Length, if_neg noPair, utf8Length, if_neg noPair]
    omega

/-- The bytes of a string are those of its first code point and of the rest. -/
theorem utf8Length_frontPoint (nonempty : text ≠ []) :
    codePointWidth (frontPoint text) ≤ text.length ∧
      utf8Length text = utf8CodePointBytes (frontPoint text) +
        utf8Length (text.drop (codePointWidth (frontPoint text))) := by
  cases frontPoint_cases nonempty with
  | single _ _ point length => simp [point, length, codePointWidth_unit]
  | pair _ _ _ _ _ point length =>
    simp [point, length, codePointWidth_pairPoint, utf8CodePointBytes_pairPoint]

theorem utf8CodePointBytes_bounds : 1 ≤ utf8CodePointBytes point ∧ utf8CodePointBytes point ≤ 4 := by
  unfold utf8CodePointBytes
  split_ifs <;> decide

/-- A string has at least a byte for each unit. -/
theorem length_le_utf8Length (text : JsString) : text.length ≤ utf8Length text := by
  induction text using utf8Length.induct with
  | case1 => rfl
  | case2 unit => exact (utf8CodePointBytes_bounds unit.toNat).1
  | case3 _ _ _ isPair ih =>
    rw [utf8Length, if_pos isPair, length_cons, length_cons]
    omega
  | case4 first _ _ noPair ih =>
    have := utf8CodePointBytes_bounds first.toNat
    rw [utf8Length, if_neg noPair, length_cons]
    omega

/-- A beginning of a string has no more bytes. -/
theorem utf8Length_le_append (first second : JsString) :
    utf8Length first ≤ utf8Length (first ++ second) := by
  induction first using utf8Length.induct with
  | case1 => exact Nat.zero_le _
  | case2 unit =>
    have most := (utf8CodePointBytes_bounds unit.toNat).2
    cases @frontPoint_cases (unit :: second) (cons_ne_nil _ _) with
    | single _ _ _ length | pair _ _ _ _ _ _ length =>
      rw [singleton_append, length, utf8Length]
      omega
  | case3 _ _ _ isPair ih =>
    simp only [cons_append, utf8Length, isPair, if_true]
    omega
  | case4 _ _ _ noPair ih =>
    rw [cons_append] at ih
    rw [cons_append, cons_append, utf8Length, if_neg noPair, utf8Length, if_neg noPair]
    omega

/-- An end of a string has no more bytes. -/
theorem utf8Length_drop_le (text : JsString) (count : Nat) :
    utf8Length (text.drop count) ≤ utf8Length text := by
  induction count generalizing text with
  | zero => exact le_refl _
  | succ count ih =>
    cases text with
    | nil => exact le_refl _
    | cons unit rest =>
      refine (ih rest).trans ?_
      cases @frontPoint_cases (unit :: rest) (cons_ne_nil _ _) with
      | single _ _ _ length => omega
      | pair _ low rest _ _ _ length =>
        have joined := utf8Length_cons_le low rest
        have most := utf8CodePointBytes_bounds low.toNat
        omega

/-- What follows a string that does not end in a high surrogate leaves its first code point. -/
theorem frontPoint_append {first : JsString} (nonempty : first ≠ [])
    (ends : ∀ unit ∈ first.getLast?, isHighSurrogate unit = false) (second : JsString) :
    frontPoint (first ++ second) = frontPoint first := by
  obtain ⟨unit, rest, rfl⟩ := exists_cons_of_ne_nil nonempty
  cases rest with
  | cons => rfl
  | nil =>
    cases second with
    | nil => rfl
    | cons => simp [frontPoint, ends unit rfl]

/-- A code point written by itself has its own bytes. -/
theorem utf8Length_fromCodePoint_frontPoint (nonempty : text ≠ []) :
    utf8Length (fromCodePoint (frontPoint text)) = utf8CodePointBytes (frontPoint text) := by
  cases frontPoint_cases nonempty with
  | single _ _ point => rw [point, fromCodePoint_unit, utf8Length]
  | pair _ _ _ isHigh isLow point =>
    rw [point, fromCodePoint_pairPoint isHigh isLow, utf8CodePointBytes_pairPoint]
    simp [utf8Length, isHigh, isLow]

end HydraTerm.Browser
