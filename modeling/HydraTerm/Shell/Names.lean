import Mathlib

/-!
# Unique names

Names of projects, windows and panes are kept unique in their scope by numbering
collisions (`names.rs`). Names are compared after trimming. A counter that does not fit in
64 bits is an arithmetic overflow, and the function then has no result.
-/

namespace HydraTerm.Shell

/-- The characters `str::trim` removes: those with the Unicode property `White_Space`. -/
def isWhiteSpace (char : Char) : Bool :=
  let code := char.toNat
  (0x9 ≤ code && code ≤ 0xD) || code = 0x20 || code = 0x85 || code = 0xA0 || code = 0x1680 ||
    (0x2000 ≤ code && code ≤ 0x200A) || code = 0x2028 || code = 0x2029 || code = 0x202F ||
    code = 0x205F || code = 0x3000

variable (text : List Char)

/-- Remove the white space at both ends. -/
def trim : List Char :=
  ((text.dropWhile isWhiteSpace).reverse.dropWhile isWhiteSpace).reverse

/-- The number a list of decimal digits denotes. -/
def digitsValue (digits : List Char) : Nat :=
  digits.foldl (fun value digit => value * 10 + (digit.toNat - '0'.toNat)) 0

/-- The text before the last blank, and what follows it. -/
def splitLastBlank : Option (List Char × List Char) :=
  let rest := text.reverse.takeWhile (· ≠ ' ')
  if rest.length = text.length then none
  else some (text.take (text.length - rest.length - 1), rest.reverse)

/-- A trailing blank and decimal counter of at least one, taken off its base. -/
def trailingCounter : Option (List Char × Nat) :=
  match splitLastBlank text with
  | none => none
  | some (base, rest) =>
    if base.isEmpty || rest.isEmpty || !rest.all Char.isDigit then none
    else if digitsValue rest < 2 ^ 64 ∧ 1 ≤ digitsValue rest then some (base, digitsValue rest)
    else none

/-- A base with a counter. -/
def numbered (base : List Char) (count : Nat) : List Char := base ++ ' ' :: (toString count).toList

/-- The first free numbered name from `count` on. One more try than there are taken names
always suffices. -/
def firstFree (base : List Char) (taken : List (List Char)) : Nat → Nat → Option (List Char)
  | 0, _ => none
  | tries + 1, count =>
    if 2 ^ 64 ≤ count then none
    else if taken.contains (numbered base count) then firstFree base taken tries (count + 1)
    else some (numbered base count)

/-- The desired name if it is free, else its base with the smallest free counter. -/
def uniqueName (desired : String) (existing : List String) : Option String :=
  let desired := trim desired.toList
  let taken := existing.map fun name => trim name.toList
  if taken.contains desired then
    let (base, start) := match trailingCounter desired with
      | some (base, count) => (base, count + 1)
      | none => (desired, 2)
    (firstFree base taken (existing.length + 1) start).map String.ofList
  else some (String.ofList desired)

/-! ## The name is free -/

open List

variable {text} {base : List Char} {taken : List (List Char)}

theorem trim_eq_self (first : ∀ char ∈ text.head?, isWhiteSpace char = false)
    (last : ∀ char ∈ text.getLast?, isWhiteSpace char = false) : trim text = text := by
  have front : text.dropWhile isWhiteSpace = text := by
    cases text with
    | nil => rfl
    | cons char rest => rw [dropWhile_cons_of_neg (by simp [first char rfl])]
  rw [trim, front]
  refine rdropWhile_eq_self_iff.mpr fun nonempty => ?_
  simp [last _ (getLast?_eq_some_getLast nonempty)]

theorem trim_head (char : Char) (isFirst : char ∈ (trim text).head?) :
    isWhiteSpace char = false := by
  obtain ⟨rest, joined⟩ : trim text <+: text.dropWhile isWhiteSpace := rdropWhile_prefix _ _
  have first : (text.dropWhile isWhiteSpace).head? = some char := by
    rw [← joined, head?_append, isFirst, Option.some_or]
  simpa [first] using head?_dropWhile_not isWhiteSpace text

theorem trim_getLast (char : Char) (isLast : char ∈ (trim text).getLast?) :
    isWhiteSpace char = false := by
  obtain ⟨nonempty, rfl⟩ := mem_getLast?_eq_getLast isLast
  exact Bool.eq_false_iff.mpr (rdropWhile_last_not isWhiteSpace _ nonempty)

theorem numbered_injective : Function.Injective (numbered base) := by
  intro count other same
  have digits := congrArg (Nat.ofDigitChars 10 · 0) (cons.inj (append_cancel_left same)).2
  simpa [Nat.ofDigitChars_toDigits] using digits

theorem isWhiteSpace_of_isDigit {char : Char} (digit : char.isDigit) :
    isWhiteSpace char = false := by
  obtain ⟨above, below⟩ := Bool.and_eq_true_iff.mp digit
  have low : 48 ≤ char.toNat := of_decide_eq_true above
  have high : char.toNat ≤ 57 := of_decide_eq_true below
  simp only [isWhiteSpace, Bool.or_eq_false_iff, Bool.and_eq_false_iff, decide_eq_false_iff_not]
  omega

/-- A numbered name begins as its base does, and ends in a digit. -/
theorem trim_numbered (first : ∀ char ∈ base.head?, isWhiteSpace char = false)
    (nonempty : base ≠ []) (count : Nat) : trim (numbered base count) = numbered base count := by
  refine trim_eq_self ?_ fun char isLast => ?_
  · rwa [numbered, head?_append_of_ne_nil _ nonempty]
  · have split : numbered base count = (base ++ [' ']) ++ Nat.toDigits 10 count := by
      simp [numbered]
    rw [split, getLast?_append_of_ne_nil _ Nat.toDigits_ne_nil] at isLast
    exact isWhiteSpace_of_isDigit
      (Nat.isDigit_of_mem_toDigits (by decide) (by decide) (mem_of_getLast? isLast))

/-- The search returns the first free number it reaches, or has found every number within its tries and
below the bound taken. -/
theorem firstFree_cases (tries count : Nat) :
    (∃ number, firstFree base taken tries count = some (numbered base number) ∧ count ≤ number ∧
      number < 2 ^ 64 ∧ numbered base number ∉ taken) ∨
    firstFree base taken tries count = none ∧ ∀ number, count ≤ number → number < count + tries →
      number < 2 ^ 64 → numbered base number ∈ taken := by
  induction tries generalizing count with
  | zero => exact .inr ⟨rfl, by omega⟩
  | succ tries ih =>
    rw [firstFree]
    split_ifs with fits isTaken
    · exact .inr ⟨rfl, by omega⟩
    · obtain ⟨number, found, above, rest⟩ | ⟨none, all⟩ := ih (count + 1)
      · exact .inl ⟨number, found, by omega, rest⟩
      · refine .inr ⟨none, fun number above below fits => ?_⟩
        obtain rfl | above := above.eq_or_lt
        · exact contains_iff_mem.mp isTaken
        · exact all number above (by omega) fits
    · exact .inl ⟨count, rfl, le_rfl, by omega, by simpa using isTaken⟩

/-- Of one more number than there are taken names, one gives a free name. -/
theorem exists_free (base : List Char) (taken : List (List Char)) (count : Nat) :
    ∃ number, count ≤ number ∧ number < count + (taken.length + 1) ∧
      numbered base number ∉ taken := by
  by_contra all
  push Not at all
  have distinct : ((range' count (taken.length + 1)).map (numbered base)).Nodup :=
    Nodup.map numbered_injective nodup_range'
  have among : (range' count (taken.length + 1)).map (numbered base) ⊆ taken := by
    intro name member
    obtain ⟨number, inRange, rfl⟩ := mem_map.mp member
    obtain ⟨above, below⟩ := mem_range'_1.mp inRange
    exact all number above below
  have few := (subperm_of_subset distinct among).length_le
  rw [length_map, length_range'] at few
  omega

theorem trailingCounter_base {count : Nat} (counted : trailingCounter text = some (base, count)) :
    base ≠ [] ∧ base <+: text := by
  unfold trailingCounter splitLastBlank at counted
  grind [ take_prefix]

/-- When a free name is found: the desired one is free, or it is empty and `2` is free, or one of the
numbers above its counter (above 1 if it has none) that fit 64 bits gives a free name. -/
def HasFreeName (desired : List Char) (taken : List (List Char)) : Prop :=
  let (base, count) := (trailingCounter desired).getD (desired, 1)
  desired ∉ taken ∨ desired = [] ∧ ['2'] ∉ taken ∨
    desired ≠ [] ∧ ∃ number, count < number ∧ number < 2 ^ 64 ∧ numbered base number ∉ taken

/-- With one more try than there are taken names, the search finds a free name exactly if a number that
fits gives one. -/
theorem firstFree_free_iff {base : List Char} {count : Nat}
    (first : ∀ char ∈ base.head?, isWhiteSpace char = false) (nonempty : base ≠ []) :
    (∃ name, firstFree base taken (taken.length + 1) (count + 1) = some name ∧ trim name ∉ taken) ↔
      ∃ number, count < number ∧ number < 2 ^ 64 ∧ numbered base number ∉ taken := by
  obtain ⟨number, found, above, fits, isFree⟩ | ⟨none, all⟩ :=
    @firstFree_cases base taken (taken.length + 1) (count + 1)
  · refine iff_of_true ⟨_, found, ?_⟩ ⟨number, above, fits, isFree⟩
    rwa [trim_numbered first nonempty]
  · refine iff_of_false (by simp [none]) ?_
    rintro ⟨number, above, fits, isFree⟩
    obtain ⟨least, low, high, leastFree⟩ := exists_free base taken (count + 1)
    -- The first free number is within the tries, so it is the one that does not fit.
    have : 2 ^ 64 ≤ least := by
      by_contra below
      exact leastFree (all least low high (by omega))
    exact isFree (all number above (by omega) fits)

/-- The search for a free name ends with one exactly if there is one to find. -/
theorem uniqueName_free_iff (desired : String) (existing : List String) :
    (∃ name, uniqueName desired existing = some name ∧
      ∀ other ∈ existing, trim other.toList ≠ trim name.toList) ↔
    HasFreeName (trim desired.toList) (existing.map fun other => trim other.toList) := by
  have trimmed : ∀ taken ∈ existing.map fun other => trim other.toList,
      ∀ char ∈ taken.head?, isWhiteSpace char = false := by
    simp only [mem_map]
    rintro _ ⟨other, -, rfl⟩
    exact trim_head
  have isFree (name : List Char) : (∀ other ∈ existing, trim other.toList ≠ trim name) ↔
      trim name ∉ existing.map fun other => trim other.toList := by simp
  have sameLength : (existing.map fun other => trim other.toList).length = existing.length :=
    length_map _
  simp only [uniqueName, isFree, ← sameLength]
  generalize (existing.map fun other => trim other.toList) = taken at trimmed
  by_cases isTaken : trim desired.toList ∈ taken
  · rw [if_pos (contains_iff_mem.mpr isTaken)]
    by_cases isEmpty : trim desired.toList = []
    · have unused : [' ', '2'] ∉ taken := fun isIn => absurd (trimmed _ isIn ' ' rfl) (by decide)
      have counted : trailingCounter [] = none := rfl
      have first : numbered [] 2 = [' ', '2'] := rfl
      have stripped : trim [' ', '2'] = ['2'] := rfl
      rw [isEmpty] at isTaken
      simp [HasFreeName, isEmpty, isTaken, counted, firstFree, first, unused, stripped]
    · cases counted : trailingCounter (trim desired.toList) with
      | none =>
        simpa [HasFreeName, isTaken, isEmpty, counted] using
          @firstFree_free_iff taken _ 1 trim_head isEmpty
      | some counter =>
        obtain ⟨some, rest, joined⟩ := trailingCounter_base counted
        have first : ∀ char ∈ counter.1.head?, isWhiteSpace char = false := fun char isFirst =>
          trim_head char (by rw [← joined, head?_append, isFirst, Option.some_or]; rfl)
        simpa [HasFreeName, isTaken, isEmpty, counted] using firstFree_free_iff first some
  · rw [if_neg (by simpa using isTaken)]
    refine iff_of_true ⟨_, rfl, ?_⟩ (.inl isTaken)
    rwa [String.toList_ofList, trim_eq_self trim_head trim_getLast]

/-- An empty name gets a number after a blank, which is then trimmed; and the largest counter has
no successor. -/
theorem uniqueName_taken :
    (uniqueName "" ["", "2"] = some " 2" ∧ trim " 2".toList = trim "2".toList) ∧
      uniqueName "a 18446744073709551615" ["a 18446744073709551615"] = none := by
  decide +kernel

end HydraTerm.Shell
