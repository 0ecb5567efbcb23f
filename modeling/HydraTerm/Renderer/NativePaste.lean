import HydraTerm.Lib.Markers

/-!
# Pasting in the native client

The text of the clipboard loses its NULs. In bracketed mode it also loses the markers of a bracketed
paste, pass after pass until a pass finds none: a marker that is deleted can bring the parts of another
together. Then the text is cut at a character boundary and put between the two markers.

Texts are lists of characters; lengths are in bytes of UTF-8.
-/

namespace HydraTerm.Renderer

open Lib List

/-! ## The payload -/

variable (text : List Char)

/-- `len` of a text. -/
def byteLen : Nat := (text.map Char.utf8Size).sum

/-- `MAX_PASTE_BYTES`. -/
def maxPasteBytes : Nat := 1024 * 1024

/-- `\x1b[200~`. -/
def pasteStart : List Char := ['\x1b', '[', '2', '0', '0', '~']

/-- `\x1b[201~`. -/
def pasteEnd : List Char := ['\x1b', '[', '2', '0', '1', '~']

/-- Both markers. -/
def pasteMarkers : MarkerSet Char where
  lead := '\x1b'
  tails := [pasteStart.tail, pasteEnd.tail]
  leadless := by decide
  prefixFree := by decide

/-- One of them. -/
def pasteMarker (tail : List Char) (isTail : tail ∈ pasteMarkers.tails) : MarkerSet Char where
  lead := '\x1b'
  tails := [tail]
  leadless := forall_mem_singleton.mpr (pasteMarkers.leadless tail isTail)
  prefixFree := by simp

/-- One pass of the loop: both `replace`s. -/
def stripPass : List Char :=
  (pasteMarker pasteEnd.tail (by decide)).strip
    ((pasteMarker pasteStart.tail (by decide)).strip text)

theorem byteLen_append (front back : List Char) :
    byteLen (front ++ back) = byteLen front + byteLen back := by
  simp [byteLen]

theorem reduces_replace {tail : List Char} (isTail : tail ∈ pasteMarkers.tails) (text : List Char) :
    pasteMarkers.Reduces text ((pasteMarker tail isTail).strip text) :=
  @MarkerSet.reduces_strip _ pasteMarkers _ (pasteMarker tail isTail) rfl
    (forall_mem_singleton.mpr isTail) text

theorem reduces_stripPass : pasteMarkers.Reduces text (stripPass text) :=
  (reduces_replace _ text).trans (reduces_replace _ _)

/-- A reduced text is the same or has fewer bytes. -/
theorem byteLen_reduced {text less : List Char} (reduces : pasteMarkers.Reduces text less) :
    less = text ∨ byteLen less < byteLen text :=
  reduces.eq_or_lt byteLen byteLen_append (by decide)

/-- The loop of `encode_paste`. -/
def stripMarkers (cleaned : List Char) : List Char :=
  let stripped := stripPass cleaned
  if byteLen stripped = byteLen cleaned then stripped else stripMarkers stripped
termination_by byteLen cleaned
decreasing_by
  rename_i differs
  exact (byteLen_reduced (reduces_stripPass cleaned)).resolve_left fun same =>
    differs (congrArg byteLen same)

/-- `is_char_boundary`. -/
def isCharBoundary (position : Nat) : Bool :=
  text.inits.any fun front => byteLen front == position

/-- The loop that looks back for a boundary. -/
def lastBoundary (text : List Char) : Nat → Nat
  | 0 => 0
  | stop + 1 => if isCharBoundary text (stop + 1) then stop + 1 else lastBoundary text stop

/-- `truncate`, at a boundary. -/
def truncate : List Char → Nat → List Char
  | [], _ => []
  | char :: rest, bytes =>
    if char.utf8Size ≤ bytes then char :: truncate rest (bytes - char.utf8Size) else []

/-- `encode_paste`. -/
def encodePaste (raw : List Char) (bracketedPaste : Bool) : Option (List Char) :=
  let cleaned := raw.filter (· ≠ '\x00')
  let cleaned := if bracketedPaste then stripMarkers cleaned else cleaned
  let cleaned :=
    if byteLen cleaned > maxPasteBytes then truncate cleaned (lastBoundary cleaned maxPasteBytes)
    else cleaned
  if cleaned.isEmpty then none
  else if bracketedPaste then some (pasteStart ++ cleaned ++ pasteEnd)
  else some cleaned

/-! ## What a bracketed paste holds -/

/-- A pass that finds nothing ends the loop at a text without markers. -/
theorem clear_of_stripPass {text : List Char} (same : stripPass text = text) :
    ¬ pasteMarkers.Occurs text := by
  have first := byteLen_reduced (reduces_replace (by decide : pasteStart.tail ∈ _) text)
  have second := byteLen_reduced (reduces_replace (by decide : pasteEnd.tail ∈ _)
    ((pasteMarker pasteStart.tail (by decide)).strip text))
  rw [← stripPass, same] at second
  have isSame : (pasteMarker pasteStart.tail (by decide)).strip text = text := by
    rcases second with same | less
    · exact same.symm
    · exact first.resolve_right (Nat.lt_asymm less)
  rw [stripPass, isSame] at same
  rintro ⟨tail, isTail, inside⟩
  rcases mem_pair.mp isTail with rfl | rfl
  · exact MarkerSet.clear_of_strip isSame ⟨_, mem_singleton_self _, inside⟩
  · exact MarkerSet.clear_of_strip same ⟨_, mem_singleton_self _, inside⟩

/-- The loop deletes markers until there is none. -/
theorem stripMarkers_spec :
    pasteMarkers.Reduces text (stripMarkers text) ∧ ¬ pasteMarkers.Occurs (stripMarkers text) := by
  fun_induction stripMarkers text with
  | case1 text stripped same =>
    have isSame : stripped = text :=
      (byteLen_reduced (reduces_stripPass text)).resolve_right (by rw [← same]; exact lt_irrefl _)
    rw [isSame]
    exact ⟨.refl, clear_of_stripPass isSame⟩
  | case2 text _ _ ih => exact ⟨(reduces_stripPass text).trans ih.1, ih.2⟩

/-- The longest beginning of the text that has at most so many bytes. -/
structure LongestWithin (bytes : Nat) (text content : List Char) : Prop where
  isPrefix : content <+: text
  fits : byteLen content ≤ bytes
  longest : ∀ other, other <+: text → byteLen other ≤ bytes → other <+: content

theorem truncate_longest (bytes : Nat) : LongestWithin bytes text (truncate text bytes) := by
  induction text generalizing bytes with
  | nil => exact ⟨prefix_refl _, Nat.zero_le _, fun _ isPrefix _ => isPrefix⟩
  | cons char _ ih =>
    rw [truncate]
    split
    next _ =>
      obtain ⟨isPrefix, within, longest⟩ := ih (bytes - char.utf8Size)
      refine ⟨cons_prefix_cons.mpr ⟨rfl, isPrefix⟩, ?_, fun other isPrefix small => ?_⟩
      · simp only [byteLen, map_cons, sum_cons] at within ⊢
        omega
      · rcases prefix_cons_iff.mp isPrefix with rfl | ⟨rest, rfl, restPrefix⟩
        · exact nil_prefix
        · refine cons_prefix_cons.mpr ⟨rfl, longest rest restPrefix ?_⟩
          simp only [byteLen, map_cons, sum_cons] at small ⊢
          omega
    next _ =>
      refine ⟨ nil_prefix, Nat.zero_le _, fun other isPrefix small => ?_⟩
      rcases prefix_cons_iff.mp isPrefix with rfl | ⟨rest, rfl, -⟩
      · exact prefix_refl _
      · simp only [byteLen, map_cons, sum_cons] at small
        omega

/-- The loop stops at the last boundary. -/
theorem lastBoundary_spec (text : List Char) (bytes : Nat) :
    lastBoundary text bytes ≤ bytes ∧
      ∀ front, front <+: text → byteLen front ≤ bytes → byteLen front ≤ lastBoundary text bytes := by
  induction bytes with
  | zero => exact ⟨Nat.le_refl _, fun _ _ small => small⟩
  | succ _ ih =>
    rw [lastBoundary]
    split
    · exact ⟨Nat.le_refl _, fun _ _ small => small⟩
    next inside =>
      refine ⟨Nat.le_succ_of_le ih.1, fun front isPrefix small => ih.2 front isPrefix ?_⟩
      refine Nat.le_of_lt_succ (lt_of_le_of_ne small fun atStop => ?_)
      refine inside ?_
      simpa [isCharBoundary] using ⟨front, isPrefix, atStop⟩

theorem truncated_longest (bytes : Nat) :
    LongestWithin bytes text
      (if byteLen text > bytes then truncate text (lastBoundary text bytes) else text) := by
  split
  · obtain ⟨most, last⟩ := lastBoundary_spec text bytes
    obtain ⟨isPrefix, fits, longest⟩ := truncate_longest text (lastBoundary text bytes)
    exact ⟨isPrefix, fits.trans most, fun other isPrefix small =>
      longest other isPrefix (last other isPrefix small)⟩
  next fits => exact ⟨prefix_refl _, Nat.le_of_not_lt fits, fun _ isPrefix _ => isPrefix⟩

/-- The start marker stands at the beginning and nowhere else, the end marker at the end and nowhere
else. -/
structure OnceEnclosed (payload : List Char) : Prop where
  begins : pasteStart <+: payload
  ends : pasteEnd <:+ payload
  onlyStart : ∀ before after, payload = before ++ pasteStart ++ after → before = []
  onlyEnd : ∀ before after, payload = before ++ pasteEnd ++ after → after = []

theorem onceEnclosed_of_clear {content : List Char} (clear : ¬ pasteMarkers.Occurs content) :
    OnceEnclosed (pasteStart ++ content ++ pasteEnd) := by
  have start : pasteStart.tail ∈ pasteMarkers.tails := by decide
  have stop : pasteEnd.tail ∈ pasteMarkers.tails := by decide
  refine ⟨⟨content ++ pasteEnd, by simp⟩, suffix_append _ _, ?_, ?_⟩
  · intro before after same
    rcases MarkerSet.only_wrapper start stop clear start same with ⟨atStart, _⟩ | ⟨_, other, _⟩
    · exact atStart
    · exact absurd other (by decide)
  · intro before after same
    rcases MarkerSet.only_wrapper start stop clear stop same with ⟨_, other⟩ | ⟨_, _, atEnd⟩
    · exact absurd other (by decide)
    · exact atEnd

/-- Deleting markers in any order from the text without NULs leads to one clear text. A bracketed paste
is the longest beginning of it that fits, put between the two markers, which stand nowhere else; or
nothing, if that is empty. -/
theorem bracketed_paste_normal (raw : List Char) :
    ∃ clean content,
      (∀ text, pasteMarkers.Reduces (raw.filter (· ≠ '\x00')) text ∧ ¬ pasteMarkers.Occurs text ↔
        text = clean) ∧
      LongestWithin maxPasteBytes clean content ∧
      encodePaste raw true = (if content = [] then none
        else some (pasteStart ++ content ++ pasteEnd)) ∧
      OnceEnclosed (pasteStart ++ content ++ pasteEnd) := by
  obtain ⟨reduces, clear⟩ := stripMarkers_spec (raw.filter (· ≠ '\x00'))
  generalize isClean : stripMarkers (raw.filter (· ≠ '\x00')) = clean at reduces clear
  have longest := truncated_longest clean maxPasteBytes
  refine ⟨clean, _, fun text => ⟨fun reached => ?_, fun same => same ▸ ⟨reduces, clear⟩⟩, longest, ?_, ?_⟩
  · exact MarkerSet.clear_unique reached.1 reduces reached.2 clear
  · simp only [encodePaste, if_true, isClean, List.isEmpty_iff]
  · refine onceEnclosed_of_clear fun occurs => clear ?_
    obtain ⟨more, same⟩ := longest.isPrefix
    rw [← same]
    exact occurs.append_right more

end HydraTerm.Renderer
