import HydraTerm.Browser.JsStrings

/-!
# Pasting into the terminal

A paste is cut to a bounded prefix, cleaned of NULs and, in bracketed mode, of the markers that
begin and end a paste, and then sent between those markers: whole, or as chunks that each have their
own pair.

The cleaning reads the text once. It skips a marker that stands in the text as it is. What it keeps
goes through a window of five code units, in which a marker that has come about by joining is found
and dropped.
-/

namespace HydraTerm.Browser

/-- `MAX_PASTE_BYTES`. -/
def maxPasteBytes : Nat := 1024 * 1024

/-- `BRACKETED_PASTE_START`. -/
def bracketedPasteStart : JsString := [0x1B, 0x5B, 0x32, 0x30, 0x30, 0x7E]

/-- `BRACKETED_PASTE_END`. -/
def bracketedPasteEnd : JsString := [0x1B, 0x5B, 0x32, 0x30, 0x31, 0x7E]

/-- `BRACKETED_PASTE_WRAPPER_BYTES`. -/
def bracketedPasteWrapperBytes : Nat := utf8Length (bracketedPasteStart ++ bracketedPasteEnd)

/-! ## Cleaning -/

/-- The variables of `sanitizePastePrefix`. -/
structure PasteScan where
  chunks : List JsString
  committed : JsString
  pending : JsString
  bytes : Nat
  offset : Nat

namespace PasteScan

/-- `commit`. -/
def commit (scan : PasteScan) (text : JsString) : PasteScan :=
  if (scan.committed ++ text).length ≥ 4096 then
    { scan with chunks := scan.chunks ++ [scan.committed ++ text], committed := [] }
  else { scan with committed := scan.committed ++ text }

variable (scan : PasteScan) (text : JsString)

@[simp] theorem commit_bytes : (scan.commit text).bytes = scan.bytes := by
  unfold commit
  split <;> rfl

@[simp] theorem commit_offset : (scan.commit text).offset = scan.offset := by
  unfold commit
  split <;> rfl

/-- Commit the code points that have left the window. -/
def settle (scan : PasteScan) : PasteScan :=
  if scan.pending.length > bracketedPasteStart.length - 1 then
    let width := codePointWidth (frontPoint scan.pending)
    settle { scan.commit (scan.pending.take width) with pending := scan.pending.drop width }
  else scan
termination_by scan.pending.length
decreasing_by
  have wide := codePointWidth_pos (frontPoint scan.pending)
  simp only [List.length_drop]
  omega

/-- Take one code point into the window; a marker that is complete in it goes. -/
def takePoint (bracketedPaste : Bool) (scan : PasteScan) (point : Nat) : PasteScan :=
  let pending := scan.pending ++ fromCodePoint point
  let bytes := scan.bytes + utf8CodePointBytes point
  if bracketedPaste &&
      (bracketedPasteStart.isSuffixOf pending || bracketedPasteEnd.isSuffixOf pending) then
    settle { scan with
      pending := pending.take (pending.length - bracketedPasteStart.length)
      bytes := bytes - bracketedPasteStart.length }
  else settle { scan with pending := pending, bytes := bytes }

theorem settle_offset : scan.settle.offset = scan.offset := by
  fun_induction settle with
  | case1 _ _ _ ih => simpa using ih
  | case2 => rfl

@[simp] theorem takePoint_offset (bracketedPaste : Bool) (point : Nat) :
    (scan.takePoint bracketedPaste point).offset = scan.offset := by
  simp only [takePoint]
  split
  · rw [settle_offset]
  · rw [settle_offset]

end PasteScan

/-- The marker that stands at an offset of the text. -/
def markerAt (raw : JsString) (bracketedPaste : Bool) (offset : Nat) : Option JsString :=
  if bracketedPaste then
    [bracketedPasteStart, bracketedPasteEnd].find? (·.isPrefixOf (raw.drop offset))
  else none

theorem markerAt_length {raw marker : JsString} {bracketedPaste : Bool} {offset : Nat}
    (found : markerAt raw bracketedPaste offset = some marker) : marker.length = 6 := by
  unfold markerAt at found
  split at found
  · have listed := List.mem_of_find?_eq_some found
    simp only [List.mem_cons, List.not_mem_nil, or_false] at listed
    rcases listed with rfl | rfl
    · rfl
    · rfl
  · cases found

variable (raw : JsString) (bracketedPaste : Bool) (maxBytes maxScannedCodeUnits : Nat) in
/-- The loop of `sanitizePastePrefix`. -/
def sanitizeLoop (scan : PasteScan) : PasteScan :=
  if scan.offset < maxScannedCodeUnits then
    match _found : markerAt raw bracketedPaste scan.offset with
    | some marker =>
      sanitizeLoop { scan with offset := scan.offset + marker.length }
    | none =>
      let point := codePointAt raw scan.offset
      let width := codePointWidth point
      if scan.offset + width > maxScannedCodeUnits then scan
      else if point = 0 then
        sanitizeLoop { scan with offset := scan.offset + width }
      else if scan.bytes + utf8CodePointBytes point > maxBytes then scan
      else
        sanitizeLoop
          (PasteScan.takePoint bracketedPaste { scan with offset := scan.offset + width } point)
  else scan
termination_by maxScannedCodeUnits - scan.offset
decreasing_by
  · rw [markerAt_length _found]
    omega
  · have wide := codePointWidth_pos (codePointAt raw scan.offset)
    omega
  · have wide := codePointWidth_pos (codePointAt raw scan.offset)
    simp only [PasteScan.takePoint_offset]
    omega

/-- `SanitizedPastePrefix`. -/
structure SanitizedPastePrefix where
  text : JsString
  bytes : Nat
  truncated : Bool

/-- `sanitizePastePrefix`. -/
def sanitizePastePrefix (raw : JsString) (bracketedPaste : Bool) (maxBytes : Nat) :
    SanitizedPastePrefix :=
  let maxScannedCodeUnits := min raw.length (max 64 (maxBytes * 4))
  let scan := sanitizeLoop raw bracketedPaste maxBytes maxScannedCodeUnits ⟨[], [], [], 0, 0⟩
  let last := scan.commit scan.pending
  ⟨(last.chunks ++ [last.committed]).flatten, scan.bytes, scan.offset < raw.length⟩

/-! ## Encoding -/

/-- Put content between the markers. -/
def bracketed (content : JsString) : JsString := bracketedPasteStart ++ content ++ bracketedPasteEnd

/-- `encodePaste`. -/
def encodePaste (raw : JsString) (bracketedPaste : Bool) : Option JsString :=
  let contentLimit := if bracketedPaste then maxPasteBytes - bracketedPasteWrapperBytes
    else maxPasteBytes
  let cleaned := (sanitizePastePrefix raw bracketedPaste contentLimit).text
  if cleaned.isEmpty then none else some (if bracketedPaste then bracketed cleaned else cleaned)

/-- The loop of `utf8Prefix`. -/
def utf8PrefixLoop (text : JsString) (maxBytes : Nat) (stop bytes : Nat) : Nat × Nat :=
  if stop < text.length then
    let point := codePointAt text stop
    if bytes + utf8CodePointBytes point > maxBytes then (stop, bytes)
    else utf8PrefixLoop text maxBytes (stop + codePointWidth point) (bytes + utf8CodePointBytes point)
  else (stop, bytes)
termination_by text.length - stop
decreasing_by
  have wide := codePointWidth_pos (codePointAt text stop)
  omega

/-- `utf8Prefix`: where the longest prefix within the bound ends, and its bytes. -/
def utf8Prefix (text : JsString) (start maxBytes : Nat) : Nat × Nat :=
  utf8PrefixLoop text maxBytes start 0

theorem utf8PrefixLoop_ge (text : JsString) (maxBytes stop bytes : Nat) :
    stop ≤ (utf8PrefixLoop text maxBytes stop bytes).1 := by
  fun_induction utf8PrefixLoop with
  | case1 => exact le_refl _
  | case2 _ _ _ _ _ ih => exact le_trans (by omega) ih
  | case3 => exact le_refl _

/-- The loop of `encodePasteChunks`. -/
def pasteChunksLoop (cleaned : JsString) (bracketedPaste : Bool) (maxPayloadBytes : Nat)
    (offset aggregateBudget : Nat) (out : List JsString) : List JsString :=
  if offset < cleaned.length then
    let wrapperBytes := if bracketedPaste then bracketedPasteWrapperBytes else 0
    if aggregateBudget ≤ wrapperBytes then out
    else
      let contentBudget := min (maxPayloadBytes - wrapperBytes) (aggregateBudget - wrapperBytes)
      let stop := utf8Prefix cleaned offset contentBudget
      if stop.1 = offset then out
      else
        let content := (cleaned.drop offset).take (stop.1 - offset)
        let payload := if bracketedPaste then bracketed content else content
        let payloadBytes := stop.2 + wrapperBytes
        if payloadBytes > maxPayloadBytes ∨ payloadBytes > aggregateBudget then out
        else
          pasteChunksLoop cleaned bracketedPaste maxPayloadBytes stop.1
            (aggregateBudget - payloadBytes) (out ++ [payload])
  else out
termination_by cleaned.length - offset
decreasing_by
  have grows : offset ≤ stop.1 := utf8PrefixLoop_ge cleaned contentBudget offset 0
  change cleaned.length - stop.1 < cleaned.length - offset
  omega

/-- The bounds that `encodePasteChunks` throws at. -/
inductive PasteRangeError
  | invalidChunkBound
  | boundCannotFitMarkers
  deriving DecidableEq

/-- `encodePasteChunks`. A bound is a natural number here; one above the safe integers is refused. -/
def encodePasteChunks (raw : JsString) (bracketedPaste : Bool) (maxPayloadBytes : Nat) :
    Except PasteRangeError (List JsString) :=
  if maxPayloadBytes ≥ 2 ^ 53 ∨ maxPayloadBytes = 0 then .error .invalidChunkBound
  else if bracketedPaste ∧ maxPayloadBytes ≤ bracketedPasteWrapperBytes then
    .error .boundCannotFitMarkers
  else
    .ok (pasteChunksLoop (sanitizePastePrefix raw bracketedPaste maxPasteBytes).text bracketedPaste
      maxPayloadBytes 0 maxPasteBytes [])

end HydraTerm.Browser
