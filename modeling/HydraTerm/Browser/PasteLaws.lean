import HydraTerm.Browser.PasteEncoder
import HydraTerm.Lib.Markers

/-!
# What a paste leaves between its markers

The cleaning is two passes in one. The loop takes out the markers that stand in the text, and its
window takes out those that the first pass and the dropped NULs have brought together. Nothing takes
out what the second pass brings together: a marker with a marker inside it that has a marker inside
it again comes out whole. Two passes are what a paste can rely on: a text in which they leave no
marker (`Unjoined`) is enclosed, and one that fits a paste is enclosed only then. Of a longer text
the end is cut off, so there the cleaned text itself says whether it is enclosed (`Encloses`).

The window is five code units, aligned to code points. It need not hold the last five of the text,
since a surrogate pair leaves it whole; it does hold every end of the text that could begin a marker
(`Remembers`), and that is enough for the second pass to be the one of `MarkerSet.strip`.
-/

namespace HydraTerm.Browser

open Lib List

/-- The two markers of bracketed paste. -/
def pasteMarkers : MarkerSet UInt16 where
  lead := 0x1B
  tails := [[0x5B, 0x32, 0x30, 0x30, 0x7E], [0x5B, 0x32, 0x30, 0x31, 0x7E]]
  leadless := by decide
  prefixFree := by decide

variable {tail window rest : JsString} {offset : Nat} (raw : JsString)

/-- A marker is one of the two. -/
theorem pasteMarkers_cases (isTail : tail ∈ pasteMarkers.tails) :
    pasteMarkers.lead :: tail = bracketedPasteStart ∨
      pasteMarkers.lead :: tail = bracketedPasteEnd := by
  simp only [pasteMarkers, mem_cons, not_mem_nil, or_false] at isTail
  rcases isTail with rfl | rfl
  · exact .inl rfl
  · exact .inr rfl

/-- A marker without its last unit, which is a tilde, has five plain units. -/
theorem pasteMarkers_shape (isTail : tail ∈ pasteMarkers.tails) :
    ∃ body : JsString, pasteMarkers.lead :: tail = body ++ [0x7E] ∧ body.length = 5 ∧
      ∀ unit ∈ body, unit.toNat < 0xD800 := by
  rcases pasteMarkers_cases isTail with isStart | isEnd
  · exact ⟨bracketedPasteStart.take 5, isStart.trans rfl, rfl, by simp [bracketedPasteStart]⟩
  · exact ⟨bracketedPasteEnd.take 5, isEnd.trans rfl, rfl, by simp [bracketedPasteEnd]⟩

theorem pasteMarkers_length (isTail : tail ∈ pasteMarkers.tails) :
    (pasteMarkers.lead :: tail).length = bracketedPasteStart.length := by
  rcases pasteMarkers_cases isTail with isStart | isEnd
  · rw [isStart]
  · rw [isEnd]
    rfl

/-- What is left of a text after the markers, the NULs and the markers again are taken out. -/
def twicePassed : JsString :=
  pasteMarkers.strip ((pasteMarkers.strip raw).filter (· != 0))

/-- Two passes leave no marker. -/
def Unjoined : Prop := ¬ pasteMarkers.Occurs (twicePassed raw)
  deriving Decidable

/-! ## The window -/

/-- An end of a text that may be the beginning of a marker: at most five units, none a surrogate. -/
structure Plain (units : JsString) : Prop where
  short : units.length ≤ 5
  low : ∀ unit ∈ units, unit.toNat < 0xD800

/-- The second text is an end of the first and has all its plain ends. -/
structure Remembers (text window : JsString) : Prop where
  isEnd : window <:+ text
  plain : ∀ units, Plain units → units <:+ text → units <:+ window

theorem Remembers.refl (text : JsString) : Remembers text text :=
  ⟨suffix_refl text, fun _ _ isEnd => isEnd⟩

theorem Remembers.trans {text window shorter : JsString} (first : Remembers text window)
    (second : Remembers window shorter) : Remembers text shorter :=
  ⟨second.isEnd.trans first.isEnd,
    fun units isPlain isEnd => second.plain units isPlain (first.plain units isPlain isEnd)⟩

/-- Both go on with the same units. -/
theorem Remembers.append {text window : JsString} (remembers : Remembers text window)
    (more : JsString) : Remembers (text ++ more) (window ++ more) := by
  constructor
  · obtain ⟨front, rfl⟩ := remembers.isEnd
    exact ⟨front, by simp⟩
  · rintro units isPlain ⟨before, same⟩
    rcases append_eq_append_iff.mp same with ⟨front, isText, rfl⟩ | ⟨skipped, -, isMore⟩
    · have frontEnd : front <:+ text := ⟨before, isText.symm⟩
      have frontPlain : Plain front :=
        ⟨by have := isPlain.short; simp only [length_append] at this; omega,
          fun unit isUnit => isPlain.low unit (mem_append_left more isUnit)⟩
      obtain ⟨skipped, rfl⟩ := remembers.plain front frontPlain frontEnd
      exact ⟨skipped, by simp⟩
    · exact ⟨window ++ skipped, by rw [isMore, append_assoc]⟩

/-- A window of more than five units may lose its first code point. -/
theorem Remembers.drop_front (long : 5 < window.length) :
    Remembers window (window.drop (codePointWidth (frontPoint window))) := by
  refine ⟨drop_suffix _ _, fun units isPlain isEnd => ?_⟩
  have nonempty : window ≠ [] := by
    rintro rfl
    simp at long
  have short := isPlain.short
  cases frontPoint_cases nonempty with
  | single unit rest point =>
    rw [point, codePointWidth_unit, drop_one, tail_cons]
    simp only [length_cons] at long
    exact suffix_of_suffix_length_le isEnd (suffix_cons unit rest) (by omega)
  | pair high low rest _ isLow point =>
    rw [point, codePointWidth_pairPoint]
    -- An end that reached into the pair would hold its low half.
    have within : units <:+ low :: rest := by
      simp only [length_cons] at long
      exact suffix_of_suffix_length_le isEnd (suffix_cons high _) (by simp; omega)
    rcases suffix_cons_iff.mp within with rfl | inRest
    · have isPlainUnit := isPlain.low low (by simp)
      simp only [isLowSurrogate, decide_eq_true_eq] at isLow
      omega
    · exact inRest

namespace PasteScan

/-- All that has been kept so far. -/
def text (scan : PasteScan) : JsString := scan.chunks.flatten ++ scan.committed ++ scan.pending

/-- Moving units from the front of the window to what is committed changes nothing in the text. -/
theorem commit_text (scan : PasteScan) (units rest : JsString) :
    ({ scan.commit units with pending := rest } : PasteScan).text =
      scan.chunks.flatten ++ scan.committed ++ (units ++ rest) := by
  unfold commit text
  split <;> simp

/-- `settle` keeps the text and what the window has to remember, and bounds the window. -/
theorem settle_spec (scan : PasteScan) :
    scan.settle.text = scan.text ∧ scan.settle.bytes = scan.bytes ∧
      scan.settle.pending.length ≤ 5 ∧ Remembers scan.pending scan.settle.pending := by
  fun_induction settle with
  | case1 _ long _ ih =>
    obtain ⟨sameText, sameBytes, bound, remembers⟩ := ih
    refine ⟨?_, sameBytes.trans (commit_bytes _ _), bound, (Remembers.drop_front long).trans remembers⟩
    rw [sameText, commit_text, take_append_drop, text]
  | case2 _ short =>
    exact ⟨rfl, rfl, Nat.le_of_not_lt short, Remembers.refl _⟩

end PasteScan

/-! ## One code point -/

namespace PasteScan

/-- The cleaning so far: what the second pass has left of the units it was given is the text, which
ends in a window without markers; and the bytes are counted. -/
structure Passed (scan : PasteScan) (given done window : JsString) : Prop where
  text : scan.text = done ++ window
  strip : ∀ more, pasteMarkers.strip (given ++ more) = done ++ pasteMarkers.strip (window ++ more)
  clear : ¬ pasteMarkers.Occurs window
  remembers : Remembers window scan.pending
  short : scan.pending.length ≤ 5

variable {unit : UInt16}

/-- A marker at the end of the window after one unit has been in the short window, and the other way
round. -/
theorem marker_iff {window pending : JsString} (remembers : Remembers window pending)
    (isTail : tail ∈ pasteMarkers.tails) (unit : UInt16) :
    pasteMarkers.lead :: tail <:+ pending ++ [unit] ↔
      pasteMarkers.lead :: tail <:+ window ++ [unit] := by
  constructor
  · intro ends
    exact ends.trans (remembers.append [unit]).isEnd
  · intro ends
    obtain ⟨body, isBody, _, low⟩ := pasteMarkers_shape isTail
    rw [isBody] at ends ⊢
    obtain ⟨before, same⟩ := ends
    rw [← append_assoc] at same
    obtain ⟨rfl, isLast⟩ := append_inj' same rfl
    obtain ⟨skipped, rfl⟩ := remembers.plain body ⟨by omega, low⟩ (suffix_append before body)
    exact ⟨skipped, by rw [← isLast, append_assoc]⟩

/-- The test of `takePoint`. -/
theorem endsInMarker_iff (pending : JsString) :
    (bracketedPasteStart.isSuffixOf pending || bracketedPasteEnd.isSuffixOf pending) = true ↔
      ∃ tail ∈ pasteMarkers.tails, pasteMarkers.lead :: tail <:+ pending := by
  simp [pasteMarkers, bracketedPasteStart, bracketedPasteEnd]

/-- No marker ends in a surrogate. -/
theorem marker_not_suffix (isTail : tail ∈ pasteMarkers.tails)
    (isSurrogate : 0xD800 ≤ unit.toNat) : ¬ pasteMarkers.lead :: tail <:+ window ++ [unit] := by
  rintro ⟨before, same⟩
  obtain ⟨_, isBody, -, -⟩ := pasteMarkers_shape isTail
  rw [isBody, ← append_assoc] at same
  obtain ⟨-, isLast⟩ := append_inj' same rfl
  cases isLast
  exact absurd isSurrogate (by decide)

/-- A surrogate brings no marker. -/
theorem clear_surrogate (clear : ¬ pasteMarkers.Occurs window)
    (isSurrogate : 0xD800 ≤ unit.toNat) : ¬ pasteMarkers.Occurs (window ++ [unit]) := by
  intro occurs
  rcases occurs.last with inside | ⟨tail, isTail, ends⟩
  · exact clear inside
  · exact marker_not_suffix isTail isSurrogate ends

variable {scan : PasteScan} {given done : JsString} {maxBytes : Nat}

section

variable (passed : scan.Passed given done window)
include passed

theorem Passed.moved (offset : Nat) :
    ({ scan with offset := offset } : PasteScan).Passed given done window :=
  ⟨passed.text, passed.strip, passed.clear, passed.remembers, passed.short⟩

/-- Units that complete no marker go into the window. -/
theorem Passed.extend (units : JsString) (bytes : Nat)
    (clear : ¬ pasteMarkers.Occurs (window ++ units)) :
    ({ scan with pending := scan.pending ++ units, bytes := bytes } : PasteScan).settle.Passed
      (given ++ units) done (window ++ units) := by
  obtain ⟨sameText, -, short, remembers⟩ :=
    settle_spec { scan with pending := scan.pending ++ units, bytes := bytes }
  refine ⟨?_, fun more => ?_, clear, (passed.remembers.append units).trans remembers, short⟩
  · have before := passed.text
    rw [sameText]
    simp only [PasteScan.text] at before ⊢
    rw [← append_assoc, before, append_assoc]
  · rw [append_assoc, passed.strip, append_assoc]

/-- A unit that completes a marker empties the window, and the text loses the marker. -/
theorem Passed.complete (isTail : tail ∈ pasteMarkers.tails) (bytes : Nat)
    (ends : pasteMarkers.lead :: tail <:+ scan.pending ++ [unit]) :
    ∃ front, ({ scan with
      pending := (scan.pending ++ [unit]).take
        ((scan.pending ++ [unit]).length - bracketedPasteStart.length)
      bytes := bytes } : PasteScan).settle.Passed (given ++ [unit]) (done ++ front) [] := by
  obtain ⟨front, isFront⟩ := (marker_iff passed.remembers isTail unit).mp ends
  refine ⟨front, ?_⟩
  -- The short window and the unit are the marker.
  have isMarker : scan.pending ++ [unit] = pasteMarkers.lead :: tail := by
    refine (ends.eq_of_length_le ?_).symm
    have short := passed.short
    rw [pasteMarkers_length isTail]
    simp only [length_append, bracketedPasteStart, length_cons, length_nil]
    omega
  have emptied : (scan.pending ++ [unit]).take
      ((scan.pending ++ [unit]).length - bracketedPasteStart.length) = [] := by
    rw [isMarker, pasteMarkers_length isTail, Nat.sub_self, take_zero]
  obtain ⟨sameText, -, short, remembers⟩ := settle_spec
    { scan with
      pending := (scan.pending ++ [unit]).take
        ((scan.pending ++ [unit]).length - bracketedPasteStart.length)
      bytes := bytes }
  simp only [emptied] at sameText short remembers ⊢
  have frontClear : ¬ pasteMarkers.Occurs front := by
    intro occurs
    obtain ⟨body, isBody, -, -⟩ := pasteMarkers_shape isTail
    rw [isBody, ← append_assoc] at isFront
    have isWindow : front ++ body = window := append_inj_left' isFront rfl
    exact passed.clear (isWindow ▸ occurs.append_right body)
  refine ⟨?_, fun more => ?_, ?_, remembers, short⟩
  · have before := passed.text
    rw [sameText]
    simp only [PasteScan.text] at before ⊢
    have withUnit : scan.chunks.flatten ++ scan.committed ++ (pasteMarkers.lead :: tail) =
        done ++ front ++ (pasteMarkers.lead :: tail) := by
      rw [← isMarker, ← append_assoc, before, append_assoc, append_assoc, isMarker, isFront]
    rw [append_nil, append_nil]
    exact append_cancel_right withUnit
  · rw [append_assoc, passed.strip, ← append_assoc window, ← isFront,
      MarkerSet.strip_of_complete isTail frontClear, nil_append, append_assoc]
  · rintro ⟨tail, -, inside⟩
    exact absurd inside (by simp)

/-- One code point through the window, when bracketed. -/
theorem Passed.takePoint (nonempty : rest ≠ []) :
    ∃ done window, (scan.takePoint true (frontPoint rest)).Passed
      (given ++ fromCodePoint (frontPoint rest)) done window := by
  by_cases ends : (bracketedPasteStart.isSuffixOf (scan.pending ++ fromCodePoint (frontPoint rest)) ||
      bracketedPasteEnd.isSuffixOf (scan.pending ++ fromCodePoint (frontPoint rest))) = true
  · simp only [PasteScan.takePoint, Bool.true_and, if_pos ends]
    obtain ⟨_, isTail, isEnd⟩ := (endsInMarker_iff _).mp ends
    cases frontPoint_cases nonempty with
    | single _ _ point =>
      rw [point, fromCodePoint_unit] at isEnd ⊢
      obtain ⟨_, after⟩ := passed.complete isTail _ isEnd
      exact ⟨_, _, after⟩
    | pair _ _ _ isHigh isLow point =>
      rw [point, fromCodePoint_pairPoint isHigh isLow, append_cons] at isEnd
      simp only [isLowSurrogate, decide_eq_true_eq] at isLow
      exact absurd isEnd (marker_not_suffix isTail (by omega))
  · simp only [PasteScan.takePoint, Bool.true_and, if_neg ends]
    refine ⟨_, _, passed.extend _ _ ?_⟩
    cases frontPoint_cases nonempty with
    | single unit _ point =>
      rw [point, fromCodePoint_unit] at ends ⊢
      intro occurs
      rcases occurs.last with inside | ⟨tail, isTail, isEnd⟩
      · exact passed.clear inside
      · exact ends ((endsInMarker_iff _).mpr
          ⟨tail, isTail, (marker_iff passed.remembers isTail unit).mpr isEnd⟩)
    | pair _ _ _ isHigh isLow point =>
      rw [point, fromCodePoint_pairPoint isHigh isLow, append_cons]
      simp only [isHighSurrogate, isLowSurrogate, decide_eq_true_eq] at isHigh isLow
      exact clear_surrogate (clear_surrogate passed.clear (by omega)) (by omega)

end

/-- The text has at most the bytes that are counted, and these keep the bound. -/
structure Counted (maxBytes : Nat) (scan : PasteScan) : Prop where
  length : utf8Length scan.text ≤ scan.bytes
  bound : scan.bytes ≤ maxBytes

/-- The bytes of a marker are its units. -/
theorem utf8Length_marker (isTail : tail ∈ pasteMarkers.tails) (text : JsString) :
    utf8Length (text ++ pasteMarkers.lead :: tail) = utf8Length text + bracketedPasteStart.length := by
  rw [utf8Length_append (fun unit rest same => (List.cons.inj same).1 ▸ by decide)]
  rcases pasteMarkers_cases isTail with isStart | isEnd
  · rw [isStart]
    rfl
  · rw [isEnd]
    rfl

theorem Counted.settle (counted : Counted maxBytes scan) : Counted maxBytes scan.settle := by
  obtain ⟨sameText, sameBytes, -, -⟩ := settle_spec scan
  exact ⟨by rw [sameText, sameBytes]; exact counted.length, by rw [sameBytes]; exact counted.bound⟩

theorem takePoint_bytes_le (bracketedPaste : Bool) (scan : PasteScan) (point : Nat) :
    (scan.takePoint bracketedPaste point).bytes ≤ scan.bytes + utf8CodePointBytes point := by
  simp only [PasteScan.takePoint]
  split <;> simp only [(settle_spec _).2.1] <;> omega

theorem Counted.takePoint (counted : Counted maxBytes scan) (bracketedPaste : Bool)
    (nonempty : rest ≠ []) (fits : scan.bytes + utf8CodePointBytes (frontPoint rest) ≤ maxBytes) :
    Counted maxBytes (scan.takePoint bracketedPaste (frontPoint rest)) := by
  have longer : utf8Length (scan.text ++ fromCodePoint (frontPoint rest)) ≤
      scan.bytes + utf8CodePointBytes (frontPoint rest) := by
    have joined := utf8Length_append_le scan.text (fromCodePoint (frontPoint rest))
    have before := counted.length
    rw [utf8Length_fromCodePoint_frontPoint nonempty] at joined
    omega
  simp only [PasteScan.takePoint]
  split
  next ends =>
    obtain ⟨tail, isTail, front, isEnd⟩ := (endsInMarker_iff _).mp (Bool.and_eq_true_iff.mp ends).2
    apply Counted.settle
    have isFront : (scan.pending ++ fromCodePoint (frontPoint rest)).take
        ((scan.pending ++ fromCodePoint (frontPoint rest)).length - bracketedPasteStart.length) =
          front := by
      rw [← isEnd, ← pasteMarkers_length isTail, length_append, Nat.add_sub_cancel, take_left']
      rfl
    have withMarker : scan.text ++ fromCodePoint (frontPoint rest) =
        scan.chunks.flatten ++ scan.committed ++ front ++ pasteMarkers.lead :: tail := by
      simp only [text]
      rw [append_assoc _ scan.pending, ← isEnd]
      simp
    rw [withMarker, utf8Length_marker isTail] at longer
    constructor
    · simp only [text, isFront]
      omega
    · dsimp only
      omega
  next =>
    apply Counted.settle
    exact ⟨by simpa [text] using longer, fits⟩

end PasteScan

/-! ## The loop -/

/-- A marker at an offset is followed by the text behind it. -/
theorem markerAt_some {raw marker : JsString} (found : markerAt raw true offset = some marker) :
    pasteMarkers.strip (raw.drop offset) = pasteMarkers.strip (raw.drop (offset + marker.length)) := by
  have begins := find?_some found
  have listed := mem_of_find?_eq_some found
  obtain ⟨later, isLater⟩ := isPrefixOf_iff_prefix.mp begins
  have isRest : raw.drop (offset + marker.length) = later := by
    rw [← drop_drop, ← isLater, drop_left]
  obtain ⟨tail, isTail, rfl⟩ : ∃ tail ∈ pasteMarkers.tails, marker = pasteMarkers.lead :: tail := by
    simp only [mem_cons, not_mem_nil, or_false] at listed
    rcases listed with rfl | rfl
    · exact ⟨_, mem_cons_self, rfl⟩
    · exact ⟨_, mem_cons_of_mem _ mem_cons_self, rfl⟩
  rw [isRest, ← isLater, MarkerSet.strip_marker isTail]

/-- Where no marker stands, the first pass keeps the code point. -/
theorem markerAt_none {raw : JsString} (absent : markerAt raw true offset = none)
    (inside : offset < raw.length) :
    pasteMarkers.strip (raw.drop offset) = fromCodePoint (codePointAt raw offset) ++
      pasteMarkers.strip (raw.drop (offset + codePointWidth (codePointAt raw offset))) := by
  have noMarker : ∀ tail ∈ pasteMarkers.tails, ¬ pasteMarkers.lead :: tail <+: raw.drop offset := by
    intro tail isTail begins
    have missing := find?_eq_none.mp absent (pasteMarkers.lead :: tail) (by
      rcases pasteMarkers_cases isTail with isStart | isEnd
      · simp [isStart]
      · simp [isEnd])
    exact missing ( isPrefixOf_iff_prefix.mpr begins)
  have nonempty : raw.drop offset ≠ [] := by simpa using inside
  rw [codePointAt, ← drop_drop]
  generalize raw.drop offset = rest at noMarker nonempty
  cases frontPoint_cases nonempty with
  | single _ _ point =>
    rw [MarkerSet.strip_cons noMarker, point, codePointWidth_unit, fromCodePoint_unit]
    rfl
  | pair _ low rest isHigh isLow point =>
    have noLead : low ≠ pasteMarkers.lead := by
      rintro rfl
      revert isLow
      decide
    rw [MarkerSet.strip_cons noMarker, MarkerSet.strip_cons_of_ne rest noLead, point,
      codePointWidth_pairPoint, fromCodePoint_pairPoint isHigh isLow]
    rfl

/-- Dropping the NULs drops the code point NUL and no other. -/
theorem fromCodePoint_filter (nonempty : rest ≠ []) :
    (fromCodePoint (frontPoint rest)).filter (· != 0) =
      if frontPoint rest = 0 then [] else fromCodePoint (frontPoint rest) := by
  cases frontPoint_cases nonempty with
  | single unit _ point =>
    rw [point, fromCodePoint_unit]
    by_cases isNul : unit = 0
    · rw [isNul]
      rfl
    · have isPoint : unit.toNat ≠ 0 := fun same => isNul (UInt16.toNat_inj.mp same)
      simp [isNul, isPoint]
  | pair high low _ isHigh isLow point =>
    have upper := pairPoint_gt high low
    rw [point, fromCodePoint_pairPoint isHigh isLow, if_neg (by omega)]
    have nonzero (unit : UInt16) (large : 0xD800 ≤ unit.toNat) : (unit != 0) = true := by
      refine bne_iff_ne.mpr fun isNul => ?_
      rw [isNul] at large
      exact absurd large (by decide)
    simp only [isHighSurrogate, isLowSurrogate, decide_eq_true_eq] at isHigh isLow
    simp [nonzero high (by omega), nonzero low (by omega)]

/-- The first pass has read up to the offset, and the second has taken what it left. -/
def Cleaned (scan : PasteScan) : Prop :=
  ∃ read done window, pasteMarkers.strip raw = read ++ pasteMarkers.strip (raw.drop scan.offset) ∧
    scan.Passed (read.filter (· != 0)) done window

theorem cleaned_initial : Cleaned raw ⟨[], [], [], 0, 0⟩ :=
  ⟨[], [], [], rfl, rfl, fun _ => rfl, by decide, Remembers.refl [], Nat.zero_le 5⟩

section

variable {raw} {maxBytes maxScannedCodeUnits : Nat} {scan : PasteScan}
  (within : maxScannedCodeUnits ≤ raw.length)
include within

/-- The loop keeps it, wherever it stops. -/
theorem sanitizeLoop_cleaned (cleaned : Cleaned raw scan) :
    Cleaned raw (sanitizeLoop raw true maxBytes maxScannedCodeUnits scan) := by
  fun_induction sanitizeLoop with
  | case1 _ _ _ found ih =>
    obtain ⟨read, done, window, isRead, passed⟩ := cleaned
    refine ih ⟨read, done, window, ?_, passed.moved _⟩
    rw [isRead, markerAt_some found]
  | case2 => exact cleaned
  | case3 scan _ absent point _ _ isNul ih =>
    obtain ⟨read, done, window, isRead, passed⟩ := cleaned
    have nonempty : raw.drop scan.offset ≠ [] := by simp; omega
    refine ih ⟨read ++ fromCodePoint point, done, window, ?_, ?_⟩
    · rw [isRead, markerAt_none absent (by omega), append_assoc]
    · have dropped : (fromCodePoint point).filter (· != 0) = [] :=
        (fromCodePoint_filter nonempty).trans (if_pos isNul)
      rw [filter_append, dropped, append_nil]
      exact passed.moved _
  | case4 => exact cleaned
  | case5 scan _ absent point width _ notNul _ ih =>
    obtain ⟨read, done, window, isRead, passed⟩ := cleaned
    have nonempty : raw.drop scan.offset ≠ [] := by simp; omega
    obtain ⟨done, window, after⟩ := (passed.moved (scan.offset + width)).takePoint nonempty
    refine ih ⟨read ++ fromCodePoint point, done, window, ?_, ?_⟩
    · rw [isRead, markerAt_none absent (by omega), append_assoc, PasteScan.takePoint_offset]
    · have kept : (fromCodePoint point).filter (· != 0) = fromCodePoint point :=
        (fromCodePoint_filter nonempty).trans (if_neg notNul)
      rw [filter_append, kept]
      exact after
  | case6 => exact cleaned

/-- The loop counts the bytes, in both modes. -/
theorem sanitizeLoop_counted {bracketedPaste : Bool} (counted : scan.Counted maxBytes) :
    (sanitizeLoop raw bracketedPaste maxBytes maxScannedCodeUnits scan).Counted maxBytes := by
  fun_induction sanitizeLoop with
  | case1 _ _ _ _ ih =>
    exact ih ⟨counted.length, counted.bound⟩
  | case2 => exact counted
  | case3 _ _ _ _ _ _ _ ih =>
    exact ih ⟨counted.length, counted.bound⟩
  | case4 => exact counted
  | case5 scan _ _ _ width _ _ fits ih =>
    have nonempty : raw.drop scan.offset ≠ [] := by simp; omega
    have moved : ({ scan with offset := scan.offset + width } : PasteScan).Counted maxBytes :=
      ⟨counted.length, counted.bound⟩
    exact ih (moved.takePoint bracketedPaste nonempty (Nat.le_of_not_lt fits))
  | case6 => exact counted

end

/-! ## The cleaned text -/

variable (maxBytes : Nat)

/-- Where the loop stops. -/
def scanned : PasteScan :=
  sanitizeLoop raw true maxBytes (min raw.length (max 64 (maxBytes * 4))) ⟨[], [], [], 0, 0⟩

/-- The text is what the loop has kept. -/
theorem sanitizePastePrefix_text :
    (sanitizePastePrefix raw true maxBytes).text = (scanned raw maxBytes).text := by
  have moved := (scanned raw maxBytes).commit_text (scanned raw maxBytes).pending []
  simpa [sanitizePastePrefix, PasteScan.text, scanned] using moved

theorem sanitizePastePrefix_length :
    utf8Length (sanitizePastePrefix raw true maxBytes).text ≤ maxBytes := by
  have counted : (scanned raw maxBytes).Counted maxBytes :=
    sanitizeLoop_counted (Nat.min_le_left _ _) ⟨Nat.le_refl 0, Nat.zero_le _⟩
  rw [sanitizePastePrefix_text]
  exact le_trans counted.length counted.bound

theorem scanned_cleaned : Cleaned raw (scanned raw maxBytes) :=
  sanitizeLoop_cleaned (Nat.min_le_left _ _) (cleaned_initial raw)

/-- Two passes that leave no marker leave none in the text, also where it is cut short. -/
theorem sanitizePastePrefix_clear {raw : JsString} (unjoined : Unjoined raw) :
    ¬ pasteMarkers.Occurs (sanitizePastePrefix raw true maxBytes).text := by
  obtain ⟨_, _, _, isRead, passed⟩ := scanned_cleaned raw maxBytes
  intro occurs
  rw [sanitizePastePrefix_text, passed.text] at occurs
  refine unjoined ?_
  rw [twicePassed, isRead, filter_append, passed.strip]
  exact MarkerSet.occurs_of_cut passed.clear occurs _

/-- A text that is not cut short is what the two passes leave. -/
theorem sanitizePastePrefix_whole {raw : JsString} {maxBytes : Nat}
    (whole : (sanitizePastePrefix raw true maxBytes).truncated = false) :
    (sanitizePastePrefix raw true maxBytes).text = twicePassed raw := by
  obtain ⟨_, _, _, isRead, passed⟩ := scanned_cleaned raw maxBytes
  have read : raw.length ≤ (scanned raw maxBytes).offset := by
    simpa [sanitizePastePrefix, scanned] using whole
  rw [drop_eq_nil_of_le read, MarkerSet.strip_nil, append_nil] at isRead
  rw [sanitizePastePrefix_text, passed.text, twicePassed, isRead]
  have second := passed.strip []
  rw [append_nil, append_nil, MarkerSet.strip_of_clear passed.clear] at second
  exact second.symm

/-- The bytes of a text from an offset on are those of the code point there and of what follows
it. -/
theorem utf8Length_codePointAt {text : JsString} (inside : offset < text.length) :
    offset + codePointWidth (codePointAt text offset) ≤ text.length ∧
      utf8Length (text.drop offset) = utf8CodePointBytes (codePointAt text offset) +
        utf8Length (text.drop (offset + codePointWidth (codePointAt text offset))) := by
  obtain ⟨width, length⟩ := @utf8Length_frontPoint (text.drop offset) (by simpa using inside)
  rw [length_drop] at width
  rw [← drop_drop]
  exact ⟨by unfold codePointAt; omega, length⟩

/-- The loop reads a text that fits the bound to its end. -/
theorem sanitizeLoop_reads {raw : JsString} {maxBytes : Nat} {scan : PasteScan}
    (fits : scan.bytes + utf8Length (raw.drop scan.offset) ≤ maxBytes) :
    raw.length ≤ (sanitizeLoop raw true maxBytes raw.length scan).offset := by
  fun_induction sanitizeLoop with
  | case1 scan _ marker _ ih =>
    have shorter := utf8Length_drop_le (raw.drop scan.offset) marker.length
    rw [drop_drop] at shorter
    exact ih (by dsimp only; omega)
  | case2 _ inside _ _ _ outside =>
    exact absurd (utf8Length_codePointAt inside).1 (Nat.not_le_of_lt outside)
  | case3 scan inside _ point width _ _ ih =>
    have length : utf8Length (raw.drop scan.offset) = utf8CodePointBytes point +
      utf8Length (raw.drop (scan.offset + width)) := (utf8Length_codePointAt inside).2
    exact ih (by dsimp only; omega)
  | case4 scan inside _ point _ _ _ tooMany =>
    have length : utf8Length (raw.drop scan.offset) = utf8CodePointBytes point + _ :=
      (utf8Length_codePointAt inside).2
    omega
  | case5 scan inside _ point width _ _ _ ih =>
    have length : utf8Length (raw.drop scan.offset) = utf8CodePointBytes point +
      utf8Length (raw.drop (scan.offset + width)) := (utf8Length_codePointAt inside).2
    have bytes := PasteScan.takePoint_bytes_le true
      { scan with offset := scan.offset + width } point
    exact ih (by rw [PasteScan.takePoint_offset]; dsimp only at *; omega)
  | case6 => omega

/-- So a text that fits the bound is left as the two passes leave it. -/
theorem sanitizePastePrefix_fits {raw : JsString} {maxBytes : Nat} (fits : utf8Length raw ≤ maxBytes) :
    (sanitizePastePrefix raw true maxBytes).text = twicePassed raw := by
  have units := length_le_utf8Length raw
  have limit : min raw.length (max 64 (maxBytes * 4)) = raw.length := by omega
  have toEnd : raw.length ≤ (sanitizeLoop raw true maxBytes raw.length ⟨[], [], [], 0, 0⟩).offset :=
    sanitizeLoop_reads (by simpa using fits)
  exact sanitizePastePrefix_whole (by simpa [sanitizePastePrefix, limit] using toEnd)

/-! ## The payloads -/

/-- Both markers stand in a payload once, the first at its beginning and the second at its end. -/
structure Enclosed (payload : JsString) : Prop where
  begins : bracketedPasteStart <+: payload
  ends : bracketedPasteEnd <:+ payload
  oneStart : ∀ before after, payload = before ++ bracketedPasteStart ++ after → before = []
  oneEnd : ∀ before after, payload = before ++ bracketedPasteEnd ++ after → after = []

/-- Content between the markers is enclosed exactly when it holds none. -/
theorem enclosed_bracketed_iff (content : JsString) :
    Enclosed (bracketed content) ↔ ¬ pasteMarkers.Occurs content := by
  have isStart : ([0x5B, 0x32, 0x30, 0x30, 0x7E] : JsString) ∈ pasteMarkers.tails := by decide
  have isEnd : ([0x5B, 0x32, 0x30, 0x31, 0x7E] : JsString) ∈ pasteMarkers.tails := by decide
  constructor
  · rintro enclosed ⟨tail, isTail, before, after, rfl⟩
    rcases pasteMarkers_cases isTail with same | same
    · rw [same] at enclosed
      have early := enclosed.oneStart (bracketedPasteStart ++ before) (after ++ bracketedPasteEnd)
        (by simp [bracketed])
      simp [bracketedPasteStart] at early
    · rw [same] at enclosed
      have late := enclosed.oneEnd (bracketedPasteStart ++ before) (after ++ bracketedPasteEnd)
        (by simp [bracketed])
      simp [bracketedPasteEnd] at late
  · intro clear
    refine ⟨⟨content ++ bracketedPasteEnd, by simp [bracketed]⟩,
      ⟨bracketedPasteStart ++ content, by simp [bracketed]⟩, ?_, ?_⟩
    · intro before after same
      rcases MarkerSet.only_wrapper isStart isEnd clear isStart same with ⟨early, -⟩ | ⟨-, other, -⟩
      · exact early
      · exact absurd other (by decide)
    · intro before after same
      rcases MarkerSet.only_wrapper isStart isEnd clear isEnd same with ⟨-, other⟩ | ⟨-, -, late⟩
      · exact absurd other (by decide)
      · exact late

theorem utf8Length_bracketed (content : JsString) :
    utf8Length (bracketed content) = utf8Length content + bracketedPasteWrapperBytes := by
  have isEnd : ([0x5B, 0x32, 0x30, 0x31, 0x7E] : JsString) ∈ pasteMarkers.tails := by decide
  have ended : utf8Length (content ++ bracketedPasteEnd) = utf8Length content + 6 :=
    PasteScan.utf8Length_marker isEnd content
  simp (disch := decide) only [bracketed, bracketedPasteStart, cons_append, nil_append,
    utf8Length_cons_of_low, ended]
  change 1 + (1 + (1 + (1 + (1 + (1 + (utf8Length content + 6)))))) = utf8Length content + 12
  omega

/-- `utf8Prefix` counts the bytes of the part it finds, within the bound. -/
theorem utf8PrefixLoop_spec {text : JsString} {maxBytes start stop bytes : Nat}
    (after : start ≤ stop)
    (counted : utf8Length ((text.drop start).take (stop - start)) ≤ bytes) (bound : bytes ≤ maxBytes) :
    utf8Length ((text.drop start).take ((utf8PrefixLoop text maxBytes stop bytes).1 - start)) ≤
        (utf8PrefixLoop text maxBytes stop bytes).2 ∧
      (utf8PrefixLoop text maxBytes stop bytes).2 ≤ maxBytes := by
  fun_induction utf8PrefixLoop with
  | case1 => exact ⟨counted, bound⟩
  | case2 stop _ inside point fits ih =>
    refine ih (by omega) ?_ (Nat.le_of_not_lt fits)
    have nonempty : text.drop stop ≠ [] := by simpa using inside
    have longer : (text.drop start).take (stop + codePointWidth point - start) =
        (text.drop start).take (stop - start) ++ fromCodePoint point := by
      rw [show stop + codePointWidth point - start = stop - start + codePointWidth point by omega,
        take_add, drop_drop, show start + (stop - start) = stop by omega]
      exact congrArg _ (take_width_frontPoint nonempty)
    have joined := utf8Length_append_le ((text.drop start).take (stop - start)) (fromCodePoint point)
    have single : utf8Length (fromCodePoint point) = utf8CodePointBytes point :=
      utf8Length_fromCodePoint_frontPoint nonempty
    rw [longer]
    omega
  | case3 => exact ⟨counted, bound⟩

/-- `utf8Prefix` reaches the end of every beginning of the text that fits the bound and does not cut a
pair. -/
theorem utf8PrefixLoop_max {text front rest : JsString} {maxBytes stop bytes : Nat}
    (isText : text = front ++ rest)
    (ends : ∀ unit ∈ front.getLast?, isHighSurrogate unit = false)
    (fits : bytes + utf8Length (front.drop stop) ≤ maxBytes) :
    front.length ≤ (utf8PrefixLoop text maxBytes stop bytes).1 := by
  -- Within such a beginning the loop reads its code points, which its bytes are the sum of.
  have next (stop : Nat) (inside : stop < front.length) :
      utf8Length (front.drop stop) = utf8CodePointBytes (codePointAt text stop) +
        utf8Length (front.drop (stop + codePointWidth (codePointAt text stop))) := by
    have isPoint : codePointAt text stop = codePointAt front stop := by
      rw [codePointAt, isText, drop_append_of_le_length inside.le]
      refine frontPoint_append (by simpa using inside) (fun unit isLast => ends unit ?_) rest
      rwa [getLast?_drop, if_neg (by omega)] at isLast
    rw [isPoint]
    exact (utf8Length_codePointAt inside).2
  fun_induction utf8PrefixLoop with
  | case1 stop _ _ point tooMany =>
    by_contra inside
    have length : utf8Length (front.drop stop) = utf8CodePointBytes point + _ :=
      next stop (Nat.lt_of_not_le inside)
    omega
  | case2 stop _ _ point _ ih =>
    by_cases inside : stop < front.length
    · have length : utf8Length (front.drop stop) = utf8CodePointBytes point +
          utf8Length (front.drop (stop + codePointWidth point)) := next stop inside
      exact ih (by omega)
    · exact (Nat.le_of_not_lt inside).trans ((Nat.le_add_right ..).trans (utf8PrefixLoop_ge ..))
  | case3 _ _ atEnd =>
    rw [isText, length_append] at atEnd
    dsimp only
    omega

/-- The contents of chunks: consecutive parts of the text from its beginning, which between markers
are each within the bound and all within the budget. -/
structure Chunked (text : JsString) (maxPayloadBytes budget : Nat) (contents : List JsString) :
    Prop where
  begins : contents.flatten <+: text
  each : ∀ content ∈ contents, utf8Length (bracketed content) ≤ maxPayloadBytes
  total : (contents.map fun content => utf8Length (bracketed content)).sum ≤ budget

/-- The chunks are made of the rest of the text. -/
theorem pasteChunksLoop_spec (cleaned : JsString)
    (maxPayloadBytes offset aggregateBudget : Nat) (out : List JsString) :
    ∃ contents, pasteChunksLoop cleaned true maxPayloadBytes offset aggregateBudget out =
        out ++ contents.map bracketed ∧
      Chunked (cleaned.drop offset) maxPayloadBytes aggregateBudget contents := by
  fun_induction pasteChunksLoop with
  | case1 | case2 | case3 | case5 => exact ⟨[], by simp, by simp, nofun, Nat.zero_le _⟩
  | case4 offset aggregateBudget out inside wrapper budget contentBudget stop moved content payload
      payloadBytes fits ih =>
    obtain ⟨contents, isRest, begins, each, _⟩ := ih
    have counted : utf8Length content ≤ stop.2 :=
      (utf8PrefixLoop_spec (Nat.le_refl offset) (by simp [utf8Length]) (Nat.zero_le _)).1
    have grows : offset ≤ stop.1 := utf8PrefixLoop_ge cleaned contentBudget offset 0
    have wrapped : utf8Length (bracketed content) ≤ payloadBytes :=
      (utf8Length_bracketed content).trans_le (Nat.add_le_add_right counted _)
    refine ⟨content :: contents, ?_, ?_, ?_, ?_⟩
    · rw [isRest, append_assoc]
      rfl
    · have split : content ++ cleaned.drop stop.1 = cleaned.drop offset := by
        rw [← Nat.add_sub_cancel' grows, ← drop_drop]
        exact take_append_drop _ _
      rw [flatten_cons, ← split]
      exact (prefix_append_right_inj content).mpr begins
    · rintro other (_ | ⟨_, later⟩)
      · omega
      · exact each other later
    · rw [map_cons, sum_cons]
      omega

/-- A bound at which bracketed chunks are not refused. -/
def AdmissibleBound (maxPayloadBytes : Nat) : Prop :=
  bracketedPasteWrapperBytes < maxPayloadBytes ∧ maxPayloadBytes < 2 ^ 53
  deriving Decidable

/-- The chunks of a paste, and what was put between their markers. -/
theorem encodePasteChunks_ok {maxPayloadBytes : Nat}
    (admissible : AdmissibleBound maxPayloadBytes) :
    ∃ contents, encodePasteChunks raw true maxPayloadBytes = .ok (contents.map bracketed) ∧
      Chunked (sanitizePastePrefix raw true maxPasteBytes).text maxPayloadBytes maxPasteBytes
        contents := by
  obtain ⟨fitsMarkers, _⟩ := admissible
  obtain ⟨contents, isOut, chunked⟩ := pasteChunksLoop_spec
    (sanitizePastePrefix raw true maxPasteBytes).text maxPayloadBytes 0 maxPasteBytes []
  refine ⟨contents, ?_, chunked⟩
  rw [encodePasteChunks, if_neg (by omega), if_neg (by simpa using fitsMarkers), isOut]
  rfl

/-- What `encodePaste` returns is the cleaned text between the markers. -/
theorem encodePaste_eq_some {raw payload : JsString}
    (encoded : encodePaste raw true = some payload) :
    payload = bracketed
      (sanitizePastePrefix raw true (maxPasteBytes - bracketedPasteWrapperBytes)).text := by
  simp only [encodePaste, if_true] at encoded
  split at encoded
  · cases encoded
  · exact (Option.some.inj encoded).symm

/-- No beginning of the text that fits one paste holds a marker. -/
def Contained (text : JsString) : Prop :=
  ∀ front, front <+: text → utf8Length (bracketed front) ≤ maxPasteBytes → ¬ pasteMarkers.Occurs front

/-- What is sent for a text is enclosed, the whole paste and the chunks at every bound. -/
def Encloses : Prop :=
  (∀ payload, encodePaste raw true = some payload → Enclosed payload) ∧
    ∀ maxPayloadBytes payloads, encodePasteChunks raw true maxPayloadBytes = .ok payloads →
      ∀ payload ∈ payloads, Enclosed payload

theorem encodePaste_enclosed_iff :
    (∀ payload, encodePaste raw true = some payload → Enclosed payload) ↔ ¬ pasteMarkers.Occurs
      (sanitizePastePrefix raw true (maxPasteBytes - bracketedPasteWrapperBytes)).text := by
  constructor
  · intro enclosed
    by_cases isEmpty :
        (sanitizePastePrefix raw true (maxPasteBytes - bracketedPasteWrapperBytes)).text = []
    · rw [isEmpty]
      decide
    · rw [← enclosed_bracketed_iff]
      apply enclosed
      simp only [encodePaste, if_true]
      rw [if_neg (by simpa using isEmpty)]
  · intro clear payload encoded
    rwa [encodePaste_eq_some encoded, enclosed_bracketed_iff]

/-- Content in one payload takes no more bytes than in several. -/
theorem utf8Length_flatten_le (content : JsString) (contents : List JsString) :
    utf8Length (bracketed (content :: contents).flatten) ≤
      ((content :: contents).map fun content => utf8Length (bracketed content)).sum := by
  have rest : utf8Length contents.flatten ≤
      (contents.map fun content => utf8Length (bracketed content)).sum := by
    induction contents with
    | nil => exact le_refl _
    | cons next later ih =>
      have joined := utf8Length_append_le next later.flatten
      rw [flatten_cons, map_cons, sum_cons, utf8Length_bracketed]
      omega
  have joined := utf8Length_append_le content contents.flatten
  rw [utf8Length_bracketed, map_cons, sum_cons, utf8Length_bracketed, flatten_cons]
  omega

/-- At the largest bound the first chunk holds every beginning of the text that fits one paste. -/
theorem firstChunk_holds {cleaned front rest : JsString} (isText : cleaned = front ++ rest)
    (nonempty : front ≠ []) (ends : ∀ unit ∈ front.getLast?, isHighSurrogate unit = false)
    (fits : utf8Length (bracketed front) ≤ maxPasteBytes) :
    ∃ content, front <+: content ∧
      bracketed content ∈ pasteChunksLoop cleaned true maxPasteBytes 0 maxPasteBytes [] := by
  have room : bracketedPasteWrapperBytes < maxPasteBytes := by decide
  rw [utf8Length_bracketed] at fits
  obtain ⟨⟨stop, bytes⟩, isStop⟩ : ∃ stop, utf8Prefix cleaned 0 (maxPasteBytes -
    bracketedPasteWrapperBytes) = stop := ⟨_, rfl⟩
  have reached : front.length ≤ stop := by
    have most := @utf8PrefixLoop_max cleaned front rest
      (maxPasteBytes - bracketedPasteWrapperBytes) 0 0 isText ends (by rw [drop_zero]; omega)
    rwa [show utf8PrefixLoop _ _ _ _ = _ from isStop] at most
  have bound : bytes ≤ maxPasteBytes - bracketedPasteWrapperBytes := by
    have spec := @utf8PrefixLoop_spec cleaned (maxPasteBytes - bracketedPasteWrapperBytes) 0 0 0
      (le_refl 0) (by simp [utf8Length]) (Nat.zero_le _)
    rw [show utf8PrefixLoop _ _ _ _ = _ from isStop] at spec
    exact spec.2
  have positive := length_pos_iff.mpr nonempty
  refine ⟨cleaned.take stop, prefix_take_iff.mpr ⟨⟨rest, isText.symm⟩, reached⟩, ?_⟩
  rw [pasteChunksLoop, if_pos (by rw [isText, length_append]; omega)]
  simp only [if_true, min_self, if_neg (Nat.not_le_of_lt room), isStop,
    if_neg (show stop ≠ 0 by omega), drop_zero, Nat.sub_zero, nil_append]
  rw [if_neg (by omega)]
  obtain ⟨_, isOut, -⟩ := pasteChunksLoop_spec cleaned maxPasteBytes stop
    (maxPasteBytes - (bytes + bracketedPasteWrapperBytes)) [bracketed (cleaned.take stop)]
  rw [isOut]
  exact mem_append_left _ mem_cons_self

theorem encodePasteChunks_enclosed_iff :
    (∀ maxPayloadBytes payloads, encodePasteChunks raw true maxPayloadBytes = .ok payloads →
      ∀ payload ∈ payloads, Enclosed payload) ↔
    Contained (sanitizePastePrefix raw true maxPasteBytes).text := by
  constructor
  · rintro enclosed front begins fits ⟨tail, isTail, before, after, rfl⟩
    obtain ⟨rest, isText⟩ := (prefix_append (before ++ pasteMarkers.lead :: tail) after).trans begins
    have ends : ∀ unit ∈ (before ++ pasteMarkers.lead :: tail).getLast?,
        isHighSurrogate unit = false := by
      obtain ⟨body, isBody, -, -⟩ := pasteMarkers_shape isTail
      simp [isBody, isHighSurrogate]
    have short : utf8Length (bracketed (before ++ pasteMarkers.lead :: tail)) ≤ maxPasteBytes := by
      have longer := utf8Length_le_append (before ++ pasteMarkers.lead :: tail) after
      rw [utf8Length_bracketed] at fits ⊢
      omega
    obtain ⟨content, holds, isPayload⟩ := firstChunk_holds isText.symm (by simp) ends short
    have enclosed := enclosed maxPasteBytes _ (by
      rw [encodePasteChunks, if_neg (by decide), if_neg (by decide)]) _ isPayload
    refine (enclosed_bracketed_iff content).mp enclosed ?_
    exact ⟨tail, isTail, (suffix_append before _).isInfix.trans holds.isInfix⟩
  · intro contained maxPayloadBytes payloads encoded payload isPayload
    by_cases admissible : AdmissibleBound maxPayloadBytes
    · obtain ⟨contents, isOk, begins, -, total⟩ := encodePasteChunks_ok raw admissible
      obtain rfl := Except.ok.inj (encoded.symm.trans isOk)
      obtain ⟨_, isContent, rfl⟩ := mem_map.mp isPayload
      obtain ⟨first, others, rfl⟩ := exists_cons_of_ne_nil (ne_nil_of_mem isContent)
      have clear := contained _ begins ((utf8Length_flatten_le first others).trans total)
      rw [enclosed_bracketed_iff]
      rintro ⟨tail, isTail, inside⟩
      exact clear ⟨tail, isTail, inside.trans (infix_of_mem_flatten isContent)⟩
    · exfalso
      simp only [AdmissibleBound, not_and_or, not_lt] at admissible
      unfold encodePasteChunks at encoded
      split at encoded
      · cases encoded
      · rw [if_pos (by simp; omega)] at encoded
        cases encoded

/-- What is sent for a text is enclosed exactly when no marker is left in the cleaned text, and in what
fits one paste of the text that is cleaned for chunks. Two passes that leave no marker are enough, and
for a text that fits one paste they are needed. The sizes are kept whatever the text holds, and the
chunks are a beginning of the cleaned text. -/
theorem bracketed_paste_enclosed (raw : JsString) :
    (Encloses raw ↔ ¬ pasteMarkers.Occurs
        (sanitizePastePrefix raw true (maxPasteBytes - bracketedPasteWrapperBytes)).text ∧
      Contained (sanitizePastePrefix raw true maxPasteBytes).text) ∧
    (Unjoined raw → Encloses raw) ∧
    (utf8Length (bracketed raw) ≤ maxPasteBytes → Encloses raw → Unjoined raw) ∧
    (∀ payload, encodePaste raw true = some payload → utf8Length payload ≤ maxPasteBytes) ∧
    ∀ maxPayloadBytes, AdmissibleBound maxPayloadBytes →
      ∃ contents, encodePasteChunks raw true maxPayloadBytes = .ok (contents.map bracketed) ∧
        Chunked (sanitizePastePrefix raw true maxPasteBytes).text maxPayloadBytes maxPasteBytes
          contents := by
  have exactly := and_congr (encodePaste_enclosed_iff raw) (encodePasteChunks_enclosed_iff raw)
  refine ⟨exactly, fun unjoined => exactly.mpr ⟨sanitizePastePrefix_clear _ unjoined, ?_⟩, ?_, ?_,
    fun _ => encodePasteChunks_ok raw⟩
  · rintro front begins - ⟨tail, isTail, inside⟩
    exact sanitizePastePrefix_clear _ unjoined ⟨tail, isTail, inside.trans begins.isInfix⟩
  · intro fits encloses
    rw [utf8Length_bracketed] at fits
    rw [Unjoined, ← sanitizePastePrefix_fits (Nat.le_sub_of_add_le fits)]
    exact (exactly.mp encloses).1
  · intro payload encoded
    have counted := sanitizePastePrefix_length raw (maxPasteBytes - bracketedPasteWrapperBytes)
    have room : bracketedPasteWrapperBytes ≤ maxPasteBytes := by decide
    rw [encodePaste_eq_some encoded, utf8Length_bracketed]
    omega

/-- A marker in the text, and one that has another inside it: two passes remove them. -/
theorem bracketed_paste_enclosed_nestedOnce :
    let raw : JsString := [0x1B, 0x5B, 0x32] ++ bracketedPasteEnd ++ [0x30, 0x31, 0x7E, 0x61]
    Unjoined raw ∧ encodePaste raw true = some (bracketed [0x61]) ∧ Enclosed (bracketed [0x61]) :=
  have unjoined : Unjoined ([0x1B, 0x5B, 0x32] ++ bracketedPasteEnd ++ [0x30, 0x31, 0x7E, 0x61]) := by
    decide +kernel
  have encoded : encodePaste ([0x1B, 0x5B, 0x32] ++ bracketedPasteEnd ++ [0x30, 0x31, 0x7E, 0x61])
      true = some (bracketed [0x61]) := by decide +kernel
  ⟨unjoined, encoded, ((bracketed_paste_enclosed _).2.1 unjoined).1 _ encoded⟩

/-- An end marker in a start marker in an end marker: the outer one comes out whole, and ends the
paste before its end. -/
theorem bracketed_paste_escapes :
    let raw : JsString := [0x1B, 0x5B, 0x32, 0x30] ++ [0x1B, 0x5B, 0x32] ++ bracketedPasteEnd ++
      [0x30, 0x30, 0x7E] ++ [0x31, 0x7E]
    ∃ payload before after, encodePaste raw true = some payload ∧
      encodePasteChunks raw true 64 = .ok [payload] ∧
      payload = before ++ bracketedPasteEnd ++ after ∧ after ≠ [] :=
  ⟨bracketed bracketedPasteEnd, bracketedPasteStart, bracketedPasteEnd, by decide +kernel,
    by decide +kernel, rfl, by decide⟩

end HydraTerm.Browser
