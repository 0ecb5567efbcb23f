import Mathlib

/-!
# Texts with markers

A marker is a word whose first letter occurs in it only once. Two markers of one text can then not
overlap, so the places where a marker stands, and what is left when markers are taken out, can be
read from left to right.

`strip` takes the markers out in one pass: what comes before and after a marker is not put together
and read again. A text may therefore hold markers after it was stripped; one that was clear is left
as it is. A reader that works letter by letter, and keeps what it has read since the last marker,
computes the same (`strip_of_complete`), and a text that is cut short holds no marker that the
whole one does not hold (`occurs_of_cut`). Deleting markers in any order, until there is none, leads
to one text (`clear_unique`).
-/

namespace HydraTerm.Lib

open List

universe u
variable {α : Type u}

/-- Words with a common first letter that occurs in none of them again, none a beginning of
another. -/
structure MarkerSet (α : Type u) where
  lead : α
  tails : List (List α)
  leadless : ∀ tail ∈ tails, lead ∉ tail
  prefixFree : ∀ one ∈ tails, ∀ other ∈ tails, one <+: other → one = other

namespace MarkerSet

variable (markers : MarkerSet α)

/-- A marker stands somewhere in the text. -/
def Occurs (text : List α) : Prop := ∃ tail ∈ markers.tails, (markers.lead :: tail) <:+: text

instance [DecidableEq α] (text : List α) : Decidable (markers.Occurs text) :=
  inferInstanceAs (Decidable (∃ tail ∈ markers.tails, (markers.lead :: tail) <:+: text))

variable {markers} {text front back : List α}

theorem Occurs.append_right (occurs : markers.Occurs front) (back : List α) :
    markers.Occurs (front ++ back) := by
  obtain ⟨tail, isTail, inside⟩ := occurs
  exact ⟨tail, isTail, inside.trans (infix_append' [] front back)⟩

theorem Occurs.append_left (occurs : markers.Occurs back) (front : List α) :
    markers.Occurs (front ++ back) := by
  obtain ⟨tail, isTail, inside⟩ := occurs
  exact ⟨tail, isTail, inside.trans (suffix_append front back).isInfix⟩

/-- Markers at the beginning of one text are the same. -/
theorem tail_unique {one other : List α} (isOne : one ∈ markers.tails)
    (isOther : other ∈ markers.tails) (oneFirst : one <+: text) (otherFirst : other <+: text) :
    one = other := by
  rcases prefix_or_prefix_of_prefix oneFirst otherFirst with shorter | longer
  · exact markers.prefixFree one isOne other isOther shorter
  · exact (markers.prefixFree other isOther one isOne longer).symm

/-- A marker ends before a first letter, begins with it, or begins after it. -/
theorem lead_trichotomy {tail before after rest : List α} (isTail : tail ∈ markers.tails)
    (same : front ++ markers.lead :: rest = before ++ markers.lead :: tail ++ after) :
    (∃ gap, front = before ++ markers.lead :: tail ++ gap) ∨ before = front ∨
      ∃ gap, before = front ++ markers.lead :: gap := by
  rw [append_assoc, cons_append, append_eq_append_iff] at same
  rcases same with ⟨middle, rfl, isRest⟩ | ⟨middle, rfl, isRest⟩
  · cases middle with
    | nil => exact .inr (.inl (by simp))
    | cons _ middle =>
      cases isRest
      exact .inr (.inr ⟨middle, rfl⟩)
  · cases middle with
    | nil => exact .inr (.inl (by simp))
    | cons =>
      obtain ⟨rfl, inside⟩ := List.cons.inj isRest
      rcases append_eq_append_iff.mp inside with ⟨gap, rfl, -⟩ | ⟨gap, rfl, isLater⟩
      · exact .inl ⟨gap, by simp⟩
      · cases gap with
        | nil => exact .inl ⟨[], by simp⟩
        | cons =>
          cases isLater
          exact absurd (by simp) (markers.leadless _ isTail)

/-- A clear text between two markers: those two are the only ones. -/
theorem only_wrapper {first last content tail before after : List α}
    (isFirst : first ∈ markers.tails) (isLast : last ∈ markers.tails)
    (clear : ¬ markers.Occurs content) (isTail : tail ∈ markers.tails)
    (same : markers.lead :: first ++ content ++ markers.lead :: last =
      before ++ markers.lead :: tail ++ after) :
    (before = [] ∧ tail = first) ∨
      (before = markers.lead :: first ++ content ∧ tail = last ∧ after = []) := by
  rcases lead_trichotomy isTail same with ⟨gap, early⟩ | rfl | ⟨gap, rfl⟩
  · have begins : [] ++ markers.lead :: (first ++ content) =
        before ++ markers.lead :: tail ++ gap := early
    rcases lead_trichotomy isTail begins with ⟨_, impossible⟩ | rfl | ⟨skipped, rfl⟩
    · simp at impossible
    · refine .inl ⟨rfl, tail_unique isTail isFirst ⟨gap, ?_⟩ (prefix_append first content)⟩
      simpa using begins.symm
    · -- A marker that begins after the first letter would begin in `first` or in the content.
      exfalso
      have inside : first ++ content = skipped ++ (markers.lead :: tail ++ gap) := by
        simpa using begins
      rcases append_eq_append_iff.mp inside with ⟨between, rfl, isContent⟩ |
        ⟨between, rfl, isContent⟩
      · exact clear ⟨tail, isTail, between, gap, by rw [isContent]; simp⟩
      · cases between with
        | nil => exact clear ⟨tail, isTail, [], gap, by simpa using isContent⟩
        | cons =>
          obtain ⟨rfl, -⟩ := List.cons.inj isContent
          exact markers.leadless _ isFirst (by simp)
  · have atEnd : last = tail ++ after := by simpa using same
    have isLastTail : tail = last :=
      markers.prefixFree tail isTail last isLast ⟨after, atEnd.symm⟩
    refine .inr ⟨rfl, isLastTail, ?_⟩
    simpa [isLastTail] using atEnd
  · exfalso
    have inside : last = gap ++ (markers.lead :: tail ++ after) := by simpa using same
    exact markers.leadless last isLast (by rw [inside]; simp)

/-- A letter completes a marker or brings none. -/
theorem Occurs.last {letter : α} (occurs : markers.Occurs (text ++ [letter])) :
    markers.Occurs text ∨ ∃ tail ∈ markers.tails, (markers.lead :: tail) <:+ text ++ [letter] := by
  obtain ⟨tail, isTail, before, after, same⟩ := occurs
  rcases eq_nil_or_concat after with rfl | ⟨more, last, rfl⟩
  · exact .inr ⟨tail, isTail, before, by simpa using same⟩
  · refine .inl ⟨tail, isTail, before, more, ?_⟩
    rw [concat_eq_append, ← append_assoc] at same
    exact (append_inj_left' same rfl)

/-! ## Taking markers out -/

section Strip

variable [DecidableEq α] (markers)

/-- What follows a marker at the front of the text. -/
def after? : List α → Option (List α)
  | [] => none
  | first :: rest =>
    if first = markers.lead then
      (markers.tails.find? (·.isPrefixOf rest)).map fun tail => rest.drop tail.length
    else none

variable {markers} {rest : List α}

/-- It is what follows one. -/
theorem after?_eq_some_iff :
    markers.after? text = some rest ↔ ∃ tail ∈ markers.tails, text = markers.lead :: tail ++ rest := by
  cases text with
  | nil => simp [after?]
  | cons _ later =>
    constructor
    · intro found
      simp only [after?] at found
      split at found
      next isLead =>
        obtain ⟨tail, isFound, rfl⟩ := Option.map_eq_some_iff.mp found
        have begins : tail.isPrefixOf later = true := by simpa using find?_some isFound
        obtain ⟨_, rfl⟩ := isPrefixOf_iff_prefix.mp begins
        exact ⟨tail, mem_of_find?_eq_some isFound, by simp [isLead]⟩
      · cases found
    · rintro ⟨tail, isTail, same⟩
      cases same
      have present : (markers.tails.find? (·.isPrefixOf (tail ++ rest))).isSome :=
        find?_isSome.mpr ⟨tail, isTail, isPrefixOf_iff_prefix.mpr (prefix_append _ _)⟩
      obtain ⟨other, isOther⟩ := Option.isSome_iff_exists.mp present
      have begins : other.isPrefixOf (tail ++ rest) = true := by
        simpa using find?_some isOther
      have sameTail : other = tail := tail_unique (mem_of_find?_eq_some isOther) isTail
        ( isPrefixOf_iff_prefix.mp begins) (prefix_append _ _)
      simp only [after?, if_true]
      rw [show (tail.append rest) = tail ++ rest from rfl, isOther, sameTail]
      simp

theorem after?_length (found : markers.after? text = some rest) : rest.length < text.length := by
  obtain ⟨_, -, rfl⟩ := after?_eq_some_iff.mp found
  simp only [cons_append, length_cons, length_append]
  omega

variable (markers)

/-- Take the markers out, in one pass from left to right. -/
def strip : List α → List α
  | [] => []
  | first :: rest =>
    match _found : markers.after? (first :: rest) with
    | some later => strip later
    | none => first :: strip rest
termination_by text => text.length
decreasing_by
  · exact after?_length _found
  · simp

variable {markers} {tail : List α} {first : α}

theorem strip_marker (isTail : tail ∈ markers.tails) (rest : List α) :
    markers.strip (markers.lead :: tail ++ rest) = markers.strip rest := by
  have found : markers.after? (markers.lead :: tail ++ rest) = some rest :=
    after?_eq_some_iff.mpr ⟨tail, isTail, rfl⟩
  rw [cons_append, strip]
  split
  next _ isLater => rw [Option.some.inj (isLater.symm.trans found)]
  next absent => cases absent.symm.trans found

theorem strip_nil : markers.strip [] = [] := by rw [strip]

/-- A letter that begins no marker stays. -/
theorem strip_cons (noMarker : ∀ tail ∈ markers.tails, ¬ markers.lead :: tail <+: first :: rest) :
    markers.strip (first :: rest) = first :: markers.strip rest := by
  have absent : markers.after? (first :: rest) = none := by
    cases found : markers.after? (first :: rest) with
    | none => rfl
    | some later =>
      obtain ⟨tail, isTail, same⟩ := after?_eq_some_iff.mp found
      exact absurd ⟨later, same.symm⟩ (noMarker tail isTail)
  rw [strip]
  split
  next _ found => cases absent.symm.trans found
  · rfl

theorem strip_cons_of_ne (rest : List α) (other : first ≠ markers.lead) :
    markers.strip (first :: rest) = first :: markers.strip rest := by
  refine strip_cons fun tail _ begins => ?_
  obtain ⟨_, same⟩ := begins
  exact other (List.cons.inj same).1.symm

/-- After a clear front a marker is taken out, and the pass goes on behind it. -/
theorem strip_of_complete (isTail : tail ∈ markers.tails)
    (clear : ¬ markers.Occurs front) (rest : List α) :
    markers.strip (front ++ markers.lead :: tail ++ rest) = front ++ markers.strip rest := by
  induction front with
  | nil => exact strip_marker isTail rest
  | cons letter front ih =>
    have clearRest : ¬ markers.Occurs front := fun occurs => clear (occurs.append_left [letter])
    rw [cons_append, cons_append, strip_cons, ih clearRest, cons_append]
    rintro other isOther ⟨later, same⟩
    have placed : (letter :: front) ++ markers.lead :: (tail ++ rest) =
        [] ++ markers.lead :: other ++ later := by simpa using same.symm
    rcases lead_trichotomy isOther placed with ⟨gap, inside⟩ | impossible | ⟨gap, impossible⟩
    · exact clear ⟨other, isOther, [], gap, by simpa using inside.symm⟩
    · simp at impossible
    · simp at impossible

/-- A clear text is left as it is. -/
theorem strip_of_clear (clear : ¬ markers.Occurs text) : markers.strip text = text := by
  induction text with
  | nil => exact strip_nil
  | cons letter _ ih =>
    rw [strip_cons, ih fun occurs => clear (occurs.append_left [letter])]
    exact fun tail isTail begins => clear ⟨tail, isTail, begins.isInfix⟩

/-- What has been read of a text holds no marker that is not also there when the rest has been read:
a marker that is only begun at the cut has its first letter there. -/
theorem occurs_of_cut {done window : List α} (clear : ¬ markers.Occurs window)
    (occurs : markers.Occurs (done ++ window)) (more : List α) :
    markers.Occurs (done ++ markers.strip (window ++ more)) := by
  induction window generalizing done with
  | nil =>
    rw [append_nil] at occurs
    exact occurs.append_right _
  | cons letter window ih =>
    by_cases begins : ∃ tail ∈ markers.tails, markers.lead :: tail <+: letter :: window ++ more
    · obtain ⟨_, _, _, same⟩ := begins
      obtain ⟨rfl, -⟩ := List.cons.inj same
      obtain ⟨other, isOther, before, after, placed⟩ := occurs
      rcases lead_trichotomy isOther placed.symm with ⟨gap, rfl⟩ | rfl | ⟨gap, rfl⟩
      · have inDone : markers.Occurs (before ++ markers.lead :: other ++ gap) :=
          ⟨other, isOther, before, gap, rfl⟩
        exact inDone.append_right _
      · refine absurd ⟨other, isOther, [], after, ?_⟩ clear
        simpa using placed
      · refine absurd ⟨other, isOther, markers.lead :: gap, after, ?_⟩ clear
        simpa using placed
    · have stays : markers.strip (letter :: window ++ more) =
          letter :: markers.strip (window ++ more) := by
        refine strip_cons fun tail isTail isFirst => begins ⟨tail, isTail, isFirst⟩
      have clearRest : ¬ markers.Occurs window := fun inside => clear (inside.append_left [letter])
      rw [append_cons] at occurs
      rw [stays, append_cons]
      exact ih clearRest occurs

end Strip

/-! ## Deleting markers in any order -/

/-- One marker is deleted. -/
inductive Deletes (markers : MarkerSet α) : List α → List α → Prop
  | intro (before : List α) {tail : List α} (isTail : tail ∈ markers.tails) (after : List α) :
      Deletes markers (before ++ markers.lead :: tail ++ after) (before ++ after)

/-- Markers are deleted, any number of them and in any order. -/
abbrev Reduces (markers : MarkerSet α) : List α → List α → Prop :=
  Relation.ReflTransGen markers.Deletes

variable {one other : List α}

/-- Two markers of one text do not overlap, so either may be deleted after the other. -/
theorem Deletes.diamond (first : markers.Deletes text one) (second : markers.Deletes text other) :
    one = other ∨ ∃ last, markers.Deletes one last ∧ markers.Deletes other last := by
  have behind {before tail gap tail' after : List α} (isTail : tail ∈ markers.tails)
      (isTail' : tail' ∈ markers.tails) :
      ∃ last, markers.Deletes (before ++ (gap ++ markers.lead :: tail' ++ after)) last ∧
        markers.Deletes (before ++ markers.lead :: tail ++ gap ++ after) last := by
    refine ⟨before ++ gap ++ after, ?_, ?_⟩
    · simpa using Deletes.intro (before ++ gap) isTail' after
    · simpa using Deletes.intro before isTail (gap ++ after)
  generalize isText : text = whole at second
  obtain @⟨before, tail, isTail, after⟩ := first
  obtain @⟨before', tail', isTail', after'⟩ := second
  rcases lead_trichotomy isTail' ((append_assoc ..).symm.trans isText) with
    ⟨gap, rfl⟩ | rfl | ⟨gap, isLater⟩
  · have isAfter : after' = gap ++ markers.lead :: tail ++ after := by simpa using isText.symm
    obtain ⟨last, fromOther, fromOne⟩ := @behind before' tail' gap tail after isTail' isTail
    exact .inr ⟨last, fromOne, isAfter ▸ fromOther⟩
  · have isRest : tail ++ after = tail' ++ after' := by simpa using isText
    have same := tail_unique isTail isTail' (prefix_append _ _) ⟨after', isRest.symm⟩
    subst same
    rw [append_cancel_left isRest]
    exact .inl rfl
  · rcases lead_trichotomy isTail ((append_assoc ..).symm.trans isText.symm) with
      ⟨gap, rfl⟩ | same | ⟨_, same⟩
    · have isAfter : after = gap ++ markers.lead :: tail' ++ after' := by simpa using isText
      obtain ⟨last, fromOne, fromOther⟩ := @behind before tail gap tail' after' isTail isTail'
      exact .inr ⟨last, isAfter ▸ fromOne, fromOther⟩
    · simp [same] at isLater
    · simp [same] at isLater

/-- A text reduces to one clear text at most. -/
theorem clear_unique (first : markers.Reduces text one) (second : markers.Reduces text other)
    (clear : ¬ markers.Occurs one) (otherClear : ¬ markers.Occurs other) : one = other := by
  have final {text last : List α} (clear : ¬ markers.Occurs text) (reduces : markers.Reduces text last) :
      text = last := by
    rcases reduces.cases_head with same | ⟨next, ⟨before, isTail, after⟩, -⟩
    · exact same
    · exact absurd ⟨_, isTail, infix_append _ _ _⟩ clear
  obtain ⟨_, fromOne, fromOther⟩ := Relation.church_rosser (fun _ _ _ first second => by
    rcases first.diamond second with rfl | ⟨last, fromOne, fromOther⟩
    · exact ⟨_, .refl, .refl⟩
    · exact ⟨last, .single fromOne, .single fromOther⟩) first second
  exact (final clear fromOne).trans (final otherClear fromOther).symm

/-- A text that is reduced is shorter, in any measure that counts the markers. -/
theorem Reduces.eq_or_lt (reduces : markers.Reduces text one) (measure : List α → Nat)
    (additive : ∀ front back, measure (front ++ back) = measure front + measure back)
    (positive : ∀ tail ∈ markers.tails, 0 < measure (markers.lead :: tail)) :
    one = text ∨ measure one < measure text := by
  induction reduces with
  | refl => exact .inl rfl
  | tail _ deletes ih =>
    obtain ⟨_, isTail, _⟩ := deletes
    have counted := positive _ isTail
    rcases ih with rfl | shorter <;> simp only [additive] at * <;> omega

variable [DecidableEq α]

/-- One pass deletes markers, also where only some of them are looked for. -/
theorem reduces_strip {some : MarkerSet α} (isLead : some.lead = markers.lead)
    (among : some.tails ⊆ markers.tails) (text : List α) : markers.Reduces text (some.strip text) := by
  fun_induction some.strip text with
  | case1 => exact .refl
  | case2 _ _ later found ih =>
    obtain ⟨_, isTail, same⟩ := after?_eq_some_iff.mp found
    rw [same, isLead]
    exact .head (.intro [] (among isTail) later) ih
  | case3 first _ _ ih =>
    refine ih.lift (first :: ·) ?_
    rintro _ _ ⟨before, isTail, after⟩
    exact .intro (first :: before) isTail after

/-- A text that a pass leaves as it is holds no marker. -/
theorem clear_of_strip (same : markers.strip text = text) : ¬ markers.Occurs text := by
  induction text with
  | nil => simp [Occurs]
  | cons _ _ ih =>
    rw [strip] at same
    split at same
    next later found =>
      have shorter := after?_length found
      have reduces := reduces_strip rfl (List.Subset.refl markers.tails) later
      rw [same] at reduces
      rcases reduces.eq_or_lt List.length (by simp) (by simp) with rfl | less
      · exact absurd shorter (lt_irrefl _)
      · exact absurd (shorter.trans less) (lt_irrefl _)
    next absent =>
      rintro ⟨tail, isTail, inside⟩
      rcases infix_cons_iff.mp inside with ⟨later, begins⟩ | inside
      · cases absent.symm.trans (after?_eq_some_iff.mpr ⟨tail, isTail, begins.symm⟩)
      · exact ih (List.cons.inj same).2 ⟨tail, isTail, inside⟩

end MarkerSet

end HydraTerm.Lib
