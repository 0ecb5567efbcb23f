import HydraTerm.Lib.Boxes

/-!
# Filling the gap a removed box leaves

A box taken out of a tiling leaves a gap. The boxes across one side of the gap can grow
over it when none of them juts out past the ends of that side; the result tiles the frame
again. A gap that at most three boxes surround always has such a side.
-/

namespace HydraTerm.Lib

open List

universe u

/-- A side of a gap. -/
inductive Side
  | left
  | right
  | top
  | bottom

namespace Side

/-- The side with the axes exchanged. -/
def transpose : Side → Side
  | left => top
  | right => bottom
  | top => left
  | bottom => right

variable {α : Type u}

/-- Where the box begins along the side. -/
def lo (side : Side) (box : Box α) : α :=
  match side with
  | left | right => box.top
  | top | bottom => box.left

/-- Where the box ends along the side. -/
def hi (side : Side) (box : Box α) : α :=
  match side with
  | left | right => box.bottom
  | top | bottom => box.right

variable [LinearOrder α] {side : Side}

/-- The box lies across the side of the gap: their edges meet, and they overlap along the
side. -/
@[mk_iff]
structure Borders (side : Side) (gap box : Box α) : Prop where
  meets : match side with
    | left => box.right = gap.left
    | right => box.left = gap.right
    | top => box.bottom = gap.top
    | bottom => box.top = gap.bottom
  overlaps : max (side.lo box) (side.lo gap) < min (side.hi box) (side.hi gap)

/-- The box does not jut out past either end of the side. -/
structure Fits (side : Side) (gap box : Box α) : Prop where
  lo_le : side.lo gap ≤ side.lo box
  le_hi : side.hi box ≤ side.hi gap

/-- The box grown over the gap, away from the side. -/
def grow (side : Side) (gap box : Box α) : Box α :=
  match side with
  | left | right =>
    { box with left := min box.left gap.left, right := max box.right gap.right }
  | top | bottom =>
    { box with top := min box.top gap.top, bottom := max box.bottom gap.bottom }

/-- The side of the gap does not lie on the frame. -/
def Inner (side : Side) (frame gap : Box α) : Prop :=
  match side with
  | left => frame.left < gap.left
  | right => gap.right < frame.right
  | top => frame.top < gap.top
  | bottom => gap.bottom < frame.bottom

/-- A proper box has an extent along every side. -/
theorem lo_lt_hi {box : Box α} (proper : box.Proper) : side.lo box < side.hi box := by
  cases side
  · exact proper.top_lt_bottom
  · exact proper.top_lt_bottom
  · exact proper.left_lt_right
  · exact proper.left_lt_right

theorem borders_transpose {gap box : Box α} :
    side.transpose.Borders gap.transpose box.transpose ↔ side.Borders gap box := by
  constructor <;> rintro ⟨meets, overlaps⟩ <;> cases side <;> exact ⟨meets, overlaps⟩

end Side

namespace Tiles

variable {α : Type u} [LinearOrder α] {frame gap box : Box α} {rest : List (Box α)} {side : Side}

/-! ## The boxes across a side -/

variable {y : α} {boxes : List (Box α)} {other : Box α}

section

variable (tiles : Tiles frame (gap :: rest))
include tiles

/-- A right side inside the frame is met by a box at each of its heights. -/
theorem meets_right (inner : gap.right < frame.right) (below : gap.top ≤ y) (above : y < gap.bottom)
    : ∃ box ∈ rest, box.left = gap.right ∧ box.top ≤ y ∧ y < box.bottom := by
  obtain ⟨_, _⟩ := tiles.proper gap mem_cons_self
  obtain ⟨_, _, _, _⟩ := tiles.within gap mem_cons_self
  have inside : frame.Contains gap.right y := by constructor <;> grind
  have outside : ¬gap.Contains gap.right y := fun held => lt_irrefl _ held.lt_right
  obtain ⟨box, member, _, _, _, _⟩ := tiles.covers_rest inside outside
  have apart := tiles.apart_head member
  unfold Box.Apart at apart
  exact ⟨box, member, by grind, by assumption, by assumption⟩

/-- A left side inside the frame is met by a box at each of its heights: of the boxes that
reach that height left of the gap, the one that ends last ends at the gap. -/
theorem meets_left (inner : frame.left < gap.left) (below : gap.top ≤ y) (above : y < gap.bottom) :
    ∃ box ∈ rest, box.right = gap.left ∧ box.top ≤ y ∧ y < box.bottom := by
  obtain ⟨_, _⟩ := tiles.proper gap mem_cons_self
  obtain ⟨_, _, _, _⟩ := tiles.within gap mem_cons_self
  have held : ∀ x, frame.left ≤ x → x < gap.left →
      ∃ box ∈ rest, box.Contains x y ∧ box.right ≤ gap.left := by
    intro x first last
    have inside : frame.Contains x y := by constructor <;> grind
    have outside : ¬gap.Contains x y := fun contains => absurd contains.left_le (not_le.mpr last)
    obtain ⟨box, member, contains⟩ := tiles.covers_rest inside outside
    have apart := tiles.apart_head member
    refine ⟨box, member, contains, ?_⟩
    obtain ⟨_, _, _, _⟩ := contains
    unfold Box.Apart at apart
    grind
  let reached := rest.filter fun box => box.right ≤ gap.left ∧ box.top ≤ y ∧ y < box.bottom
  have nonempty : reached ≠ [] := by
    obtain ⟨box, member, ⟨_, _, _, _⟩, _⟩ := held frame.left le_rfl inner
    have : box ∈ reached := mem_filter.mpr ⟨member, by simp; grind⟩
    exact ne_nil_of_mem this
  obtain ⟨box, member, latest⟩ :
      ∃ box ∈ reached, ∀ other ∈ reached, other.right ≤ box.right := by
    obtain ⟨box, isMax⟩ := Option.ne_none_iff_exists'.mp
      (fun none => nonempty (argmax_eq_none.mp none) : reached.argmax Box.right ≠ none)
    exact ⟨box, argmax_mem isMax, fun other member => le_of_mem_argmax member isMax⟩
  obtain ⟨member, reaches⟩ := mem_filter.mp member
  simp only [decide_eq_true_eq] at reaches
  refine ⟨box, member, ?_, reaches.2⟩
  by_contra different
  have short : box.right < gap.left := lt_of_le_of_ne reaches.1 different
  have first : frame.left ≤ box.right :=
    (tiles.within box (mem_cons_of_mem _ member)).left_le.trans
      (tiles.proper box (mem_cons_of_mem _ member)).left_lt_right.le
  obtain ⟨next, nextMember, ⟨_, later, _, _⟩, _⟩ := held box.right first short
  have : next ∈ reached := mem_filter.mpr ⟨nextMember, by simp; grind⟩
  exact absurd (latest next this) (not_le.mpr later)

/-- A horizontal side inside the frame is bordered by a box at each of its heights. -/
theorem borders_horizontal (horizontal : side = .left ∨ side = .right)
    (inner : side.Inner frame gap) (below : gap.top ≤ y) (above : y < gap.bottom) :
    ∃ box ∈ rest, side.Borders gap box ∧ box.top ≤ y ∧ y < box.bottom := by
  have overlap : ∀ box : Box α, box.top ≤ y → y < box.bottom →
      max box.top gap.top < min box.bottom gap.bottom := by
    intro box first last
    exact (max_le first below).trans_lt (lt_min last above)
  rcases horizontal with rfl | rfl
  · obtain ⟨box, member, meets, first, last⟩ := tiles.meets_left inner below above
    exact ⟨box, member, ⟨meets, overlap box first last⟩, first, last⟩
  · obtain ⟨box, member, meets, first, last⟩ := tiles.meets_right inner below above
    exact ⟨box, member, ⟨meets, overlap box first last⟩, first, last⟩

/-- A side inside the frame is bordered by a box at each of its points. -/
theorem borders_of_inner {point : α}
    (inner : side.Inner frame gap) (after : side.lo gap ≤ point) (before : point < side.hi gap) :
    ∃ box ∈ rest, side.Borders gap box ∧ side.lo box ≤ point ∧ point < side.hi box := by
  cases side with
  | left => exact tiles.borders_horizontal (.inl rfl) inner after before
  | right => exact tiles.borders_horizontal (.inr rfl) inner after before
  | top =>
    obtain ⟨_, turned, borders, span⟩ :=
      tiles.transpose.borders_horizontal (.inl rfl : Side.left = .left ∨ _) inner after before
    obtain ⟨box, member, rfl⟩ := mem_map.mp turned
    exact ⟨box, member, Side.borders_transpose.mp borders, span⟩
  | bottom =>
    obtain ⟨_, turned, borders, span⟩ :=
      tiles.transpose.borders_horizontal (.inr rfl : Side.right = .left ∨ _) inner after before
    obtain ⟨box, member, rfl⟩ := mem_map.mp turned
    exact ⟨box, member, Side.borders_transpose.mp borders, span⟩

end

/-- A side across which a box lies is inside the frame. -/
theorem inner_of_borders (tiles : Tiles frame boxes) (member : box ∈ boxes)
    (borders : side.Borders gap box) : side.Inner frame gap := by
  have proper := tiles.proper box member
  have within := tiles.within box member
  cases side <;> simp only [Side.Inner] <;> grind [Box.Proper, Box.Within, Side.Borders]

/-- Two boxes across the same side are apart along it. -/
theorem apart_along (borders : side.Borders gap box)
    (otherBorders : side.Borders gap other) (proper : box.Proper) (otherProper : other.Proper)
    (apart : box.Apart other) : side.hi box ≤ side.lo other ∨ side.hi other ≤ side.lo box := by
  unfold Box.Apart at apart
  cases side <;> simp only [Side.lo, Side.hi] <;> grind [Box.Proper, Side.Borders]

/-! ## Filling the gap -/

/-- Growing the boxes across a side keeps them apart from every other box. -/
theorem grow_apart_other (borders : side.Borders gap box) (fits : side.Fits gap box)
    (proper : box.Proper) (gapProper : gap.Proper) (otherProper : other.Proper)
    (apart : box.Apart other) (gapApart : gap.Apart other) : (side.grow gap box).Apart other := by
  obtain ⟨_, _⟩ := borders
  obtain ⟨_, _⟩ := fits
  unfold Box.Apart at *
  cases side <;> simp only [Side.grow, Side.lo, Side.hi] at * <;> grind [Box.Proper]

/-- Two boxes across the same side stay apart when both grow. -/
theorem grow_apart_grow (borders : side.Borders gap box) (otherBorders : side.Borders gap other)
    (proper : box.Proper) (otherProper : other.Proper) (apart : box.Apart other) :
    (side.grow gap box).Apart (side.grow gap other) := by
  unfold Box.Apart at *
  cases side <;> simp only [Side.grow] <;> grind [Box.Proper, Side.Borders]

/-- The boxes once those across the side have grown over the gap. -/
def filled (side : Side) (gap : Box α) (rest : List (Box α)) [DecidablePred (side.Borders gap)] :
    List (Box α) :=
  rest.map fun box => if side.Borders gap box then side.grow gap box else box

/-- The boxes that grow cover the gap. -/
theorem exists_grown {x : α} (tiles : Tiles frame (gap :: rest)) (inner : side.Inner frame gap)
    (held : gap.Contains x y) :
    ∃ box ∈ rest, side.Borders gap box ∧ (side.grow gap box).Contains x y := by
  obtain ⟨after, before, below, above⟩ := held
  cases side
  case left | right =>
    obtain ⟨box, member, borders, first, last⟩ := tiles.borders_of_inner inner below above
    exact ⟨box, member, borders, min_le_of_right_le after, lt_max_of_lt_right before, first, last⟩
  case top | bottom =>
    obtain ⟨box, member, borders, first, last⟩ := tiles.borders_of_inner inner after before
    exact ⟨box, member, borders, first, last, min_le_of_right_le below, lt_max_of_lt_right above⟩

/-- When no box across an inner side juts out past it, growing those boxes over the gap
tiles the frame again. -/
theorem fill [DecidablePred (side.Borders gap)] (tiles : Tiles frame (gap :: rest))
    (inner : side.Inner frame gap) (fits : ∀ box ∈ rest, side.Borders gap box → side.Fits gap box) :
    Tiles frame (filled side gap rest) := by
  have gapProper := tiles.proper gap mem_cons_self
  have gapWithin := tiles.within gap mem_cons_self
  have proper : ∀ box ∈ rest, box.Proper := fun box member =>
    tiles.proper box (mem_cons_of_mem _ member)
  have within : ∀ box ∈ rest, box.Within frame := fun box member =>
    tiles.within box (mem_cons_of_mem _ member)
  have larger : ∀ {box : Box α} {x y : α}, box.Contains x y → (side.grow gap box).Contains x y := by
    intro box x y contains
    cases side <;> grind [Box.Contains, Side.grow]
  refine ⟨forall_mem_map.mpr ?_, forall_mem_map.mpr ?_, pairwise_map.mpr ?_, ?_⟩
  · intro box member
    cases side <;> grind [Box.Proper, Side.grow]
  · intro box member
    cases side <;> grind [Box.Within, Side.grow]
  · have restApart := (pairwise_cons.mp tiles.apart).2
    refine restApart.imp_of_mem ?_
    intro one other first second apart
    split
    next borders =>
      split
      next otherBorders =>
        exact grow_apart_grow borders otherBorders (proper _ first) (proper _ second) apart
      next =>
        exact grow_apart_other borders (fits _ first borders) (proper _ first) gapProper
          (proper _ second) apart (tiles.apart_head second)
    next =>
      split
      next otherBorders =>
        exact (grow_apart_other otherBorders (fits _ second otherBorders)
          (proper _ second) gapProper (proper _ first) apart.symm (tiles.apart_head first)).symm
      next => exact apart
  · intro x y inside
    by_cases held : gap.Contains x y
    · obtain ⟨_, member, borders, contains⟩ := tiles.exists_grown inner held
      refine ⟨_, mem_map_of_mem member, ?_⟩
      rw [if_pos borders]
      exact contains
    · obtain ⟨_, member, contains⟩ := tiles.covers_rest inside held
      refine ⟨_, mem_map_of_mem member, ?_⟩
      split
      · exact larger contains
      · exact contains

/-! ## A side that fits -/

/-- A box across the side begins before it. -/
def JutsLow (side : Side) (gap : Box α) (rest : List (Box α)) : Prop :=
  ∃ box ∈ rest, side.Borders gap box ∧ side.lo box < side.lo gap

/-- A box across the side ends after it. -/
def JutsHigh (side : Side) (gap : Box α) (rest : List (Box α)) : Prop :=
  ∃ box ∈ rest, side.Borders gap box ∧ side.hi gap < side.hi box

/-- An inner side on which no box juts out fits. -/
theorem fits_of_not_juts (low : ¬JutsLow side gap rest) (high : ¬JutsHigh side gap rest)
    (member : box ∈ rest) (borders : side.Borders gap box) : side.Fits gap box := by
  refine ⟨not_lt.mp fun juts => low ⟨box, member, borders, juts⟩, ?_⟩
  exact not_lt.mp fun juts => high ⟨box, member, borders, juts⟩

section

variable (tiles : Tiles frame (gap :: rest))
include tiles

/-- At a corner of the gap, the boxes across the two sides that meet there cannot both jut
out past it: they would overlap. -/
theorem corners :
    ¬(JutsLow .right gap rest ∧ JutsHigh .top gap rest) ∧
    ¬(JutsHigh .right gap rest ∧ JutsHigh .bottom gap rest) ∧
    ¬(JutsLow .left gap rest ∧ JutsLow .top gap rest) ∧
    ¬(JutsHigh .left gap rest ∧ JutsLow .bottom gap rest) := by
  refine ⟨?_, ?_, ?_, ?_⟩
  all_goals
    rintro ⟨⟨one, first, ⟨meets, overlaps⟩, juts⟩, other, second, ⟨otherMeets, otherOverlaps⟩,
      otherJuts⟩
    have oneProper := tiles.proper one (mem_cons_of_mem _ first)
    have otherProper := tiles.proper other (mem_cons_of_mem _ second)
    simp only [Side.lo, Side.hi] at overlaps juts otherOverlaps otherJuts
    have different : one ≠ other := by grind
    have apart := tiles.apart.forall (mem_cons_of_mem _ first) (mem_cons_of_mem _ second) different
    unfold Box.Apart at apart
    grind [Box.Proper]

/-- Nothing juts out past a side that lies on the frame. -/
theorem not_juts_of_outer :
    (¬Side.Inner .right frame gap → ¬JutsHigh .top gap rest ∧ ¬JutsHigh .bottom gap rest) ∧
    (¬Side.Inner .left frame gap → ¬JutsLow .top gap rest ∧ ¬JutsLow .bottom gap rest) ∧
    (¬Side.Inner .top frame gap → ¬JutsLow .left gap rest ∧ ¬JutsLow .right gap rest) ∧
    (¬Side.Inner .bottom frame gap → ¬JutsHigh .left gap rest ∧ ¬JutsHigh .right gap rest) := by
  refine ⟨fun outer => ⟨?_, ?_⟩, fun outer => ⟨?_, ?_⟩, fun outer => ⟨?_, ?_⟩,
    fun outer => ⟨?_, ?_⟩⟩
  all_goals
    rintro ⟨box, member, _, juts⟩
    have within := tiles.within box (mem_cons_of_mem _ member)
    simp only [Side.Inner, Side.lo, Side.hi] at outer juts
    grind [Box.Within]

/-- A gap beside some other box has an inner side. -/
theorem exists_inner (others : rest ≠ []) : ∃ side : Side, side.Inner frame gap := by
  obtain ⟨box, member⟩ := exists_mem_of_ne_nil rest others
  have := tiles.proper box (mem_cons_of_mem _ member)
  have := tiles.within box (mem_cons_of_mem _ member)
  rcases tiles.apart_head member with before | before | before | before
  · exact ⟨.right, by grind [Side.Inner, Box.Proper, Box.Within]⟩
  · exact ⟨.left, by grind [Side.Inner, Box.Proper, Box.Within]⟩
  · exact ⟨.bottom, by grind [Side.Inner, Box.Proper, Box.Within]⟩
  · exact ⟨.top, by grind [Side.Inner, Box.Proper, Box.Within]⟩

/-- Four inner sides are bordered by four boxes. -/
theorem exists_outer (few : rest.length ≤ 3) : ∃ side : Side, ¬side.Inner frame gap := by
  by_contra all
  push Not at all
  have gapProper := tiles.proper gap mem_cons_self
  have across : ∀ side : Side, ∃ box ∈ rest, side.Borders gap box := by
    intro side
    obtain ⟨box, member, borders, _⟩ := tiles.borders_of_inner (all side) le_rfl
      (Side.lo_lt_hi gapProper)
    exact ⟨box, member, borders⟩
  obtain ⟨onLeft, leftMember, _, _⟩ := across .left
  obtain ⟨onRight, _, _, _⟩ := across .right
  obtain ⟨onTop, topMember, _, _⟩ := across .top
  obtain ⟨onBottom, _, _, _⟩ := across .bottom
  simp only [Side.lo, Side.hi] at *
  have leftProper := tiles.proper onLeft (mem_cons_of_mem _ leftMember)
  have topProper := tiles.proper onTop (mem_cons_of_mem _ topMember)
  have distinct : [onLeft, onRight, onTop, onBottom].Nodup := by
    simp only [nodup_cons, mem_cons, not_mem_nil, or_false, not_or]
    refine ⟨⟨?_, ?_, ?_⟩, ⟨?_, ?_⟩, ?_, ?_, ?_⟩
    all_goals grind [Box.Proper]
  have included : [onLeft, onRight, onTop, onBottom] ⊆ rest := by
    intro box member
    simp only [mem_cons, not_mem_nil, or_false] at member
    rcases member with rfl | rfl | rfl | rfl <;> assumption
  have atLeast : 4 ≤ rest.length := (distinct.subperm included).length_le
  omega

/-- A gap that at most three boxes surround has an inner side on which no box juts out. -/
theorem exists_fitting_side (others : rest ≠ []) (few : rest.length ≤ 3) :
    ∃ side : Side, side.Inner frame gap ∧
      ∀ box ∈ rest, side.Borders gap box → side.Fits gap box := by
  by_contra none
  have juts : ∀ side : Side, side.Inner frame gap →
      JutsLow side gap rest ∨ JutsHigh side gap rest := by
    intro side inner
    by_contra neither
    have ⟨low, high⟩ := not_or.mp neither
    exact none ⟨side, inner, fun box => fits_of_not_juts low high⟩
  obtain ⟨_, _, _, _⟩ := tiles.corners
  obtain ⟨_, _, _, _⟩ := tiles.not_juts_of_outer
  -- Going round the gap, each jutting box forces which way the next one juts; a side on the
  -- frame breaks the ring.
  obtain ⟨inner, _⟩ := tiles.exists_inner others
  obtain ⟨outer, _⟩ := tiles.exists_outer few
  cases inner <;> cases outer <;> grind

end

end Tiles
end HydraTerm.Lib
