import HydraTerm.Shell.PaneGeometry

/-!
# The split tree read off rectangles

`topologyFromRects` cuts a set of rectangles in two as long as a cut through the whole set
exists, and hangs the second group below the top left pane of the first. Whatever the
rectangles are, the outcome is a spanning tree of the panes: each pane is listed once, the
first is the only root, and every other pane's parent is listed before it.
-/

namespace HydraTerm.Shell

open List

/-- A tab with its link to the tab it was split from. -/
abbrev Link := TabId × Option SplitFrom

/-- Each link leads to a known tab or to one listed earlier. -/
def LinkedAfter (known : List TabId) : List Link → Prop
  | [] => True
  | (tabId, link) :: rest =>
    (∃ parent, link = some parent ∧ parent.tabId ∈ known) ∧ LinkedAfter (tabId :: known) rest

/-- Every item hangs below one that is known. -/
theorem linkedAfter_map {α : Type} (key : α → TabId) {parent : SplitFrom} (items : List α)
    {known : List TabId} (member : parent.tabId ∈ known) :
    LinkedAfter known (items.map fun item => (key item, some parent)) := by
  induction items generalizing known with
  | nil => trivial
  | cons _ _ ih => exact ⟨⟨_, rfl, member⟩, ih (mem_cons_of_mem _ member)⟩

/-- The links can be listed as one tree: a single root, and every parent before its
children. -/
def SpanningTree (links : List Link) : Prop :=
  ∃ root rest, ((root, none) :: rest).Perm links ∧ LinkedAfter [root] rest

namespace LinkedAfter

variable {known : List TabId} {one other : List Link}

theorem mono {more : List TabId} (linked : LinkedAfter known one) (included : known ⊆ more) :
    LinkedAfter more one := by
  induction one generalizing known more with
  | nil => trivial
  | cons _ _ ih =>
    obtain ⟨⟨parent, isLink, member⟩, later⟩ := linked
    exact ⟨⟨parent, isLink, included member⟩,
      ih later (cons_subset_cons _ included)⟩

/-- Links listed after one another may lead to the earlier part. -/
theorem append (first : LinkedAfter known one)
    (second : LinkedAfter (one.map Prod.fst ++ known) other) : LinkedAfter known (one ++ other) := by
  induction one generalizing known with
  | nil => exact second
  | cons _ _ ih =>
    obtain ⟨head, later⟩ := first
    refine ⟨head, ih later (second.mono ?_)⟩
    intro tabId member
    simp only [map_cons, cons_append, mem_cons, mem_append] at member ⊢
    tauto

variable {tabId : TabId} {link : Option SplitFrom}

/-- Every listed link leads to a known or a listed tab. -/
theorem parent_mem (linked : LinkedAfter known one) (member : (tabId, link) ∈ one) :
    ∃ parent, link = some parent ∧ parent.tabId ∈ one.map Prod.fst ++ known := by
  induction one generalizing known with
  | nil => exact absurd member not_mem_nil
  | cons _ _ ih =>
    obtain ⟨⟨parent, isLink, parentMember⟩, later⟩ := linked
    rcases mem_cons.mp member with rfl | member
    · exact ⟨parent, isLink, mem_append_right _ parentMember⟩
    · obtain ⟨parent, isLink, parentMember⟩ := ih later member
      refine ⟨parent, isLink, ?_⟩
      simp only [map_cons, cons_append, mem_cons, mem_append] at parentMember ⊢
      tauto

/-- Every listed link leads to a place before its own. -/
theorem parent_before {parent : SplitFrom} (linked : LinkedAfter known one)
    (once : (known.reverse ++ one.map Prod.fst).Nodup) (member : (tabId, some parent) ∈ one) :
    (known.reverse ++ one.map Prod.fst).idxOf parent.tabId <
      (known.reverse ++ one.map Prod.fst).idxOf tabId := by
  induction one generalizing known with
  | nil => exact absurd member not_mem_nil
  | cons head rest ih =>
    obtain ⟨headId, headLink⟩ := head
    obtain ⟨⟨_, isLink, foundMember⟩, later⟩ := linked
    have shifted : known.reverse ++ ((headId, headLink) :: rest).map Prod.fst =
        (headId :: known).reverse ++ rest.map Prod.fst := by simp
    rcases mem_cons.mp member with isHead | member
    · cases isHead
      cases isLink
      have earlier : parent.tabId ∈ known.reverse := mem_reverse.mpr foundMember
      have fresh : tabId ∉ known.reverse := by
        intro listed
        exact (nodup_append.mp once).2.2 tabId listed tabId mem_cons_self rfl
      rw [idxOf_append_of_mem earlier, idxOf_append_of_notMem fresh]
      exact Nat.lt_add_right _ (idxOf_lt_length_of_mem earlier)
    · rw [shifted] at once ⊢
      exact ih later once member

/-- The link at a position leads to a known tab or to one at an earlier position. -/
theorem parent_earlier {position : Nat}
    (linked : LinkedAfter known one) (listed : one[position]? = some (tabId, link)) :
    ∃ parent, link = some parent ∧ (parent.tabId ∈ known ∨
      ∃ earlier < position, ∃ above, one[earlier]? = some (parent.tabId, above)) := by
  induction one generalizing known position with
  | nil => cases listed
  | cons head _ ih =>
    obtain ⟨_, headLink⟩ := head
    obtain ⟨⟨parent, isLink, member⟩, later⟩ := linked
    cases position with
    | zero =>
      cases listed
      exact ⟨parent, isLink, .inl member⟩
    | succ =>
      obtain ⟨found, isFound, place⟩ := ih later listed
      refine ⟨found, isFound, ?_⟩
      rcases place with member | ⟨earlier, before, above, isAbove⟩
      · rcases mem_cons.mp member with isHead | member
        · exact .inr ⟨0, Nat.zero_lt_succ _, headLink, by rw [isHead]; rfl⟩
        · exact .inl member
      · exact .inr ⟨earlier + 1, Nat.succ_lt_succ before, above, isAbove⟩

end LinkedAfter

variable {links : List Link} {parent : Option (AgentId × SplitAxis)}

section

variable (tree : SpanningTree links) {tabId : TabId} {parent : SplitFrom}
include tree

/-- The order of the links is irrelevant. -/
theorem SpanningTree.perm {others : List Link}
    (same : links.Perm others) : SpanningTree others := by
  obtain ⟨root, rest, isLinks, linked⟩ := tree
  exact ⟨root, rest, isLinks.trans same, linked⟩

/-- In a spanning tree every link leads to a listed tab. -/
theorem SpanningTree.parent_mem (member : (tabId, some parent) ∈ links) :
    parent.tabId ∈ links.map Prod.fst := by
  obtain ⟨_, _, same, linked⟩ := tree
  rcases mem_cons.mp (same.mem_iff.mpr member) with isRoot | member
  · cases isRoot
  · obtain ⟨_, isLink, parentMember⟩ := linked.parent_mem member
    cases isLink
    have listed := (same.map Prod.fst).mem_iff (a := parent.tabId)
    rw [← listed]
    simpa [or_comm] using parentMember

/-- A spanning tree has its tabs in an order in which parents come first. -/
theorem SpanningTree.rank (once : (links.map Prod.fst).Nodup) : ∃ rank : TabId → Nat,
      (∀ tabId ∈ links.map Prod.fst, rank tabId < links.length) ∧
      ∀ tabId parent, (tabId, some parent) ∈ links → rank parent.tabId < rank tabId := by
  obtain ⟨root, rest, same, linked⟩ := tree
  have ids := same.map Prod.fst
  refine ⟨fun tabId => (root :: rest.map Prod.fst).idxOf tabId, ?_, ?_⟩
  · intro tabId member
    have listed := idxOf_lt_length_of_mem (ids.mem_iff.mpr member)
    rwa [ids.length_eq, length_map] at listed
  · intro tabId parent member
    rcases mem_cons.mp (same.mem_iff.mpr member) with isRoot | member
    · cases isRoot
    · exact linked.parent_before (ids.nodup_iff.mpr once) member

/-- A spanning tree has one root. -/
theorem SpanningTree.root_count : (links.filter (·.2.isNone)).length = 1 := by
  obtain ⟨_, rest, same, linked⟩ := tree
  have others : rest.filter (·.2.isNone) = [] := by
    refine filter_eq_nil_iff.mpr ?_
    rintro ⟨tabId, link⟩ member
    obtain ⟨_, rfl, _⟩ := linked.parent_mem member
    simp
  rw [← (same.filter _).length_eq]
  simp [others]

/-- Adding a tab split from a listed one keeps a spanning tree. -/
theorem SpanningTree.add (listed : parent.tabId ∈ links.map Prod.fst) :
    SpanningTree (links ++ [(tabId, some parent)]) := by
  obtain ⟨root, rest, same, linked⟩ := tree
  refine ⟨root, rest ++ [(tabId, some parent)], ?_, linked.append ⟨⟨parent, rfl, ?_⟩, trivial⟩⟩
  · exact same.append_right _
  · have members := (same.map Prod.fst).mem_iff (a := parent.tabId)
    rw [← members] at listed
    simpa [or_comm] using listed

end

/-! ## Cutting a set of panes in two -/

variable {panes before after : List AgentRect} {vertical : Bool} {cut : ℚ}

theorem partitionAt_perm (parts : partitionAt vertical cut panes = some (before, after)) :
    (before ++ after).Perm panes := by
  induction panes generalizing before after with
  | nil =>
    obtain ⟨rfl, rfl⟩ := parts
    exact .nil
  | cons pane _ ih =>
    rw [partitionAt] at parts
    split at parts
    · obtain ⟨⟨_, _⟩, isParts, joined⟩ := Option.map_eq_some_iff.mp parts
      cases joined
      exact (ih isParts).cons pane
    · split at parts
      · obtain ⟨⟨_, _⟩, isParts, joined⟩ := Option.map_eq_some_iff.mp parts
        cases joined
        exact perm_middle.trans ((ih isParts).cons pane)
      · cases parts

/-- A cut separates the panes into two groups that are not empty, and so both smaller. -/
theorem guillotine_spec (cuts : guillotine vertical panes = some (before, after)) :
    (before ++ after).Perm panes ∧ (before ≠ [] ∧ after ≠ []) ∧
      before.length < panes.length ∧ after.length < panes.length := by
  obtain ⟨_, _, found⟩ := exists_of_findSome?_eq_some cuts
  split at found
  · cases found
  · split at found
    next _ _ parts =>
      split at found
      · cases found
      next both =>
        cases found
        simp only [Bool.or_eq_true, List.isEmpty_iff, not_or] at both
        have same := partitionAt_perm parts
        have total := same.length_eq
        have beforePositive := length_pos_of_ne_nil both.1
        have afterPositive := length_pos_of_ne_nil both.2
        rw [length_append] at total
        exact ⟨same, both, by omega, by omega⟩
    next => cases found

/-- The root of a group is one of its panes. -/
theorem leftRootAgent_mem (nonempty : panes ≠ []) :
    leftRootAgent panes ∈ panes.map AgentRect.agent := by
  have kept : ∀ (rest : List AgentRect) (first : AgentRect),
      rest.foldl (fun best pane => if readsBefore best.rect pane.rect then best else pane) first ∈
        first :: rest := by
    intro rest
    induction rest with
    | nil => exact fun first => mem_singleton_self first
    | cons pane _ ih =>
      intro first
      rw [foldl_cons]
      split
      · rcases mem_cons.mp (ih first) with same | member
        · rw [same]
          exact mem_cons_self
        · exact mem_cons_of_mem _ (mem_cons_of_mem _ member)
      · exact mem_cons_of_mem _ (ih pane)
  cases panes with
  | nil => exact absurd rfl nonempty
  | cons first rest => exact mem_map_of_mem (kept rest first)

/-! ## The recovered tree -/

/-- The tree of a group: its panes once each, the first linked to the given parent and every
other to one listed before it. -/
structure Recovered (panes : List AgentRect) (parent : Option (AgentId × SplitAxis))
    (links : List Link) : Prop where
  once : (links.map Prod.fst).Perm (panes.map AgentRect.agent)
  linked : ∃ first rest, links = (first, parent.map splitFromParent) :: rest ∧ LinkedAfter [first] rest

/-- Hanging the tree of one group below a pane of another. -/
theorem Recovered.append {root : AgentId} {axis : SplitAxis}
    {first second : List Link} (left : Recovered before parent first)
    (right : Recovered after (some (root, axis)) second) (same : (before ++ after).Perm panes)
    (member : root ∈ before.map AgentRect.agent) : Recovered panes parent (first ++ second) := by
  refine ⟨?_, ?_⟩
  · rw [map_append]
    refine (left.once.append right.once).trans ?_
    rw [← map_append]
    exact same.map _
  · obtain ⟨top, rest, rfl, linked⟩ := left.linked
    obtain ⟨hung, below, rfl, linkedBelow⟩ := right.linked
    refine ⟨top, rest ++ (hung, some (splitFromParent (root, axis))) :: below, rfl, ?_⟩
    refine linked.append ⟨⟨_, rfl, ?_⟩, linkedBelow.mono ?_⟩
    · have listed := left.once.mem_iff.mpr member
      simp only [map_cons, mem_cons] at listed
      simp only [splitFromParent, mem_append, mem_singleton]
      tauto
    · intro tabId member
      simp only [mem_singleton] at member
      simp [member]

theorem collect_recovered {bound : Nat} (enough : panes.length ≤ bound) (nonempty : panes ≠ []) :
    Recovered panes parent (collect bound panes parent) := by
  induction bound generalizing panes parent with
  | zero => exact absurd (length_eq_zero_iff.mp (Nat.le_zero.mp enough)) nonempty
  | succ bound ih =>
    match panes, nonempty with
    | [pane], _ => exact ⟨.refl _, pane.agent, [], rfl, trivial⟩
    | pane :: other :: rest, _ =>
      have halves : ∀ {vertical before after axis},
          guillotine vertical (pane :: other :: rest) = some (before, after) →
          Recovered (pane :: other :: rest) parent (collect bound before parent ++
            collect bound after (some (leftRootAgent before, axis))) := by
        intro vertical before after axis cuts
        obtain ⟨same, ⟨someBefore, someAfter⟩, _, _⟩ := guillotine_spec cuts
        exact (ih (by omega) someBefore).append
          (ih (by omega) someAfter) same (leftRootAgent_mem someBefore)
      rw [collect]
      split
      next cuts => exact halves cuts
      next =>
        split
        next cuts => exact halves cuts
        next =>
          -- Without a cut every pane hangs below the first.
          exact ⟨by simp [Function.comp_def], pane.agent, _, rfl,
            linkedAfter_map AgentRect.agent (other :: rest) (mem_singleton_self _)⟩

/-- The recursion ends by itself: every bound that covers the panes gives the same tree. -/
theorem collect_bound {bound more : Nat}
    (enough : panes.length ≤ bound) (moreEnough : panes.length ≤ more) :
    collect bound panes parent = collect more panes parent := by
  induction bound generalizing panes parent more with
  | zero =>
    obtain rfl := length_eq_zero_iff.mp (Nat.le_zero.mp enough)
    cases more <;> rfl
  | succ bound ih =>
    match panes, more with
    | [], 0 | [], _ + 1 | [_], _ + 1 => rfl
    | pane :: other :: rest, more + 1 =>
      have halves : ∀ {vertical before after axis},
          guillotine vertical (pane :: other :: rest) = some (before, after) →
          collect bound before parent ++ collect bound after (some (leftRootAgent before, axis)) =
            collect more before parent ++ collect more after (some (leftRootAgent before, axis)) := by
        intro vertical before after axis cuts
        obtain ⟨_, _, _, _⟩ := guillotine_spec cuts
        rw [ih (by omega) (show before.length ≤ more by omega),
          ih (by omega) (show after.length ≤ more by omega)]
      rw [collect, collect]
      split
      next cuts => exact halves cuts
      next =>
        split
        next cuts => exact halves cuts
        next => rfl

/-- The recovered topology lists each pane once. -/
theorem topologyFromRects_once (panes : List AgentRect) :
    ((topologyFromRects panes).map Prod.fst).Perm (panes.map AgentRect.agent) := by
  by_cases empty : panes = []
  · subst empty
    exact .refl _
  · exact (collect_recovered le_rfl empty).once

theorem topologyFromRects_recovered (nonempty : panes ≠ []) :
    Recovered panes none (topologyFromRects panes) := collect_recovered le_rfl nonempty

/-- The recovered topology of some panes is a spanning tree. -/
theorem topologyFromRects_tree (nonempty : panes ≠ []) : SpanningTree (topologyFromRects panes) := by
  obtain ⟨first, rest, same, linked⟩ := (topologyFromRects_recovered nonempty).linked
  exact ⟨first, rest, .of_eq same.symm, linked⟩

/-- Whatever rectangles the panes have, the recovery ends and yields a tree: each pane once,
the first as the only root, and every other pane below one that is listed before it. -/
theorem topology_recovery_is_tree (distinct : (panes.map AgentRect.agent).Nodup) :
    (∀ bound, panes.length ≤ bound → collect bound panes none = topologyFromRects panes) ∧
    ((topologyFromRects panes).map Prod.fst).Perm (panes.map AgentRect.agent) ∧
    ((topologyFromRects panes).map Prod.fst).Nodup ∧
    ∀ position tabId link, (topologyFromRects panes)[position]? = some (tabId, link) →
      (link = none ↔ position = 0) ∧
      ∀ parent, link = some parent → ∃ earlier < position, ∃ above,
        (topologyFromRects panes)[earlier]? = some (parent.tabId, above) := by
  have once := topologyFromRects_once panes
  refine ⟨fun bound enough => collect_bound enough le_rfl, once, once.nodup_iff.mpr distinct, ?_⟩
  intro position tabId link listed
  by_cases empty : panes = []
  · subst empty
    exact absurd listed (by simp [topologyFromRects, collect])
  obtain ⟨_, _, isTree, linked⟩ := (topologyFromRects_recovered empty).linked
  rw [isTree] at listed ⊢
  cases position with
  | zero =>
    cases listed
    exact ⟨by simp, by simp⟩
  | succ =>
    obtain ⟨_, rfl, place⟩ := linked.parent_earlier listed
    refine ⟨by simp, ?_⟩
    rintro _ ⟨⟩
    rcases place with isFirst | ⟨earlier, before, above, isAbove⟩
    · exact ⟨0, Nat.zero_lt_succ _, none, by rw [mem_singleton.mp isFirst]; rfl⟩
    · exact ⟨earlier + 1, Nat.succ_lt_succ before, above, isAbove⟩

/-- Two panes on top of one another and a third that straddles them: no cut separates them. -/
theorem topology_recovery_is_tree_overlapping :
    (topologyFromRects [⟨"a", ⟨0, 0, 1 / 2, 1⟩⟩, ⟨"b", ⟨0, 0, 1 / 2, 1⟩⟩,
      ⟨"c", ⟨1 / 4, 1 / 4, 1 / 2, 1 / 2⟩⟩]).map Prod.fst |>.Nodup :=
  (topology_recovery_is_tree (by decide)).2.2.1

end HydraTerm.Shell
