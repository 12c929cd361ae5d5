import SchemaCatalog.Proofs.Index.Siblings

/-!
# How many nodes have elements

In a `Planted` tree whose names are segments, the index leaves out the root and the wrappers, and nothing
else (`Planted.exists_shows_iff`). There is no other root than the first node, so that the nodes of the tree
are those that have elements, the wrappers, and one more (`Index.size_of_build_planted`, `Planted.size_eq`).

A path of a single name is that of a node which data shows below the root (`Planted.showsBelow_root_iff`), and
there is one such node for each name if there is an index (`Index.distinctBelow_root`).
-/

namespace SchemaCatalog

/-- The kinds that are not those of roots and wrappers. -/
theorem Kind.shown_iff {kind : Kind} :
    kind.isWrapper = false ∧ kind ≠ .root ↔ kind ∉ [Kind.root, .choice, .case] := by
  cases kind <;> simp [Kind.isWrapper]

namespace Tree

/-- How many nodes are of a kind that passes. -/
def countKinds (t : Tree) (passes : Kind → Bool) : Nat :=
  t.nodes.toList.countP fun node => passes node.kind

variable {t : Tree} {place : Nat} {node : Node}

/-! ### Nodes by their kinds -/

/-- Nodes can be counted by their places. -/
theorem countKinds_eq (t : Tree) (passes : Kind → Bool) :
    t.countKinds passes =
      (List.range t.size).countP fun place => (t.node? place).any fun node => passes node.kind := by
  have hnodes : t.nodes.toList.map some = (List.range t.size).map t.node? := by
    apply List.ext_getElem?
    intro place
    by_cases hlt : place < t.size
    · obtain ⟨node, hn⟩ := exists_node?_of_lt hlt
      have hlist : t.nodes.toList[place]? = some node := by rw [Array.getElem?_toList]; exact hn
      simp [hlist, List.getElem?_range hlt, hn]
    · have hge : t.nodes.size ≤ place := Nat.not_lt.mp hlt
      simp [hge, Nat.not_lt.mp hlt]
  have hcount := congrArg (List.countP fun found => found.any fun node => passes node.kind) hnodes
  rw [List.countP_map, List.countP_map] at hcount
  exact hcount

/-- A node is a root, or a wrapper, or neither. -/
theorem size_eq_countKinds (t : Tree) :
    t.size = t.countKinds (· ∉ [.root, .choice, .case]) + t.countKinds (· ∈ [.choice, .case]) +
      t.countKinds (· = .root) := by
  show t.nodes.size = _
  unfold countKinds
  rw [← Array.length_toList]
  induction t.nodes.toList with
  | nil => rfl
  | cons node rest ih =>
    rw [List.length_cons, ih]
    cases hkind : node.kind <;> simp [hkind] <;> omega

/-! ### Trees made of children -/

/-- A root stands at the first place only. -/
theorem Planted.kind_eq_root_iff (h : t.Planted) (hn : t.node? place = some node) :
    node.kind = .root ↔ place = root := by
  have hlinked := h.reachable.linked
  constructor
  · intro hkind
    exact h.eq_root hn (hlinked.parent_root hn hkind)
  · rintro rfl
    obtain ⟨first, hfirst, hkind, _⟩ := hlinked.root_first
    obtain rfl := Option.some.inj (hn.symm.trans hfirst)
    exact hkind

theorem Planted.countKinds_root (h : t.Planted) : t.countKinds (· = .root) = 1 := by
  have hplace : ∀ place ∈ List.range t.size,
      ((t.node? place).any fun node => decide (node.kind = .root)) = true ↔ (place == root) = true := by
    intro place hmem
    obtain ⟨node, hn⟩ := exists_node?_of_lt (List.mem_range.mp hmem)
    rw [hn, Option.any_some, decide_eq_true_iff, h.kind_eq_root_iff hn, beq_iff_eq]
  obtain ⟨first, hfirst, _⟩ := h.reachable.linked.root_first
  rw [countKinds_eq, List.countP_congr hplace]
  exact List.count_eq_one_of_mem List.nodup_range (List.mem_range.mpr (lt_size_of_node? hfirst))

/-- The nodes are those that have elements, the wrappers, and the root. -/
theorem Planted.size_eq (h : t.Planted) :
    t.size = t.countKinds (· ∉ [.root, .choice, .case]) + t.countKinds (· ∈ [.choice, .case]) + 1 := by
  rw [← h.countKinds_root]
  exact t.size_eq_countKinds

/-- **All nodes show themselves but the root and the wrappers.** -/
theorem Planted.exists_shows_iff (h : t.Planted) (plain : t.Segmented) :
    (∃ path, t.Shows place node path) ↔
      t.node? place = some node ∧ node.kind ∉ [Kind.root, .choice, .case] := by
  have hlinked := h.reachable.linked
  rw [← Kind.shown_iff]
  constructor
  · rintro ⟨path, hs⟩
    refine ⟨hs.node?, hs.not_wrapper, ?_⟩
    intro hkind
    have hnames := pathNames_ne_nil (hs.eq_dataPath hlinked ▸ hs.text_ne_empty)
    exact hnames (pathNames_of_top hs.node? (hlinked.parent_root hs.node? hkind))
  · rintro ⟨hn, hplain, hkind⟩
    refine ⟨_, Index.shows_of_pathNames hlinked plain hn hplain ?_⟩
    rcases h.root_or_below hn hplain with ⟨hplace, _⟩ | ⟨_, _, _, _, _, _, hnames⟩
    · exact absurd ((h.kind_eq_root_iff hn).mpr hplace) hkind
    · rw [hnames]
      simp

/-- **Data shows a node below the root if its path has its own name only.** -/
theorem Planted.showsBelow_root_iff (h : t.Planted) :
    t.ShowsBelow root place node ↔
      t.node? place = some node ∧ node.kind.isWrapper = false ∧ t.pathNames place = [node.name] := by
  have hlinked := h.reachable.linked
  constructor
  · intro hs
    obtain ⟨first, hfirst, _, hp⟩ := hlinked.root_first
    have hnames := hlinked.pathNames_of_showsBelow hs (.inl (h.isRooted hfirst))
    rw [pathNames_of_top hfirst hp, List.nil_append] at hnames
    exact ⟨hs.node?, hs.not_wrapper, hnames⟩
  · rintro ⟨hn, hplain, hnames⟩
    rcases h.root_or_below hn hplain with ⟨_, hnil⟩ | ⟨above, upper, ha, haplain, _, hbelow, hconcat⟩
    · rw [hnil] at hnames
      cases hnames
    · -- The node above has no names in its path, which only the root has not.
      have hnil : t.pathNames above = [] := by simpa [hnames] using hconcat
      rcases h.root_or_below ha haplain with ⟨rfl, _⟩ | ⟨_, _, _, _, _, _, hupper⟩
      · exact hbelow
      · simp [hnil] at hupper

end Tree

namespace Index

variable {t : Tree} {index : Index}

/-- An index has an element for every node but the root and the wrappers. -/
theorem size_of_build_planted (made : t.Planted) (plain : t.Segmented) (hindex : build t = .ok index) :
    index.size = t.countKinds (· ∉ [.root, .choice, .case]) := by
  have h := made.reachable.linked
  rw [(holds_of_build h hindex).size, Tree.elements, List.length_filterMap_eq_countP, Tree.countKinds_eq]
  refine List.countP_congr ?_
  intro place _
  rw [Option.isSome_iff_exists, Option.any_eq_true]
  simp only [decide_eq_true_iff]
  constructor
  · rintro ⟨e, he⟩
    obtain ⟨node, path, hs, _⟩ := h.element?_eq_some_iff.mp he
    exact ⟨node, (made.exists_shows_iff plain).mp ⟨path, hs⟩⟩
  · rintro ⟨node, hnode⟩
    obtain ⟨path, hs⟩ := (made.exists_shows_iff plain).mpr hnode
    exact ⟨_, h.element?_eq_some_iff.mpr ⟨node, path, hs, rfl⟩⟩

/-- If there is an index, the nodes that data shows below the root differ in their names. -/
theorem distinctBelow_root (made : t.Planted) (plain : t.Segmented) (hindex : build t = .ok index) :
    t.DistinctBelow Tree.root := by
  have h := made.reachable.linked
  intro i j m n hi hj hname
  obtain ⟨hm, hmplain, hmnames⟩ := made.showsBelow_root_iff.mp hi
  obtain ⟨hn, hnplain, hnnames⟩ := made.showsBelow_root_iff.mp hj
  have hnames : t.pathNames i = t.pathNames j := by rw [hmnames, hnnames, hname]
  have hm' := shows_of_pathNames h plain hm hmplain (by simp [hmnames])
  have hn' := shows_of_pathNames h plain hn hnplain (by simp [hnnames])
  rw [Tree.dataPath_eq_join, hnames, ← Tree.dataPath_eq_join] at hm'
  exact (exists_build_iff h).mp ⟨index, hindex⟩ i j m n _ hm' hn'

end Index

end SchemaCatalog
