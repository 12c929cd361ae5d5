import SchemaCatalog.Proofs.Except
import SchemaCatalog.Proofs.Index.Contents
import SchemaCatalog.Proofs.Text.ByteOrder
import SchemaCatalog.Proofs.Tree.Subtree

/-!
# The paths at and below another one

`expand` compares texts, but what it lists under the path of a node are the paths of the subtree of that
node, if the names of the tree are segments (`expand_pathOf`). A path determines its names then, and as no
two nodes share a path, only one node can be the ancestor whose path another one starts with
(`startsWith_iff_within`).
-/

namespace SchemaCatalog.Index

variable {t : Tree} {index : Index} {place : Nat} {node : Node} {path : DataPath}

/-- The keys of an index ascend in the order of their bytes. -/
theorem paths_ascending (index : Index) :
    index.paths.Pairwise fun p q => Utf8.encode p.text < Utf8.encode q.text := by
  unfold paths
  rw [List.pairwise_map]
  refine Std.TreeMap.ordered_keys.imp ?_
  intro a b hlt
  exact Utf8.encode_lt_iff.mpr hlt

theorem mem_expand_iff (h : t.Linked) (hindex : build t = .ok index) {lead : String} :
    path ∈ index.expand lead ↔ (∃ place node, t.Shows place node path) ∧ path.startsWith lead := by
  rw [expand, List.mem_filter, mem_paths_iff h hindex]

/-- **A path starts with another one if its node is in the subtree of the node of that one.** -/
theorem startsWith_iff_within (h : t.Linked) (plain : t.Segmented) (hindex : build t = .ok index)
    (hs : t.Shows place node path) {inner : Nat} {node' : Node} {path' : DataPath}
    (hs' : t.Shows inner node' path') :
    path'.startsWith path.text = true ↔ t.Within place inner := by
  have hpath := hs.eq_dataPath h
  have hpath' := hs'.eq_dataPath h
  have hne := plain.text_dataPath_ne_empty.mp (hpath ▸ hs.text_ne_empty)
  have hne' := plain.text_dataPath_ne_empty.mp (hpath' ▸ hs'.text_ne_empty)
  rw [hpath, hpath', Tree.dataPath_eq_join, Tree.dataPath_eq_join,
    DataPath.startsWith_join_iff plain.isSegment plain.isSegment hne' hne, h.within_iff hs'.node?]
  constructor
  · intro hbegin
    obtain ⟨top, upper, hmem, hupper, hwrapper, hnames⟩ := h.exists_ancestor hs'.node? hne hbegin
    -- The ancestor has the path of the node, but no two nodes share one.
    have htop : t.Shows top upper path := by
      have heq : t.dataPath top = path := by
        rw [hpath, Tree.dataPath_eq_join, Tree.dataPath_eq_join, hnames]
      exact ⟨hupper, hwrapper, heq ▸ h.pathOf_eq hupper, hs.text_ne_empty⟩
    obtain rfl : top = place := (exists_build_iff h).mp ⟨index, hindex⟩ _ _ _ _ _ htop hs
    exact hmem
  · exact h.pathNames_prefix hs'.node?

/-- A node that is no wrapper shows itself if its path has names. -/
theorem shows_of_pathNames (h : t.Linked) (plain : t.Segmented) (hn : t.node? place = some node)
    (hwrapper : node.kind.isWrapper = false) (hne : t.pathNames place ≠ []) :
    t.Shows place node (t.dataPath place) :=
  ⟨hn, hwrapper, h.pathOf_eq hn, plain.text_dataPath_ne_empty.mpr hne⟩

/-- A node in the subtree of one that shows itself shows itself too, if it is no wrapper. -/
theorem shows_of_within (h : t.Linked) (plain : t.Segmented) (hs : t.Shows place node path)
    {inner : Nat} {node' : Node} (hn : t.node? inner = some node') (hin : t.Within place inner)
    (hwrapper : node'.kind.isWrapper = false) : t.Shows inner node' (t.dataPath inner) := by
  have hne := plain.text_dataPath_ne_empty.mp (hs.eq_dataPath h ▸ hs.text_ne_empty)
  have hbegin := h.pathNames_prefix hn ((h.within_iff hn).mp hin)
  refine shows_of_pathNames h plain hn hwrapper ?_
  intro hnil
  rw [hnil, List.prefix_nil] at hbegin
  exact hne hbegin

/-- **What is listed under the path of a node is its subtree**: in ascending order of the bytes, the paths of
the node itself and of everything below it that is no wrapper. Under the empty path, all keys are
listed. -/
theorem expand_pathOf (made : t.Reachable) (plain : t.Segmented) (hindex : build t = .ok index) :
    (index.expand "").map DataPath.text = index.elements.keys ∧
      ∀ place node path, t.Shows place node path →
        (index.expand path.text).Pairwise (fun p q => Utf8.encode p.text < Utf8.encode q.text) ∧
        (∀ p, p ∈ index.expand path.text ↔ ∃ inner node', t.Within place inner ∧
          t.node? inner = some node' ∧ node'.kind.isWrapper = false ∧ t.pathOf node' = .ok p) ∧
        ∀ inner node' p, t.Shows inner node' p →
          (p ∈ index.expand path.text ↔ t.Within place inner) := by
  have h := made.linked
  refine ⟨?_, fun place node path hs => ⟨index.paths_ascending.filter _, ?_, ?_⟩⟩
  · have hall : index.expand "" = index.paths :=
      List.filter_eq_self.mpr fun p _ => p.startsWith_empty
    rw [hall, paths, List.map_map]
    exact List.map_id _
  · intro p
    rw [mem_expand_iff h hindex]
    constructor
    · rintro ⟨⟨inner, node', hs'⟩, hlead⟩
      have hin := (startsWith_iff_within h plain hindex hs hs').mp hlead
      exact ⟨inner, node', hin, hs'.node?, hs'.not_wrapper, hs'.pathOf⟩
    · rintro ⟨inner, node', hin, hn, hwrapper, hpath⟩
      have hs' := shows_of_within h plain hs hn hin hwrapper
      obtain rfl : t.dataPath inner = p := Except.ok.inj (hs'.pathOf.symm.trans hpath)
      exact ⟨⟨inner, node', hs'⟩, (startsWith_iff_within h plain hindex hs hs').mpr hin⟩
  · intro inner node' p hs'
    rw [mem_expand_iff h hindex, startsWith_iff_within h plain hindex hs hs']
    exact and_iff_right ⟨inner, node', hs'⟩

/-- Below the container of the interfaces, the leaf behind a choice is listed. -/
theorem expand_pathOf_interfaces :
    Tree.interfaces.Reachable ∧ Tree.interfaces.Segmented ∧
      ∃ index, build Tree.interfaces = .ok index ∧
        ⟨"interfaces/mtu"⟩ ∈ index.expand "interfaces" := by
  have plain := Tree.interfaces_segmented
  obtain ⟨index, hindex⟩ := exists_ok_of_isSome (x := build Tree.interfaces) rfl
  refine ⟨Tree.interfaces_reachable, plain, index, hindex, ?_⟩
  have hs : Tree.interfaces.Shows 1
      { name := "interfaces", kind := .container, parent := some 0, children := #[2, 3] }
      ⟨"interfaces"⟩ := ⟨rfl, rfl, by decide +kernel, by decide⟩
  -- The leaf is in a case of the choice in the container.
  have hin : Tree.interfaces.Within 1 5 := by
    have hchoice : Tree.interfaces.Within 1 3 := .child .top rfl (by decide +kernel)
    have hcase : Tree.interfaces.Within 1 4 := .child hchoice rfl (by decide +kernel)
    exact .child hcase rfl (by decide +kernel)
  obtain ⟨_, hlisted, _⟩ := (expand_pathOf Tree.interfaces_reachable plain hindex).2 _ _ _ hs
  exact (hlisted ⟨"interfaces/mtu"⟩).mpr ⟨5, _, hin, rfl, rfl, by decide +kernel⟩

end SchemaCatalog.Index
