import SchemaCatalog.Proofs.Tree.Subtree

/-!
# The nodes that data shows below another one

A node `ShowsBelow` another one if it is no wrapper and is reached from there through wrappers only. Read
upward, the other one is the nearest of its ancestors that is no wrapper (`Linked.through_iff`). Read
downward, the way begins with a child, and goes on from there if that is a wrapper
(`Linked.through_iff_exists_child`). The path of the node has one name more than that of the other one
(`Linked.pathNames_of_showsBelow`).
-/

namespace SchemaCatalog.Tree

/-- The places that are reached from a node through wrappers only: its children, and those of every wrapper
that is reached. -/
inductive Through (t : Tree) (above : Nat) : Nat → Prop where
  | child {place : Nat} {node : Node} (found : t.node? above = some node)
      (mem : place ∈ node.children) : Through t above place
  | inside {wrapper place : Nat} {node : Node} (outer : Through t above wrapper)
      (found : t.node? wrapper = some node) (isWrapper : node.kind.isWrapper = true)
      (mem : place ∈ node.children) : Through t above place

/-- The data shows the node at a place right below another one: it is no wrapper, and there are only wrappers
between the two. -/
structure ShowsBelow (t : Tree) (above place : Nat) (node : Node) : Prop where
  through : t.Through above place
  node? : t.node? place = some node
  not_wrapper : node.kind.isWrapper = false

/-- Whether there is a node at a place that is no wrapper. -/
def isPlain (t : Tree) (place : Nat) : Bool := (t.node? place).any fun node => !node.kind.isWrapper

/-- The nearest ancestor of a node that is no wrapper. -/
def shownAbove? (t : Tree) (place : Nat) : Option Nat :=
  (t.lineage place).dropLast.reverse.find? t.isPlain

variable {t : Tree} {above place : Nat} {node upper : Node}

theorem isPlain_of_node? (h : t.node? place = some node) : t.isPlain place = !node.kind.isWrapper := by
  rw [isPlain, h, Option.any_some]

/-! ### Lineages -/

/-- A lineage ends at its node. -/
theorem lineage_eq_concat (t : Tree) (place : Nat) : ∃ before, t.lineage place = before ++ [place] := by
  unfold lineage
  split
  · exact ⟨[], rfl⟩
  · split_ifs
    · exact ⟨_, rfl⟩
    · exact ⟨[], rfl⟩

/-- No node of a lineage stands behind its end. -/
theorem Linked.le_of_mem_lineage (h : t.Linked) (hn : t.node? place = some node)
    (hmem : above ∈ t.lineage place) : above ≤ place := by
  induction place, node, hn using h.induction_parent with
  | top place node hn hp =>
    rw [lineage_of_top hn hp, List.mem_singleton] at hmem
    exact Nat.le_of_eq hmem
  | child place node hn parent upper hupper hp hlt ih =>
    rw [lineage_of_parent hn hp hlt, List.mem_append, List.mem_singleton] at hmem
    rcases hmem with hmem | rfl
    · have := ih hmem
      omega
    · exact Nat.le_refl _

/-- Of two nodes in one lineage, one is in that of the other. -/
theorem Linked.lineage_comparable (h : t.Linked) (hn : t.node? place = some node) {a b : Nat}
    (ha : a ∈ t.lineage place) (hb : b ∈ t.lineage place) : a ∈ t.lineage b ∨ b ∈ t.lineage a := by
  induction place, node, hn using h.induction_parent with
  | top place node hn hp =>
    rw [lineage_of_top hn hp, List.mem_singleton] at ha hb
    rw [ha, hb]
    exact .inl (t.mem_lineage_self place)
  | child place node hn parent upper hupper hp hlt ih =>
    have hline := lineage_of_parent hn hp hlt
    rw [hline, List.mem_append, List.mem_singleton] at ha hb
    rcases ha with ha | rfl
    · rcases hb with hb | rfl
      · exact ih ha hb
      · exact .inl (hline ▸ List.mem_append_left _ ha)
    · rcases hb with hb | rfl
      · exact .inr (hline ▸ List.mem_append_left _ hb)
      · exact .inl (t.mem_lineage_self _)

/-- The subtrees of two children of one node have nothing in common. -/
theorem Linked.siblings_disjoint (h : t.Linked) (hupper : t.node? above = some upper) {a b : Nat}
    (ha : a ∈ upper.children) (hb : b ∈ upper.children) (hne : a ≠ b) (hn : t.node? place = some node)
    (hmem : a ∈ t.lineage place) : b ∉ t.lineage place := by
  -- One of the two would be an ancestor of the other, and so of the node above, before which it stands.
  have hside : ∀ {a b : Nat}, a ∈ upper.children → b ∈ upper.children → a ≠ b → a ∉ t.lineage b := by
    intro a b ha hb hne hmem
    obtain ⟨m, hm, hpm⟩ := (h.mem_children hupper a).mp ha
    obtain ⟨n, hn, hpn⟩ := (h.mem_children hupper b).mp hb
    rw [lineage_of_parent hn hpn (h.parent_lt hn hpn), List.mem_append, List.mem_singleton] at hmem
    rcases hmem with hmem | heq
    · have := h.le_of_mem_lineage hupper hmem
      have := h.parent_lt hm hpm
      omega
    · exact hne heq
  intro hmem'
  rcases h.lineage_comparable hn hmem hmem' with hab | hba
  · exact hside ha hb hne hab
  · exact hside hb ha (Ne.symm hne) hba

/-! ### Upward -/

theorem shownAbove?_of_top (hn : t.node? place = some node) (hp : node.parent = none) :
    t.shownAbove? place = none := by
  rw [shownAbove?, lineage_of_top hn hp]
  rfl

/-- The nearest ancestor that is no wrapper is the parent, or the nearest one above the parent. -/
theorem shownAbove?_of_parent (hn : t.node? place = some node) (hp : node.parent = some above)
    (hlt : above < place) (hupper : t.node? above = some upper) :
    t.shownAbove? place = if upper.kind.isWrapper then t.shownAbove? above else some above := by
  obtain ⟨before, hbefore⟩ := t.lineage_eq_concat above
  rw [shownAbove?, shownAbove?, lineage_of_parent hn hp hlt, List.dropLast_concat, hbefore,
    List.dropLast_concat, List.reverse_concat, List.find?_cons, isPlain_of_node? hupper]
  cases upper.kind.isWrapper <;> rfl

/-- What is reached from a node is there, and stands behind it. -/
theorem Linked.exists_of_through (h : t.Linked) (hthrough : t.Through above place) :
    ∃ node parent, t.node? place = some node ∧ node.parent = some parent ∧ above < place := by
  induction hthrough with
  | child found mem =>
    obtain ⟨node, hn, hp⟩ := (h.mem_children found _).mp mem
    exact ⟨node, _, hn, hp, h.parent_lt hn hp⟩
  | inside _ found _ mem ih =>
    obtain ⟨node, hn, hp⟩ := (h.mem_children found _).mp mem
    obtain ⟨_, _, _, _, hlt⟩ := ih
    exact ⟨node, _, hn, hp, Nat.lt_trans hlt (h.parent_lt hn hp)⟩

/-- Below a root, every node that has a parent is reached through wrappers from one that is none. -/
theorem Linked.exists_through (h : t.Linked) (hn : t.node? place = some node)
    (hrooted : t.isRooted place = true) (hp : node.parent ≠ none) :
    ∃ above upper, t.node? above = some upper ∧ upper.kind.isWrapper = false ∧
      t.Through above place := by
  induction place, node, hn using h.induction_parent with
  | top place node hn hnone => exact absurd hnone hp
  | child place node hn parent inner hinner hparent hlt ih =>
    have hmem : place ∈ inner.children := (h.mem_children hinner place).mpr ⟨node, hn, hparent⟩
    cases hw : inner.kind.isWrapper with
    | false => exact ⟨parent, inner, hinner, hw, .child hinner hmem⟩
    | true =>
      rw [isRooted_of_parent hn hparent hlt] at hrooted
      -- The wrapper is not the topmost node, as that is a root.
      have hinside : inner.parent ≠ none := by
        intro hnone
        rw [isRooted_of_top hinner hnone, decide_eq_true_iff] at hrooted
        rw [hrooted] at hw
        cases hw
      obtain ⟨above, upper, hupper, hplain, hthrough⟩ := ih hrooted hinside
      exact ⟨above, upper, hupper, hplain, .inside hthrough hinner hw hmem⟩

/-- **A node is reached from another one through wrappers only if that is its nearest ancestor that is none.** -/
theorem Linked.through_iff (h : t.Linked) (hupper : t.node? above = some upper)
    (hplain : upper.kind.isWrapper = false) (hn : t.node? place = some node) :
    t.Through above place ↔ t.shownAbove? place = some above := by
  constructor
  · intro hthrough
    clear hn
    induction hthrough with
    | @child place inner found mem =>
      obtain rfl := Option.some.inj (hupper.symm.trans found)
      obtain ⟨node, hn, hp⟩ := (h.mem_children found place).mp mem
      rw [shownAbove?_of_parent hn hp (h.parent_lt hn hp) hupper, hplain]
      rfl
    | @inside wrapper place inner _ found isWrapper mem ih =>
      obtain ⟨node, hn, hp⟩ := (h.mem_children found place).mp mem
      rw [shownAbove?_of_parent hn hp (h.parent_lt hn hp) found, isWrapper]
      exact ih
  · intro hshown
    induction place, node, hn using h.induction_parent with
    | top place node hn hp =>
      rw [shownAbove?_of_top hn hp] at hshown
      cases hshown
    | child place node hn parent inner hinner hp hlt ih =>
      rw [shownAbove?_of_parent hn hp hlt hinner] at hshown
      have hmem : place ∈ inner.children := (h.mem_children hinner place).mpr ⟨node, hn, hp⟩
      cases hw : inner.kind.isWrapper with
      | true =>
        rw [hw, if_pos rfl] at hshown
        exact .inside (ih hshown) hinner hw hmem
      | false =>
        rw [hw, if_neg Bool.false_ne_true] at hshown
        obtain rfl := Option.some.inj hshown
        exact .child hinner hmem

/-! ### Downward -/

/-- What is reached from a wrapper is reached from where the wrapper is. -/
theorem Through.trans {wrapper : Nat} (houter : t.Through above wrapper)
    (hw : t.node? wrapper = some node) (hkind : node.kind.isWrapper = true)
    (hinner : t.Through wrapper place) : t.Through above place := by
  induction hinner with
  | child found mem =>
    obtain rfl := Option.some.inj (hw.symm.trans found)
    exact .inside houter hw hkind mem
  | inside _ found isWrapper mem ih => exact .inside ih found isWrapper mem

/-- A node is reached from another one as a child of it, or from a child that is a wrapper. -/
theorem Linked.through_iff_exists_child (h : t.Linked) (hupper : t.node? above = some upper) :
    t.Through above place ↔ ∃ child inner, child ∈ upper.children ∧ t.node? child = some inner ∧
      (place = child ∨ inner.kind.isWrapper = true ∧ t.Through child place) := by
  constructor
  · intro hthrough
    induction hthrough with
    | @child place node found mem =>
      obtain rfl := Option.some.inj (hupper.symm.trans found)
      obtain ⟨inner, hc, _⟩ := (h.mem_children hupper place).mp mem
      exact ⟨place, inner, mem, hc, .inl rfl⟩
    | @inside wrapper place node _ found isWrapper mem ih =>
      obtain ⟨child, inner, hmem, hc, rfl | ⟨hw, hthrough⟩⟩ := ih
      · exact ⟨wrapper, node, hmem, found, .inr ⟨isWrapper, .child found mem⟩⟩
      · exact ⟨child, inner, hmem, hc, .inr ⟨hw, .inside hthrough found isWrapper mem⟩⟩
  · rintro ⟨child, inner, hmem, hc, rfl | ⟨hw, hthrough⟩⟩
    · exact .child hupper hmem
    · exact Through.trans (.child hupper hmem) hc hw hthrough

/-- What is reached from a node is in its subtree. -/
theorem Through.within (h : t.Through above place) : t.Within above place := by
  induction h with
  | child found mem => exact .child .top found mem
  | inside _ found _ mem ih => exact .child ih found mem

/-! ### Names of paths -/

/-- Between a node and what is reached from there, no name is added to a path. -/
theorem Linked.segments_of_through (h : t.Linked) (hthrough : t.Through above place) :
    t.segments place = t.segments above ++ (t.segment? place).toList ∧
      t.isRooted place = t.isRooted above := by
  induction hthrough with
  | @child place node found mem =>
    obtain ⟨inner, hn, hp⟩ := (h.mem_children found place).mp mem
    have hlt := h.parent_lt hn hp
    exact ⟨segments_of_parent hn hp hlt, isRooted_of_parent hn hp hlt⟩
  | @inside wrapper place node _ found isWrapper mem ih =>
    obtain ⟨inner, hn, hp⟩ := (h.mem_children found place).mp mem
    have hlt := h.parent_lt hn hp
    have hnone : t.segment? wrapper = none := by simp [segment?, found, isWrapper]
    rw [hnone, Option.toList_none, List.append_nil] at ih
    rw [segments_of_parent hn hp hlt, isRooted_of_parent hn hp hlt, ih.1]
    exact ⟨rfl, ih.2⟩

/-- **What data shows below a node has one name more in its path**, if the path has names already or begins
at a root. -/
theorem Linked.pathNames_of_showsBelow (h : t.Linked) (hs : t.ShowsBelow above place node)
    (hbase : t.isRooted above = true ∨ t.pathNames above ≠ []) :
    t.pathNames place = t.pathNames above ++ [node.name] := by
  obtain ⟨hsegments, hrooted⟩ := h.segments_of_through hs.through
  have hsegment : t.segment? place = some node.name := by
    obtain ⟨node', _, hn, hp, _⟩ := h.exists_of_through hs.through
    obtain rfl := Option.some.inj (hs.node?.symm.trans hn)
    have hroot : node.kind ≠ .root := by
      intro hroot
      rw [h.parent_root hn hroot] at hp
      cases hp
    simp [segment?, hn, hs.not_wrapper, hroot]
  rw [hsegment, Option.toList_some] at hsegments
  unfold pathNames at hbase ⊢
  rw [hrooted, hsegments]
  cases hr : t.isRooted above with
  | true => rfl
  | false =>
    have hne : t.segments above ≠ [] := by
      rintro hnil
      simp [hr, hnil] at hbase
    rw [if_neg Bool.false_ne_true, if_neg Bool.false_ne_true, List.tail_append_of_ne_nil hne]

end SchemaCatalog.Tree
