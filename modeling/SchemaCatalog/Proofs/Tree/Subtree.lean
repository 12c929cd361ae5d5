import SchemaCatalog.Proofs.DataPath
import SchemaCatalog.Proofs.Tree.Lineage

/-!
# Subtrees and the names of paths

A node is `Within` the subtree of another one if it is reached from there through children, wrappers or
not; on a linked tree, if that one is in its lineage (`Linked.within_iff`).

`pathNames t place` are the names that the path of a node joins. They begin with those of every node in its
lineage (`Linked.pathNames_prefix`). Conversely, any first names of a path that are not none are all names
of some node of the lineage that is no wrapper (`Linked.exists_ancestor`). In a `Segmented` tree these
names are the pieces of the path.
-/

namespace SchemaCatalog.Tree

/-- The places of a subtree: its top, and the children of each of its places. -/
inductive Within (t : Tree) (top : Nat) : Nat → Prop where
  | top : Within t top top
  | child {above place : Nat} {node : Node} (inside : Within t top above)
      (found : t.node? above = some node) (mem : place ∈ node.children) : Within t top place

/-- The names that the path of the node at a place joins: all of its lineage below a root, and all but
the first below another topmost node. -/
def pathNames (t : Tree) (place : Nat) : List String :=
  if t.isRooted place then t.segments place else (t.segments place).tail

variable {t : Tree} {place : Nat} {node : Node}

theorem dataPath_eq_join (t : Tree) (place : Nat) : t.dataPath place = .join (t.pathNames place) :=
  rfl

/-- A path that is not empty has names. -/
theorem pathNames_ne_nil (h : (t.dataPath place).text ≠ "") : t.pathNames place ≠ [] := by
  rw [dataPath_eq_join] at h
  intro hnil
  rw [hnil] at h
  exact h rfl

/-! ### Lineages -/

theorem mem_lineage_self (t : Tree) (place : Nat) : place ∈ t.lineage place := by
  unfold lineage
  split
  · simp
  · split_ifs <;> simp

/-- What holds of the topmost nodes, and of a node if it does of its parent, holds of every node: a parent
stands before its children. -/
theorem Linked.induction_parent (h : t.Linked)
    {motive : (place : Nat) → (node : Node) → t.node? place = some node → Prop}
    (top : ∀ place node hn, node.parent = none → motive place node hn)
    (child : ∀ place node hn above upper hupper, node.parent = some above → above < place →
      motive above upper hupper → motive place node hn)
    (place : Nat) (node : Node) (hn : t.node? place = some node) : motive place node hn := by
  induction place using Nat.strongRecOn generalizing node with
  | ind place ih =>
    cases hp : node.parent with
    | none => exact top place node hn hp
    | some above =>
      have hlt := h.parent_lt hn hp
      obtain ⟨upper, hupper⟩ := exists_node?_of_lt (Nat.lt_trans hlt (lt_size_of_node? hn))
      exact child place node hn above upper hupper hp hlt (ih above hlt upper hupper)

/-- What holds of a node if it does of all its children holds of every node: children stand behind their
parent. -/
theorem Linked.induction_children (h : t.Linked)
    {motive : (place : Nat) → (node : Node) → t.node? place = some node → Prop}
    (step : ∀ place node hn,
      (∀ child inner (hc : t.node? child = some inner), child ∈ node.children →
        motive child inner hc) → motive place node hn)
    (place : Nat) (node : Node) (hn : t.node? place = some node) : motive place node hn := by
  -- The induction is on how many places there are behind the node.
  induction hk : t.size - place using Nat.strongRecOn generalizing place node with
  | ind behind ih =>
    refine step place node hn ?_
    intro child inner hc hmem
    obtain ⟨inner', hc', hp⟩ := (h.mem_children hn child).mp hmem
    have hlt := h.parent_lt hc' hp
    have hsize := lt_size_of_node? hc
    exact ih (t.size - child) (by omega) child inner hc rfl

/-- **A node is in a subtree if the top of it is in its lineage.** -/
theorem Linked.within_iff (h : t.Linked) {top : Nat} (hn : t.node? place = some node) :
    t.Within top place ↔ top ∈ t.lineage place := by
  constructor
  · intro hin
    clear hn
    induction hin with
    | top => exact t.mem_lineage_self top
    | @child above place upper _ found mem ih =>
      obtain ⟨child, hchild, hparent⟩ := (h.mem_children found place).mp mem
      rw [lineage_of_parent hchild hparent (h.parent_lt hchild hparent)]
      exact List.mem_append_left _ ih
  · intro hmem
    induction place, node, hn using h.induction_parent with
    | top place node hn hp =>
      rw [lineage_of_top hn hp, List.mem_singleton] at hmem
      rw [hmem]
      exact .top
    | child place node hn above upper hupper hp hlt ih =>
      rw [lineage_of_parent hn hp hlt, List.mem_append, List.mem_singleton] at hmem
      rcases hmem with hmem | rfl
      · exact .child (ih hmem) hupper ((h.mem_children hupper place).mpr ⟨node, hn, hp⟩)
      · exact .top

/-! ### Names along a lineage -/

/-- A topmost node gives no name to its own path: a root has none, and that of another one is
dropped. -/
theorem pathNames_of_top (hn : t.node? place = some node) (hp : node.parent = none) :
    t.pathNames place = [] := by
  unfold pathNames
  rw [isRooted_of_top hn hp, segments_of_top hn hp]
  by_cases hroot : node.kind = .root
  · simp [segment?, hn, hroot]
  · cases t.segment? place <;> simp [hroot]

/-- Behind the names of its parent, a path has the name of the node, if there is one. Only if no name has
been dropped so far, there are none at all. -/
theorem pathNames_of_parent {above : Nat} (hn : t.node? place = some node)
    (hp : node.parent = some above) (hlt : above < place) :
    t.pathNames place = t.pathNames above ++ (t.segment? place).toList ∨
      (t.pathNames above = [] ∧ t.pathNames place = []) := by
  unfold pathNames
  rw [isRooted_of_parent hn hp hlt, segments_of_parent hn hp hlt]
  by_cases hrooted : t.isRooted above = true
  · simp [hrooted]
  · cases hsegments : t.segments above with
    | nil => cases t.segment? place <;> simp [hrooted]
    | cons name names => simp [hrooted]

/-- The names of a path begin with those of every node in the lineage. -/
theorem Linked.pathNames_prefix (h : t.Linked) {top : Nat} (hn : t.node? place = some node)
    (htop : top ∈ t.lineage place) : t.pathNames top <+: t.pathNames place := by
  induction place, node, hn using h.induction_parent with
  | top place node hn hp =>
    rw [lineage_of_top hn hp, List.mem_singleton] at htop
    obtain rfl := htop
    exact List.prefix_refl _
  | child place node hn above upper hupper hp hlt ih =>
    rw [lineage_of_parent hn hp hlt, List.mem_append, List.mem_singleton] at htop
    rcases htop with htop | rfl
    · have habove := ih htop
      rcases pathNames_of_parent hn hp hlt with heq | ⟨hnil, _⟩
      · rw [heq]
        exact habove.trans (List.prefix_append _ _)
      · rw [hnil, List.prefix_nil] at habove
        rw [habove]
        exact List.nil_prefix
    · exact List.prefix_refl _

/-- **The first names of a path are the names of a node in the lineage**, one that is no wrapper, unless
they are none. -/
theorem Linked.exists_ancestor (h : t.Linked) (hn : t.node? place = some node) {names : List String}
    (hne : names ≠ []) (hbegin : names <+: t.pathNames place) :
    ∃ top upper, top ∈ t.lineage place ∧ t.node? top = some upper ∧ upper.kind.isWrapper = false ∧
      t.pathNames top = names := by
  induction place, node, hn using h.induction_parent with
  | top place node hn hp =>
    rw [pathNames_of_top hn hp, List.prefix_nil] at hbegin
    exact absurd hbegin hne
  | child place node hn above upper hupper hp hlt ih =>
    -- Names that the parent has already are those of a node further up.
    have hfurther : names <+: t.pathNames above → ∃ top upper, top ∈ t.lineage place ∧
        t.node? top = some upper ∧ upper.kind.isWrapper = false ∧ t.pathNames top = names := by
      intro habove
      obtain ⟨top, node', hmem, hfound⟩ := ih habove
      refine ⟨top, node', ?_, hfound⟩
      rw [lineage_of_parent hn hp hlt]
      exact List.mem_append_left _ hmem
    rcases pathNames_of_parent hn hp hlt with heq | ⟨_, hnil⟩
    · cases hsegment : t.segment? place with
      | none =>
        rw [heq, hsegment, Option.toList_none, List.append_nil] at hbegin
        exact hfurther hbegin
      | some name =>
        rw [heq, hsegment, Option.toList_some, List.prefix_concat_iff] at hbegin
        rcases hbegin with hall | habove
        · refine ⟨place, node, t.mem_lineage_self place, hn, ?_, ?_⟩
          · cases hw : node.kind.isWrapper with
            | false => rfl
            | true => simp [segment?, hn, hw] at hsegment
          · rw [heq, hsegment, hall, Option.toList_some]
        · exact hfurther habove
    · rw [hnil, List.prefix_nil] at hbegin
      exact absurd hbegin hne

/-! ### Names that are segments -/

/-- Every name in the tree is one segment of a path. -/
def Segmented (t : Tree) : Prop :=
  ∀ place node, t.node? place = some node → DataPath.IsSegment node.name

theorem segmented_of_forall (h : ∀ node ∈ t.nodes.toList,
    node.name ≠ "" ∧ DataPath.separator ∉ node.name.toList) : t.Segmented := by
  intro place node hn
  obtain ⟨hne, hnot⟩ := h node (Array.mem_toList_iff.mpr (Array.mem_of_getElem? hn))
  exact ⟨hne, hnot⟩

theorem interfaces_segmented : interfaces.Segmented := segmented_of_forall (by decide +kernel)

/-- The names of paths are those of nodes. -/
theorem Segmented.isSegment (h : t.Segmented) :
    ∀ name ∈ t.pathNames place, DataPath.IsSegment name := by
  intro name hname
  have hsegments : name ∈ t.segments place := by
    unfold pathNames at hname
    split_ifs at hname
    · exact hname
    · exact List.mem_of_mem_tail hname
  obtain ⟨above, _, hsegment⟩ := List.mem_filterMap.mp hsegments
  unfold segment? at hsegment
  cases hn : t.node? above with
  | none => simp [hn] at hsegment
  | some node =>
    rw [hn] at hsegment
    dsimp only at hsegment
    split_ifs at hsegment
    rw [← Option.some.inj hsegment]
    exact h above node hn

/-- The path of a node is bare. -/
theorem Segmented.bare_dataPath (h : t.Segmented) (place : Nat) : (t.dataPath place).Bare := by
  rw [dataPath_eq_join]
  exact DataPath.bare_join h.isSegment

/-- The path of a node is empty if it has no names. -/
theorem Segmented.text_dataPath_ne_empty (h : t.Segmented) :
    (t.dataPath place).text ≠ "" ↔ t.pathNames place ≠ [] := by
  constructor
  · exact pathNames_ne_nil
  · exact DataPath.text_join_ne_empty h.isSegment

end SchemaCatalog.Tree
