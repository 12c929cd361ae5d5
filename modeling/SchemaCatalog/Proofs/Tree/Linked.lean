import SchemaCatalog.Tree
import Mathlib.Tactic.Common

/-!
# The links of a tree

A tree that is made by `new`, `addChild` and `addDetached` is `Reachable`, and every such tree is
`Linked` (`Reachable.linked`): its first node is a root without a parent, the parent of a node stands
before it, and the children of a node are the nodes whose parent it is, in ascending order.

`addChild` is read through `addChild_eq_ok_iff`: the tree it gives is `linkChild`, whose nodes
`node?_linkChild` lists. `addDetached` adds a node at the end only (`node?_addDetached`).
-/

namespace SchemaCatalog.Tree

/-- The trees that can be made. -/
inductive Reachable : Tree → Prop where
  | new (uniqueName : String) : Reachable (.new uniqueName)
  | addChild {t t' : Tree} {place : Nat} (parent : Nat) (node : Node) (made : Reachable t)
      (added : t.addChild parent node = .ok (t', place)) : Reachable t'
  | addDetached {t : Tree} (node : Node) (made : Reachable t) : Reachable (t.addDetached node).1

/-- What the links of a tree keep to. -/
structure Linked (t : Tree) : Prop where
  /-- The first node is a root without a parent. -/
  root_first : ∃ node, t.node? root = some node ∧ node.kind = .root ∧ node.parent = none
  /-- No root has a parent. -/
  parent_root : ∀ {place node}, t.node? place = some node → node.kind = .root → node.parent = none
  /-- A parent stands before its children. -/
  parent_lt : ∀ {place node above}, t.node? place = some node → node.parent = some above →
    above < place
  /-- The children of a node are the nodes whose parent it is. -/
  mem_children : ∀ {above node}, t.node? above = some node → ∀ place,
    place ∈ node.children ↔ ∃ child, t.node? place = some child ∧ child.parent = some above
  /-- Children stand in ascending order. -/
  ascending : ∀ {place node}, t.node? place = some node → node.children.toList.Pairwise (· < ·)
  /-- A terminal node has no children. -/
  terminal : ∀ {place node}, t.node? place = some node → node.kind.isTerminal = true →
    node.children = #[]

/-! ### Places -/

theorem node?_eq_none_iff (t : Tree) (place : Nat) : t.node? place = none ↔ t.size ≤ place := by
  rw [node?, size, Array.getElem?_eq_none_iff]

theorem lt_size_of_node? {t : Tree} {place : Nat} {node : Node} (h : t.node? place = some node) :
    place < t.size := by
  by_contra hge
  rw [(t.node?_eq_none_iff place).mpr (Nat.not_lt.mp hge)] at h
  cases h

theorem exists_node?_of_lt {t : Tree} {place : Nat} (h : place < t.size) :
    ∃ node, t.node? place = some node := by
  cases hn : t.node? place with
  | some node => exact ⟨node, rfl⟩
  | none =>
    have hge := (t.node?_eq_none_iff place).mp hn
    omega

theorem node?_new (uniqueName : String) (place : Nat) :
    (new uniqueName).node? place =
      if place = 0 then some ⟨rootName, .root, none, none, [], none, #[]⟩ else none := by
  cases place with
  | zero => rfl
  | succ place => simp [node?, new]

/-- A tree has its root only at first. -/
theorem eq_of_node?_new {uniqueName : String} {place : Nat} {node : Node}
    (h : (new uniqueName).node? place = some node) :
    node = ⟨rootName, .root, none, none, [], none, #[]⟩ := by
  rw [node?_new] at h
  split_ifs at h
  exact (Option.some.inj h).symm

/-! ### Adding nodes -/

/-- The tree with a node added below the one at `parent`. -/
def linkChild (t : Tree) (parent : Nat) (node : Node) : Tree :=
  ⟨t.uniqueName,
    (t.nodes.modify parent fun n => { n with children := n.children.push t.size }).push
      { node with parent := some parent, children := #[] }⟩

/-- `addChild` succeeds if the parent is there and can have children and the node is no root; it
links the node at the end of the tree then. -/
theorem addChild_eq_ok_iff {t t' : Tree} {parent place : Nat} {node : Node} :
    t.addChild parent node = .ok (t', place) ↔
      (∃ above, t.node? parent = some above ∧ above.kind.isTerminal = false) ∧
        node.kind ≠ .root ∧ t' = t.linkChild parent node ∧ place = t.size := by
  unfold addChild
  cases ha : t.node? parent with
  | none => simp
  | some above =>
    by_cases ht : above.kind.isTerminal = true
    · simp [ht]
    by_cases hr : node.kind = .root
    · simp [ht, hr]
    simp only [ht, hr, Bool.false_eq_true, if_false, Except.ok.injEq, Prod.mk.injEq]
    constructor
    · rintro ⟨rfl, rfl⟩
      exact ⟨⟨above, rfl, by simpa using ht⟩, hr, rfl, rfl⟩
    · rintro ⟨_, _, rfl, rfl⟩
      exact ⟨rfl, rfl⟩

theorem size_linkChild (t : Tree) (parent : Nat) (node : Node) :
    (t.linkChild parent node).size = t.size + 1 := by
  simp [linkChild, size]

theorem node?_linkChild (t : Tree) (parent : Nat) (node : Node) (place : Nat) :
    (t.linkChild parent node).node? place =
      if place = t.size then some { node with parent := some parent, children := #[] }
      else if parent = place then
        (t.node? place).map fun n => { n with children := n.children.push t.size }
      else t.node? place := by
  rw [linkChild, node?, Array.getElem?_push, Array.size_modify, Array.getElem?_modify]
  rfl

theorem node?_addDetached (t : Tree) (node : Node) (place : Nat) :
    (t.addDetached node).1.node? place =
      if place = t.size then some { node with parent := none, children := #[] }
      else t.node? place := by
  rw [addDetached, node?, Array.getElem?_push]
  rfl

/-- A node of the tree is the detached one, or it was there before. -/
theorem node?_addDetached_cases {t : Tree} {place : Nat} {node n : Node}
    (h : (t.addDetached node).1.node? place = some n) :
    (place = t.size ∧ n = { node with parent := none, children := #[] }) ∨
      t.node? place = some n := by
  rw [node?_addDetached] at h
  split_ifs at h with hnew
  · exact .inl ⟨hnew, (Option.some.inj h).symm⟩
  · exact .inr h

/-- A node of a tree stays as it is when a detached one is added. -/
theorem node?_addDetached_of_node? {t : Tree} {place : Nat} {node n : Node}
    (h : t.node? place = some n) : (t.addDetached node).1.node? place = some n := by
  rw [node?_addDetached, if_neg (Nat.ne_of_lt (lt_size_of_node? h)), h]

/-- What a node of the tree was before one was added below `parent`: it is the new one, or it had the
same data, and gained the new child if it is the parent. -/
theorem node?_linkChild_cases {t : Tree} {parent place : Nat} {node n : Node}
    (h : (t.linkChild parent node).node? place = some n) :
    (place = t.size ∧ n = { node with parent := some parent, children := #[] }) ∨
      ∃ old, t.node? place = some old ∧ n =
        { old with children := if parent = place then old.children.push t.size else old.children } := by
  rw [node?_linkChild] at h
  split_ifs at h with hnew hparent
  · exact .inl ⟨hnew, (Option.some.inj h).symm⟩
  · obtain ⟨old, hold, rfl⟩ := Option.map_eq_some_iff.mp h
    exact .inr ⟨old, hold, by rw [if_pos hparent]⟩
  · exact .inr ⟨n, h, by rw [if_neg hparent]⟩

/-- A node of a tree keeps all but its children when one is added below `parent`. -/
theorem node?_linkChild_of_node? {t : Tree} {parent place : Nat} {node old : Node}
    (h : t.node? place = some old) :
    (t.linkChild parent node).node? place = some
      { old with children := if parent = place then old.children.push t.size else old.children } := by
  have hlt := lt_size_of_node? h
  rw [node?_linkChild, if_neg (Nat.ne_of_lt hlt), h]
  by_cases hp : parent = place
  · simp only [if_pos hp, Option.map_some]
  · simp only [if_neg hp]

/-! ### Every tree that is made is linked -/

theorem linked_new (uniqueName : String) : (new uniqueName).Linked where
  root_first := ⟨_, rfl, rfl, rfl⟩
  parent_root {place node} h _ := by
    rw [eq_of_node?_new h]
  parent_lt {place node above} h hp := by
    rw [eq_of_node?_new h] at hp
    cases hp
  mem_children {above node} h place := by
    rw [eq_of_node?_new h]
    constructor
    · intro hmem
      exact absurd hmem (Array.not_mem_empty place)
    · rintro ⟨child, hchild, hparent⟩
      rw [eq_of_node?_new hchild] at hparent
      cases hparent
  ascending {place node} h := by
    rw [eq_of_node?_new h]
    exact List.Pairwise.nil
  terminal {place node} h ht := by
    rw [eq_of_node?_new h]

/-- The children of a linked tree stand before its end. -/
theorem Linked.child_lt_size {t : Tree} (h : t.Linked) {above place : Nat} {node : Node}
    (hn : t.node? above = some node) (hc : place ∈ node.children) : place < t.size := by
  obtain ⟨child, hchild, _⟩ := (h.mem_children hn place).mp hc
  exact lt_size_of_node? hchild

/-- The place behind the end of a linked tree is nobody's parent. -/
theorem Linked.parent_ne_size {t : Tree} (h : t.Linked) {place : Nat} {node : Node}
    (hn : t.node? place = some node) : node.parent ≠ some t.size := by
  intro hp
  have := h.parent_lt hn hp
  have := lt_size_of_node? hn
  omega

/-- Children and parents still agree when a node is added below another one. -/
theorem Linked.mem_children_linkChild {t : Tree} (h : t.Linked) {parent : Nat} {node above : Node}
    (ha : t.node? parent = some above) {q : Nat} {n : Node}
    (hn : (t.linkChild parent node).node? q = some n) (place : Nat) :
    place ∈ n.children ↔
      ∃ child, (t.linkChild parent node).node? place = some child ∧ child.parent = some q := by
  have hparent := lt_size_of_node? ha
  rcases node?_linkChild_cases hn with ⟨rfl, rfl⟩ | ⟨old, hold, rfl⟩
  · -- The new node has no children, and is nobody's parent yet.
    constructor
    · intro hmem
      exact absurd hmem (Array.not_mem_empty place)
    · rintro ⟨child, hchild, hq⟩
      rcases node?_linkChild_cases hchild with ⟨_, rfl⟩ | ⟨old, hold, rfl⟩
      · have : parent = t.size := Option.some.inj hq
        omega
      · have hq : old.parent = some t.size := hq
        exact absurd hq (h.parent_ne_size hold)
  · have hmem := h.mem_children hold place
    by_cases hp : parent = q
    · -- The parent has gained the new node.
      rw [if_pos hp, Array.mem_push, hmem]
      constructor
      · rintro (⟨child, hchild, hc⟩ | rfl)
        · exact ⟨_, node?_linkChild_of_node? hchild, hc⟩
        · exact ⟨_, by rw [node?_linkChild, if_pos rfl], by rw [hp]⟩
      · rintro ⟨child, hchild, hc⟩
        rcases node?_linkChild_cases hchild with ⟨hnew, _⟩ | ⟨old', hold', rfl⟩
        · exact .inr hnew
        · exact .inl ⟨old', hold', hc⟩
    · rw [if_neg hp, hmem]
      constructor
      · rintro ⟨child, hchild, hc⟩
        exact ⟨_, node?_linkChild_of_node? hchild, hc⟩
      · rintro ⟨child, hchild, hc⟩
        rcases node?_linkChild_cases hchild with ⟨_, rfl⟩ | ⟨old', hold', rfl⟩
        · exact absurd (Option.some.inj hc) hp
        · exact ⟨old', hold', hc⟩

theorem Linked.linkChild {t : Tree} (h : t.Linked) {parent : Nat} {node above : Node}
    (ha : t.node? parent = some above) (ht : above.kind.isTerminal = false)
    (hr : node.kind ≠ .root) : (t.linkChild parent node).Linked where
  root_first := by
    obtain ⟨first, hfirst, hkind, hparent⟩ := h.root_first
    exact ⟨_, node?_linkChild_of_node? hfirst, hkind, hparent⟩
  parent_root {place n} hn hk := by
    rcases node?_linkChild_cases hn with ⟨_, rfl⟩ | ⟨old, hold, rfl⟩
    · exact absurd hk hr
    · show old.parent = none
      exact h.parent_root hold hk
  parent_lt {place n q} hn hq := by
    rcases node?_linkChild_cases hn with ⟨rfl, rfl⟩ | ⟨old, hold, rfl⟩
    · rw [← Option.some.inj hq]
      exact lt_size_of_node? ha
    · exact h.parent_lt hold hq
  mem_children hn place := h.mem_children_linkChild ha hn place
  ascending {place n} hn := by
    rcases node?_linkChild_cases hn with ⟨_, rfl⟩ | ⟨old, hold, rfl⟩
    · exact List.Pairwise.nil
    · by_cases hp : parent = place
      · -- The new child comes last, and all others stand before the end of the tree.
        rw [if_pos hp, Array.toList_push, List.pairwise_append]
        refine ⟨h.ascending hold, List.pairwise_singleton _ _, ?_⟩
        intro a hmem b hb
        rw [List.mem_singleton.mp hb]
        exact h.child_lt_size hold (Array.mem_toList_iff.mp hmem)
      · rw [if_neg hp]
        exact h.ascending hold
  terminal {place n} hn hk := by
    rcases node?_linkChild_cases hn with ⟨_, rfl⟩ | ⟨old, hold, rfl⟩
    · rfl
    · have hp : parent ≠ place := by
        rintro rfl
        rw [ha] at hold
        rw [Option.some.inj hold] at ht
        exact Bool.false_ne_true (ht.symm.trans hk)
      rw [if_neg hp]
      exact h.terminal hold hk

theorem Linked.addDetached {t : Tree} (h : t.Linked) (node : Node) :
    (t.addDetached node).1.Linked where
  root_first := by
    obtain ⟨first, hfirst, hkind, hparent⟩ := h.root_first
    exact ⟨first, node?_addDetached_of_node? hfirst, hkind, hparent⟩
  parent_root {place n} hn hk := by
    rcases node?_addDetached_cases hn with ⟨_, rfl⟩ | hold
    · rfl
    · exact h.parent_root hold hk
  parent_lt {place n q} hn hq := by
    rcases node?_addDetached_cases hn with ⟨_, rfl⟩ | hold
    · cases hq
    · exact h.parent_lt hold hq
  mem_children {q n} hn place := by
    rcases node?_addDetached_cases hn with ⟨rfl, rfl⟩ | hold
    · constructor
      · intro hmem
        exact absurd hmem (Array.not_mem_empty place)
      · rintro ⟨child, hchild, hq⟩
        rcases node?_addDetached_cases hchild with ⟨_, rfl⟩ | hold
        · cases hq
        · exact absurd hq (h.parent_ne_size hold)
    · rw [h.mem_children hold place]
      constructor
      · rintro ⟨child, hchild, hc⟩
        exact ⟨child, node?_addDetached_of_node? hchild, hc⟩
      · rintro ⟨child, hchild, hc⟩
        rcases node?_addDetached_cases hchild with ⟨_, rfl⟩ | hold'
        · cases hc
        · exact ⟨child, hold', hc⟩
  ascending {place n} hn := by
    rcases node?_addDetached_cases hn with ⟨_, rfl⟩ | hold
    · exact List.Pairwise.nil
    · exact h.ascending hold
  terminal {place n} hn hk := by
    rcases node?_addDetached_cases hn with ⟨_, rfl⟩ | hold
    · rfl
    · exact h.terminal hold hk

/-- **Every tree that is made is linked.** -/
theorem Reachable.linked {t : Tree} (h : t.Reachable) : t.Linked := by
  induction h with
  | new uniqueName => exact linked_new uniqueName
  | addChild _ _ _ added ih =>
    obtain ⟨⟨above, ha, ht⟩, hr, rfl, _⟩ := addChild_eq_ok_iff.mp added
    exact ih.linkChild ha ht hr
  | addDetached node _ ih => exact ih.addDetached node

/-! ### A tree with a choice -/

/-- Interfaces with a name, and with a choice of a type that has a case. -/
def interfaces : Tree :=
  ⟨"test@x@1", #[
    { name := "root", kind := .root, children := #[1] },
    { name := "interfaces", kind := .container, parent := some 0, children := #[2, 3] },
    { name := "name", kind := .leaf, typeName := some "string", parent := some 1 },
    { name := "type", kind := .choice, parent := some 1, children := #[4] },
    { name := "ethernet", kind := .case, parent := some 3, children := #[5] },
    { name := "mtu", kind := .leaf, typeName := some "uint16", parent := some 4 }]⟩

theorem interfaces_reachable : interfaces.Reachable := by
  have made : (new "test@x@1").Reachable := .new _
  have made := made.addChild 0 { name := "interfaces", kind := .container } rfl
  have made := made.addChild 1 { name := "name", kind := .leaf, typeName := some "string" } rfl
  have made := made.addChild 1 { name := "type", kind := .choice } rfl
  have made := made.addChild 3 { name := "ethernet", kind := .case } rfl
  exact made.addChild 4 { name := "mtu", kind := .leaf, typeName := some "uint16" } rfl

end SchemaCatalog.Tree
