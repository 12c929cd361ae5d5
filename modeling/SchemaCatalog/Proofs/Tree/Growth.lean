import SchemaCatalog.Proofs.Tree.Linked

/-!
# How a tree grows

An `Addition` is an attempt to add a node, below another one or detached, whatever links the node has
from elsewhere. `attempt` makes one of them, and `grow` a list of them, failed ones included.

One attempt keeps a tree linked (`Linked.attempt`), so every tree that grows from a new one is
(`Linked.grow`). An attempt below a parent fails in three cases only (`addChild_eq_error_iff`); one that
succeeds `Extends` the tree by the new node and by its place among the children of the parent, and by
nothing else. `grow_new_linked` puts this together.
-/

namespace SchemaCatalog.Tree

/-- An attempt to add a node. -/
inductive Addition where
  | child (parent : Nat) (node : Node)
  | detached (node : Node)

/-- The tree after an attempt, with the place of the new node or the flaw. A failed attempt leaves the
tree as it is. -/
def attempt (t : Tree) : Addition → Tree × Except Flaw Nat
  | .child parent node =>
    match t.addChild parent node with
    | .ok (t', place) => (t', .ok place)
    | .error flaw => (t, .error flaw)
  | .detached node => ((t.addDetached node).1, .ok (t.addDetached node).2)

/-- The tree after one attempt after the other. -/
def grow (t : Tree) (additions : List Addition) : Tree :=
  additions.foldl (fun t addition => (t.attempt addition).1) t

/-- A tree with one node more, a child of the one at `parent`. All other nodes are as they were. -/
structure Extends (t : Tree) (parent : Nat) (node : Node) (t' : Tree) : Prop where
  uniqueName : t'.uniqueName = t.uniqueName
  size : t'.size = t.size + 1
  /-- The new node stands at the end, and has no links but the one to its parent. -/
  new : t'.node? t.size = some { node with parent := some parent, children := #[] }
  /-- The parent gains the new node as its last child. -/
  above : ∀ old, t.node? parent = some old →
    t'.node? parent = some { old with children := old.children.push t.size }
  others : ∀ place old, place ≠ parent → t.node? place = some old → t'.node? place = some old

variable {t : Tree} {parent : Nat} {node : Node}

/-! ### One attempt -/

/-- Adding a node below another one fails if that one is not there, or is a leaf or a leaf list, or if
the node is a root. -/
theorem addChild_eq_error_iff :
    (∃ flaw, t.addChild parent node = .error flaw) ↔
      t.node? parent = none ∨
        (∃ above, t.node? parent = some above ∧ (above.kind = .leaf ∨ above.kind = .leafList)) ∨
        node.kind = .root := by
  unfold addChild
  cases ha : t.node? parent with
  | none => simp
  | some above =>
    by_cases ht : above.kind.isTerminal = true
    · simp [ht, above.kind.isTerminal_iff.mp ht]
    · have hkind := mt above.kind.isTerminal_iff.mpr ht
      by_cases hr : node.kind = .root
      · simp [ht, hr]
      · simp [ht, hr, hkind]

/-- Adding a node below another one either gives the linked tree with the place of the node, or fails
and leaves the tree. -/
theorem attempt_child_cases (t : Tree) (parent : Nat) (node : Node) :
    (∃ above, t.node? parent = some above ∧ above.kind.isTerminal = false ∧ node.kind ≠ .root ∧
        t.attempt (.child parent node) = (t.linkChild parent node, .ok t.size)) ∨
      ∃ flaw, t.addChild parent node = .error flaw ∧
        t.attempt (.child parent node) = (t, .error flaw) := by
  cases h : t.addChild parent node with
  | error flaw => exact .inr ⟨flaw, rfl, by simp only [attempt, h]⟩
  | ok added =>
    obtain ⟨t', place⟩ := added
    obtain ⟨⟨above, ha, ht⟩, hr, rfl, rfl⟩ := addChild_eq_ok_iff.mp h
    exact .inl ⟨above, ha, ht, hr, by simp only [attempt, h]⟩

theorem extends_linkChild (t : Tree) (parent : Nat) (node : Node) :
    t.Extends parent node (t.linkChild parent node) where
  uniqueName := rfl
  size := size_linkChild t parent node
  new := by rw [node?_linkChild, if_pos rfl]
  above old hold := by rw [node?_linkChild_of_node? hold, if_pos rfl]
  others place old hne hold := by rw [node?_linkChild_of_node? hold, if_neg (Ne.symm hne)]

/-- An attempt keeps a tree linked. -/
theorem Linked.attempt (h : t.Linked) (addition : Addition) : (t.attempt addition).1.Linked := by
  cases addition with
  | child parent node =>
    rcases t.attempt_child_cases parent node with ⟨above, ha, ht, hr, heq⟩ | ⟨flaw, _, heq⟩
    · rw [heq]
      exact h.linkChild ha ht hr
    · rw [heq]
      exact h
  | detached node => exact h.addDetached node

/-! ### Any number of attempts -/

/-- Attempts keep a tree linked. -/
theorem Linked.grow (additions : List Addition) : ∀ {t : Tree}, t.Linked → (t.grow additions).Linked := by
  induction additions with
  | nil =>
    intro t h
    exact h
  | cons addition rest ih =>
    intro t h
    exact ih (h.attempt addition)

/-- **A tree is linked however it has grown**: it starts with a root, its nodes stand behind their
parents, and its children and parents agree. The next attempt below a parent fails if the parent is
missing or terminal or the node is a root, and then changes nothing; otherwise it extends the tree by the
node alone. -/
theorem grow_new_linked (uniqueName : String) (additions : List Addition) :
    let t := (new uniqueName).grow additions
    t.Linked ∧
      (∀ place node above, t.node? place = some node → node.parent = some above →
        ∃ upper, t.node? above = some upper) ∧
      ∀ parent node,
        ((∃ flaw, (t.attempt (.child parent node)).2 = .error flaw) ↔
          t.node? parent = none ∨
            (∃ above, t.node? parent = some above ∧ (above.kind = .leaf ∨ above.kind = .leafList)) ∨
            node.kind = .root) ∧
        (∀ flaw, (t.attempt (.child parent node)).2 = .error flaw →
          (t.attempt (.child parent node)).1 = t) ∧
        ∀ place, (t.attempt (.child parent node)).2 = .ok place →
          place = t.size ∧ t.Extends parent node (t.attempt (.child parent node)).1 := by
  intro t
  have h : t.Linked := (linked_new uniqueName).grow additions
  refine ⟨h, ?_, ?_⟩
  · intro place node above hn hp
    exact exists_node?_of_lt (Nat.lt_trans (h.parent_lt hn hp) (lt_size_of_node? hn))
  · intro parent node
    rw [← addChild_eq_error_iff]
    rcases t.attempt_child_cases parent node with ⟨above, ha, ht, hr, heq⟩ | ⟨flaw, hflaw, heq⟩
    · have hok := addChild_eq_ok_iff.mpr ⟨⟨above, ha, ht⟩, hr, rfl, rfl⟩
      rw [heq, hok]
      refine ⟨by simp, by simp, ?_⟩
      intro place hplace
      exact ⟨(Except.ok.inj hplace).symm, t.extends_linkChild parent node⟩
    · rw [heq, hflaw]
      simp

end SchemaCatalog.Tree
