import SchemaCatalog.Proofs.Tree.Linked

/-!
# The path of a node and its ancestors

`lineage t place` lists the places from the topmost ancestor of a node down to the node, and
`segments t place` the names that the nodes among them give to a path. On a linked tree `pathOf`
always has an answer, the join of these names, without the first one if the topmost ancestor is no
root (`Linked.pathOf_eq`): the steps that `climb` is given are enough because a parent stands before
its children.
-/

namespace SchemaCatalog.Tree

/-- The places from the topmost ancestor of a node down to the node. -/
def lineage (t : Tree) (place : Nat) : List Nat :=
  match (t.node? place).bind Node.parent with
  | none => [place]
  | some above => if above < place then lineage t above ++ [place] else [place]
termination_by place

/-- The name that the node at a place gives to the paths through it: none if it is a wrapper or a
root. -/
def segment? (t : Tree) (place : Nat) : Option String :=
  match t.node? place with
  | none => none
  | some node => if node.kind.isWrapper || node.kind = .root then none else some node.name

/-- The names on the way from the topmost ancestor of a node down to the node. -/
def segments (t : Tree) (place : Nat) : List String := (t.lineage place).filterMap t.segment?

/-- Whether the topmost ancestor of a node is a root. -/
def isRooted (t : Tree) (place : Nat) : Bool :=
  ((t.lineage place).head?.bind t.node?).any fun node => node.kind = .root

/-- The path that names give under a topmost ancestor: all of them below a root, all but the first
one below another node. -/
def joinBelow (rooted : Bool) (names : List String) : DataPath :=
  .join (if rooted then names else names.tail)

/-- The path of the node at a place. -/
def dataPath (t : Tree) (place : Nat) : DataPath := joinBelow (t.isRooted place) (t.segments place)

/-! ### One step of a lineage -/

theorem lineage_of_top {t : Tree} {place : Nat} {node : Node} (h : t.node? place = some node)
    (hp : node.parent = none) : t.lineage place = [place] := by
  rw [lineage, h, Option.bind_some, hp]

theorem lineage_of_parent {t : Tree} {place above : Nat} {node : Node}
    (h : t.node? place = some node) (hp : node.parent = some above) (hlt : above < place) :
    t.lineage place = t.lineage above ++ [place] := by
  rw [lineage, h, Option.bind_some, hp]
  exact if_pos hlt

theorem lineage_ne_nil (t : Tree) (place : Nat) : t.lineage place ≠ [] := by
  rw [lineage]
  split
  · exact List.cons_ne_nil _ _
  · split <;> simp

theorem segments_of_top {t : Tree} {place : Nat} {node : Node} (h : t.node? place = some node)
    (hp : node.parent = none) : t.segments place = (t.segment? place).toList := by
  rw [segments, lineage_of_top h hp, List.filterMap_cons]
  cases t.segment? place <;> rfl

theorem segments_of_parent {t : Tree} {place above : Nat} {node : Node}
    (h : t.node? place = some node) (hp : node.parent = some above) (hlt : above < place) :
    t.segments place = t.segments above ++ (t.segment? place).toList := by
  rw [segments, lineage_of_parent h hp hlt, List.filterMap_append, ← segments, List.filterMap_cons]
  cases t.segment? place <;> rfl

theorem isRooted_of_top {t : Tree} {place : Nat} {node : Node} (h : t.node? place = some node)
    (hp : node.parent = none) : t.isRooted place = decide (node.kind = .root) := by
  rw [isRooted, lineage_of_top h hp, List.head?_cons, Option.bind_some, h, Option.any_some]

theorem isRooted_of_parent {t : Tree} {place above : Nat} {node : Node}
    (h : t.node? place = some node) (hp : node.parent = some above) (hlt : above < place) :
    t.isRooted place = t.isRooted above := by
  obtain ⟨top, rest, htop⟩ := List.exists_cons_of_ne_nil (t.lineage_ne_nil above)
  rw [isRooted, isRooted, lineage_of_parent h hp hlt, htop]
  rfl

/-! ### Climbing -/

/-- Climbing from a node puts the names of its lineage before those gathered below. -/
theorem Linked.climb_eq {t : Tree} (h : t.Linked) (start : String) :
    ∀ (steps place : Nat) (node : Node) (below : List String), t.node? place = some node →
      place < steps →
      t.climb start steps node below =
        .ok (joinBelow (t.isRooted place) (t.segments place ++ below)) := by
  intro steps
  -- A parent stands before its children, so that more steps than the place are enough.
  induction steps with
  | zero =>
    intro place node below _ hlt
    omega
  | succ steps ih =>
    intro place node below hn hlt
    by_cases hroot : node.kind = .root
    · -- A root is the end of the way, and gives no name.
      have hp := h.parent_root hn hroot
      have hseg : t.segment? place = none := by simp [segment?, hn, hroot]
      rw [isRooted_of_top hn hp, segments_of_top hn hp, hseg, climb, if_pos hroot]
      simp [joinBelow, hroot]
    · have hseg : (if node.kind.isWrapper then below else node.name :: below) =
          (t.segment? place).toList ++ below := by
        cases hw : node.kind.isWrapper <;> simp [segment?, hn, hroot, hw]
      cases hp : node.parent with
      | none =>
        rw [isRooted_of_top hn hp, segments_of_top hn hp, climb, if_neg hroot, hp]
        simp [joinBelow, hroot, hseg]
      | some above =>
        have habove := h.parent_lt hn hp
        obtain ⟨upper, hupper⟩ :=
          exists_node?_of_lt (Nat.lt_trans habove (lt_size_of_node? hn))
        rw [isRooted_of_parent hn hp habove, segments_of_parent hn hp habove, climb, if_neg hroot, hp]
        simp only [hseg]
        rw [hupper]
        dsimp only
        rw [ih above upper _ hupper (by omega), List.append_assoc]

/-- **Every node of a linked tree has a path**, the one that its ancestors give it. -/
theorem Linked.pathOf_eq {t : Tree} (h : t.Linked) {place : Nat} {node : Node}
    (hn : t.node? place = some node) : t.pathOf node = .ok (t.dataPath place) := by
  rw [pathOf, h.climb_eq node.name t.size place node [] hn (lt_size_of_node? hn), List.append_nil,
    dataPath]

end SchemaCatalog.Tree
