import SchemaCatalog.Proofs.Tree.Growth
import SchemaCatalog.Proofs.Tree.Subtree

/-!
# The roots of a tree

A new tree has one root. `addChild` refuses a second one; `addDetached` does not ask for the kind, so the
detached nodes of kind root are further roots, and nothing else is (`isRoot_attempt_iff` for one attempt,
`isRoot_grow_iff` for all of them).

The way up from a node ends at the only node above it without a parent. Whether that one is a root decides
if the path has all the names passed, or all but the first (`Linked.dataPath_of_within`).
`isRoot_grow_new` puts this together; `isRoot_second` is a tree with two roots.
-/

namespace SchemaCatalog.Tree

/-- A root stands at a place. -/
def IsRoot (t : Tree) (place : Nat) : Prop := ∃ node, t.node? place = some node ∧ node.kind = .root

/-- One of the attempts adds a detached root, which comes to stand at a place. -/
def AddsRoot (t : Tree) (additions : List Addition) (place : Nat) : Prop :=
  ∃ before node after, additions = before ++ .detached node :: after ∧ node.kind = .root ∧
    place = (t.grow before).size

variable {t : Tree} {place : Nat}

/-! ### Which nodes are roots -/

theorem isRoot_new_iff {uniqueName : String} : (new uniqueName).IsRoot place ↔ place = root := by
  constructor
  · rintro ⟨node, hn, _⟩
    exact Nat.lt_one_iff.mp (lt_size_of_node? hn)
  · rintro rfl
    exact ⟨_, rfl, rfl⟩

/-- A node that is no root leaves the roots as they are when it is added below another one. -/
theorem isRoot_linkChild_iff {parent : Nat} {node : Node} (hkind : node.kind ≠ .root) :
    (t.linkChild parent node).IsRoot place ↔ t.IsRoot place := by
  constructor
  · rintro ⟨n, hn, hroot⟩
    rcases node?_linkChild_cases hn with ⟨_, rfl⟩ | ⟨old, hold, rfl⟩
    · exact absurd hroot hkind
    · exact ⟨old, hold, hroot⟩
  · rintro ⟨old, hold, hroot⟩
    exact ⟨_, node?_linkChild_of_node? hold, hroot⟩

theorem isRoot_addDetached_iff {node : Node} :
    (t.addDetached node).1.IsRoot place ↔ t.IsRoot place ∨ (place = t.size ∧ node.kind = .root) := by
  constructor
  · rintro ⟨n, hn, hroot⟩
    rcases node?_addDetached_cases hn with ⟨hplace, rfl⟩ | hold
    · exact .inr ⟨hplace, hroot⟩
    · exact .inl ⟨n, hold, hroot⟩
  · rintro (⟨old, hold, hroot⟩ | ⟨rfl, hroot⟩)
    · exact ⟨old, node?_addDetached_of_node? hold, hroot⟩
    · exact ⟨{ node with parent := none, children := #[] }, by rw [node?_addDetached, if_pos rfl],
        hroot⟩

/-- **An attempt makes no root but a detached one.** -/
theorem isRoot_attempt_iff (addition : Addition) :
    (t.attempt addition).1.IsRoot place ↔
      t.IsRoot place ∨ (place = t.size ∧ ∃ node, addition = .detached node ∧ node.kind = .root) := by
  cases addition with
  | child parent node =>
    rcases t.attempt_child_cases parent node with ⟨_, _, _, hkind, heq⟩ | ⟨flaw, _, heq⟩
    · rw [heq, isRoot_linkChild_iff hkind]
      simp
    · rw [heq]
      simp
  | detached node =>
    simp only [attempt, isRoot_addDetached_iff, Addition.detached.injEq, exists_eq_left']

/-- The first attempt adds a root, or one of the others does. -/
theorem addsRoot_cons_iff {addition : Addition} {rest : List Addition} :
    t.AddsRoot (addition :: rest) place ↔
      (place = t.size ∧ ∃ node, addition = .detached node ∧ node.kind = .root) ∨
        (t.attempt addition).1.AddsRoot rest place := by
  constructor
  · rintro ⟨before, node, after, hsplit, hkind, hplace⟩
    rcases before with _ | ⟨first, before⟩
    · obtain ⟨rfl, rfl⟩ := List.cons.inj hsplit
      exact .inl ⟨hplace, node, rfl, hkind⟩
    · obtain ⟨rfl, rfl⟩ := List.cons.inj hsplit
      exact .inr ⟨before, node, after, rfl, hkind, hplace⟩
  · rintro (⟨hplace, node, rfl, hkind⟩ | ⟨before, node, after, rfl, hkind, hplace⟩)
    · exact ⟨[], node, rest, rfl, hkind, hplace⟩
    · exact ⟨addition :: before, node, after, rfl, hkind, hplace⟩

/-- Attempts make no roots but the detached ones. -/
theorem isRoot_grow_iff (additions : List Addition) :
    ∀ t : Tree, (t.grow additions).IsRoot place ↔ t.IsRoot place ∨ t.AddsRoot additions place := by
  induction additions with
  | nil =>
    intro t
    simp [grow, AddsRoot]
  | cons addition rest ih =>
    intro t
    show ((t.attempt addition).1.grow rest).IsRoot place ↔ _
    rw [ih, isRoot_attempt_iff, addsRoot_cons_iff, or_assoc]

/-! ### Where a path ends -/

/-- All nodes of the subtree of a topmost node have that one as their topmost ancestor. -/
theorem Linked.isRooted_of_within (h : t.Linked) {top : Nat} {node : Node} (hn : t.node? top = some node)
    (hp : node.parent = none) (hin : t.Within top place) :
    t.isRooted place = decide (node.kind = .root) := by
  induction hin with
  | top => exact isRooted_of_top hn hp
  | @child above place upper _ found mem ih =>
    obtain ⟨inner, hinner, hparent⟩ := (h.mem_children found place).mp mem
    rw [isRooted_of_parent hinner hparent (h.parent_lt hinner hparent), ih]

/-- **The topmost node decides how a path ends**: below a root it has all the names on the way, below
another node all but the first. -/
theorem Linked.pathOf_of_within (h : t.Linked) {top : Nat} {node inner : Node}
    (hn : t.node? top = some node) (hp : node.parent = none) (hinner : t.node? place = some inner)
    (hin : t.Within top place) :
    t.pathOf inner =
      .ok (.join (if node.kind = .root then t.segments place else (t.segments place).tail)) := by
  rw [h.pathOf_eq hinner, dataPath, h.isRooted_of_within hn hp hin, joinBelow]
  simp only [decide_eq_true_eq]

/-! ### Both together -/

/-- The root is the only one as long as no detached root is added. -/
theorem forall_isRoot_grow_new_iff (uniqueName : String) (additions : List Addition) :
    (∀ place, ((new uniqueName).grow additions).IsRoot place → place = root) ↔
      ∀ node, .detached node ∈ additions → node.kind ≠ .root := by
  simp only [isRoot_grow_iff, isRoot_new_iff]
  constructor
  · intro honly node hmem hkind
    obtain ⟨before, after, hsplit⟩ := List.append_of_mem hmem
    have hzero := honly _ (.inr ⟨before, node, after, hsplit, hkind, rfl⟩)
    -- Its place is the size that the tree had, and no tree is without a first node.
    obtain ⟨first, hfirst, _⟩ := ((linked_new uniqueName).grow before).root_first
    exact absurd (hzero ▸ lt_size_of_node? hfirst) (Nat.lt_irrefl _)
  · rintro hnone place (hroot | ⟨before, node, after, rfl, hkind, _⟩)
    · exact hroot
    · exact absurd hkind (hnone node (by simp))

/-- **The roots of a tree that has grown from a new one** are the first node and the detached nodes of
kind root; so the first one is the only root if and only if no such node has been added. Every other node
without a parent ends the paths of its subtree as that of a module, without the first name; a further root
ends them like the first one. -/
theorem isRoot_grow_new (uniqueName : String) (additions : List Addition) :
    let t := (new uniqueName).grow additions
    (∀ place, t.IsRoot place ↔ place = root ∨ (new uniqueName).AddsRoot additions place) ∧
      ((∀ place, t.IsRoot place → place = root) ↔
        ∀ node, .detached node ∈ additions → node.kind ≠ .root) ∧
      ∀ top node, t.node? top = some node → node.parent = none →
        ∀ place inner, t.node? place = some inner → t.Within top place →
          (t.IsRoot top → t.pathOf inner = .ok (.join (t.segments place))) ∧
            (¬ t.IsRoot top → t.pathOf inner = .ok (.join (t.segments place).tail)) := by
  intro t
  have h : t.Linked := (linked_new uniqueName).grow additions
  refine ⟨?_, forall_isRoot_grow_new_iff uniqueName additions, ?_⟩
  · intro place
    rw [isRoot_grow_iff, isRoot_new_iff]
  · intro top node hn hp place inner hinner hin
    rw [h.pathOf_of_within hn hp hinner hin]
    constructor
    · rintro ⟨node', hn', hkind⟩
      obtain rfl := Option.some.inj (hn.symm.trans hn')
      rw [if_pos hkind]
    · intro hroot
      rw [if_neg fun hkind => hroot ⟨node, hn, hkind⟩]

/-- A second root, detached, stands behind the first one, where `addChild` refuses the same node. -/
theorem isRoot_second :
    let node : Node := { name := "module", kind := .root }
    ((new "test@x@1").attempt (.child root node)).2 = .error (.secondRoot "module") ∧
      ((new "test@x@1").grow [.detached node]).IsRoot 1 ∧
      ¬ ∀ place, ((new "test@x@1").grow [.detached node]).IsRoot place → place = root := by
  intro node
  have hroot : ((new "test@x@1").grow [.detached node]).IsRoot 1 := ⟨_, rfl, rfl⟩
  refine ⟨rfl, hroot, ?_⟩
  intro honly
  exact absurd (honly 1 hroot) (by decide)

end SchemaCatalog.Tree
