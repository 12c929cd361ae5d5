import SchemaCatalog.Proofs.DataPath
import SchemaCatalog.Proofs.Tree.Subtree

/-!
# Paths from ancestors

`t.Ancestry top place chain` says that `chain` are the nodes from a topmost one, `top`, down to the one at
`place`, each the parent of the next. On a linked tree every node has one such chain, and it has no more
nodes than the tree (`Linked.exists_ancestry`, `Ancestry.unique`, `Ancestry.length_le`).

`climb` goes along this chain. It takes one step for each of its nodes and no other one, so that it gets to
the path just when it has that many (`Ancestry.climb_eq`). `Reachable.pathOf_ancestry` tells what the path
is: the names on the chain with a slash between each two, the first one dropped below a topmost node that
is no root.
-/

namespace SchemaCatalog.Tree

/-- The nodes from a topmost node down to the one at a place. -/
inductive Ancestry (t : Tree) (top : Node) : Nat → List Node → Prop where
  | top {place : Nat} (found : t.node? place = some top) (parent : top.parent = none) :
      Ancestry t top place [top]
  | child {place above : Nat} {node : Node} {chain : List Node} (found : t.node? place = some node)
      (parent : node.parent = some above) (upper : Ancestry t top above chain) :
      Ancestry t top place (chain ++ [node])

/-- The names of the nodes on a chain that are neither wrappers nor roots. -/
def namesOf (chain : List Node) : List String :=
  (chain.filter fun n => n.kind ∉ [.choice, .case, .root]).map Node.name

/-- The names of a path, given those on the chain down to a node and the topmost node of it. -/
def namesBelow (top : Node) (names : List String) : List String :=
  if top.kind = .root then names else names.tail

variable {t : Tree} {top node : Node} {place : Nat} {chain : List Node}

theorem namesOf_append (chain more : List Node) :
    namesOf (chain ++ more) = namesOf chain ++ namesOf more := by
  rw [namesOf, List.filter_append, List.map_append, namesOf, namesOf]

theorem namesOf_root (h : node.kind = .root) : namesOf [node] = [] := by
  simp [namesOf, h]

/-- A node that is no root adds its name to a path, unless it is a wrapper. -/
theorem namesOf_singleton_append (h : node.kind ≠ .root) (below : List String) :
    namesOf [node] ++ below = if node.kind.isWrapper then below else node.name :: below := by
  cases hk : node.kind <;> simp_all [namesOf, Kind.isWrapper]

/-- The text of a path has a slash between each two names. -/
theorem join_eq_intercalate (names : List String) : DataPath.join names = ⟨"/".intercalate names⟩ := by
  have hjoin : ∀ pieces : List (List Char), Text.join '/' pieces = ['/'].intercalate pieces := by
    intro pieces
    induction pieces with
    | nil => rfl
    | cons piece rest ih =>
      cases rest with
      | nil => simp [Text.join]
      | cons next rest =>
        rw [Text.join_cons_cons, ih, List.intercalate_cons_cons, List.append_assoc,
          List.singleton_append]
  rw [DataPath.mk.injEq, ← String.toList_inj, DataPath.toList_join, String.toList_intercalate]
  exact hjoin _

/-! ### The chain of a node -/

theorem Ancestry.found (h : t.Ancestry top place chain) :
    ∃ node, t.node? place = some node := by
  cases h with
  | top found _ => exact ⟨_, found⟩
  | child found _ _ => exact ⟨_, found⟩

/-- A node has one chain only. -/
theorem Ancestry.unique (h : t.Ancestry top place chain) :
    ∀ {top' : Node} {chain' : List Node}, t.Ancestry top' place chain' →
      top' = top ∧ chain' = chain := by
  induction h with
  | top found parent =>
    intro top' chain' h'
    cases h' with
    | top found' _ =>
      obtain rfl := Option.some.inj (found.symm.trans found')
      exact ⟨rfl, rfl⟩
    | child found' parent' _ =>
      obtain rfl := Option.some.inj (found.symm.trans found')
      cases parent.symm.trans parent'
  | child found parent _ ih =>
    intro top' chain' h'
    cases h' with
    | top found' parent' =>
      obtain rfl := Option.some.inj (found.symm.trans found')
      cases parent.symm.trans parent'
    | child found' parent' upper' =>
      obtain rfl := Option.some.inj (found.symm.trans found')
      obtain rfl := Option.some.inj (parent.symm.trans parent')
      obtain ⟨rfl, rfl⟩ := ih upper'
      exact ⟨rfl, rfl⟩

/-- Every node of a linked tree has a chain: no parent is missing, and none comes up twice. -/
theorem Linked.exists_ancestry (h : t.Linked) (hn : t.node? place = some node) :
    ∃ top chain, t.Ancestry top place chain := by
  induction place, node, hn using h.induction_parent with
  | top place node hn hp => exact ⟨node, [node], .top hn hp⟩
  | child place node hn above upper _ hp _ ih =>
    obtain ⟨top, chain, hchain⟩ := ih
    exact ⟨top, chain ++ [node], .child hn hp hchain⟩

/-- A chain has no more nodes than there are up to its end. -/
theorem Ancestry.length_le (h : t.Linked) (hchain : t.Ancestry top place chain) :
    chain.length ≤ place + 1 := by
  induction hchain with
  | top _ _ => exact Nat.succ_le_succ (Nat.zero_le _)
  | child found parent _ ih =>
    have hlt := h.parent_lt found parent
    rw [List.length_append, List.length_singleton]
    omega

/-! ### Climbing the chain -/

/-- Climbing takes a step for each node of the chain, and gets to the path if it has that many. -/
theorem Ancestry.climb_eq (h : t.Linked) (start : String) (hchain : t.Ancestry top place chain) :
    ∀ (node : Node) (steps : Nat) (below : List String), t.node? place = some node →
      t.climb start steps node below =
        if chain.length ≤ steps then .ok (.join (namesBelow top (namesOf chain ++ below)))
        else .error (.parentCycle start) := by
  induction hchain with
  | top found parent =>
    intro node steps below hn
    obtain rfl := Option.some.inj (found.symm.trans hn)
    cases steps with
    | zero => rfl
    | succ steps =>
      rw [climb, List.length_singleton, if_pos (Nat.succ_le_succ (Nat.zero_le steps)), namesBelow]
      by_cases hroot : top.kind = .root
      · rw [if_pos hroot, if_pos hroot, namesOf_root hroot, List.nil_append]
      · rw [if_neg hroot, if_neg hroot, parent, namesOf_singleton_append hroot]
  | @child place above upper chain found parent hupper ih =>
    intro node steps below hn
    obtain rfl := Option.some.inj (found.symm.trans hn)
    obtain ⟨upper', hupper'⟩ := hupper.found
    -- A root has no parent, so that the way goes on.
    have hroot : upper.kind ≠ .root := by
      intro hroot
      rw [h.parent_root found hroot] at parent
      cases parent
    cases steps with
    | zero => rw [climb, List.length_append, List.length_singleton, if_neg (Nat.not_succ_le_zero _)]
    | succ steps =>
      rw [climb, if_neg hroot, parent]
      dsimp only
      rw [hupper']
      dsimp only
      rw [← namesOf_singleton_append hroot, ih upper' steps _ hupper', namesOf_append,
        List.append_assoc, List.length_append, List.length_singleton]
      simp only [Nat.succ_le_succ_iff]

/-- **The path of a node is that of its ancestors.** In every tree that is made, a node has one chain of
ancestors, no longer than the tree, and a path: the names on the chain, without wrappers and roots, joined
by slashes, where the first one is dropped if the topmost ancestor is no root. As many steps as there are
nodes on the chain lead to it, and fewer do not. -/
theorem Reachable.pathOf_ancestry (h : t.Reachable) (hn : t.node? place = some node) :
    ∃ top chain, t.Ancestry top place chain ∧
      (∀ top' chain', t.Ancestry top' place chain' → top' = top ∧ chain' = chain) ∧
      chain.length ≤ t.size ∧
      t.pathOf node = .ok ⟨"/".intercalate
        (if top.kind = .root then namesOf chain else (namesOf chain).tail)⟩ ∧
      ∀ steps, t.climb node.name steps node [] =
        if chain.length ≤ steps then t.pathOf node else .error (.parentCycle node.name) := by
  obtain ⟨top, chain, hchain⟩ := h.linked.exists_ancestry hn
  have hlength : chain.length ≤ t.size :=
    Nat.le_trans (hchain.length_le h.linked) (lt_size_of_node? hn)
  have hclimb := fun steps => hchain.climb_eq h.linked node.name node steps [] hn
  simp only [List.append_nil] at hclimb
  have hpath : t.pathOf node = .ok (.join (namesBelow top (namesOf chain))) := by
    rw [pathOf, hclimb, if_pos hlength]
  refine ⟨top, chain, hchain, fun _ _ => hchain.unique, hlength, ?_, ?_⟩
  · rw [hpath, join_eq_intercalate, namesBelow]
  · intro steps
    rw [hclimb, hpath]

/-- The leaf behind a choice has four ancestors, two of which name it. -/
theorem pathOf_ancestry_interfaces :
    let mtu : Node := { name := "mtu", kind := .leaf, typeName := some "uint16", parent := some 4 }
    interfaces.Reachable ∧ interfaces.node? 5 = some mtu ∧
      interfaces.pathOf mtu = .ok ⟨"interfaces/mtu"⟩ ∧
      ∀ steps, interfaces.climb "mtu" steps mtu [] =
        if 5 ≤ steps then .ok ⟨"interfaces/mtu"⟩ else .error (.parentCycle "mtu") := by
  intro mtu
  have hn : interfaces.node? 5 = some mtu := rfl
  have hchain : interfaces.Ancestry _ 5 _ :=
    .child hn rfl (.child rfl rfl (.child rfl rfl (.child rfl rfl (.top rfl rfl))))
  obtain ⟨top, chain, _, hunique, _, hpath, hclimb⟩ := interfaces_reachable.pathOf_ancestry hn
  obtain ⟨rfl, rfl⟩ := hunique _ _ hchain
  have hmtu : interfaces.pathOf mtu = .ok ⟨"interfaces/mtu"⟩ := hpath
  refine ⟨interfaces_reachable, hn, hmtu, ?_⟩
  intro steps
  rw [← hmtu]
  exact hclimb steps

end SchemaCatalog.Tree
