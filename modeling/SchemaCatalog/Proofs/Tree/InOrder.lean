import SchemaCatalog.Proofs.Tree.Visible

/-!
# Listing in order, and coming to an end

The names below a node are listed by a loop. Each `round` takes the first pending place off: a wrapper puts its
children there instead, so that what is pending can grow, and any other node is listed. A round takes off one
of the places that all pending ones stand for (`Linked.left_of_round`), and these are no more than the tree has
nodes; so nothing is pending after that many rounds (`Linked.pending_rounds`).

An expansion of nodes is `InOrder` if it goes through the children of a node one after the other and lists the
name of each, or what a wrapper expands to. On a tree that is made, there is one such expansion, and it is what
the loop lists (`Reachable.visible_inOrder`).
-/

namespace SchemaCatalog.Tree

/-- How far a listing has come: the names listed, and the places pending, the next one first. -/
structure Listing where
  listed : List String
  pending : List Nat
deriving DecidableEq

/-- What a child of a node expands to: its name, or, if it is a wrapper, what `inside` expands it to. -/
def expandChild (t : Tree) (inside : Node → List String) (child : Nat) : List String :=
  match t.node? child with
  | none => []
  | some node => if node.kind.isWrapper then inside node else [node.name]

/-- An expansion of the nodes of a tree that goes child by child. -/
def InOrder (t : Tree) (expansion : Node → List String) : Prop :=
  ∀ place node, t.node? place = some node →
    expansion node = node.children.toList.flatMap (t.expandChild expansion)

namespace Listing

/-- Takes one place off. There is no round if nothing is pending. -/
def round (t : Tree) (l : Listing) : Option Listing :=
  match l.pending with
  | [] => none
  | place :: pending =>
    match t.node? place with
    | none => some ⟨l.listed, pending⟩
    | some node =>
      if node.kind.isWrapper then some ⟨l.listed, node.children.toList ++ pending⟩
      else some ⟨l.listed ++ [node.name], pending⟩

/-- As many rounds as there can be, up to a number of them. -/
def rounds (t : Tree) : Nat → Listing → Listing
  | 0, l => l
  | count + 1, l =>
    match l.round t with
    | none => l
    | some next => rounds t count next

/-- The listing before the first round. -/
def start (node : Node) : Listing := ⟨[], node.children.toList⟩

/-- How many places the pending ones stand for. -/
def left (t : Tree) (l : Listing) : Nat := (l.pending.flatMap t.unwrapped).length

theorem round_eq_none_iff {t : Tree} {l : Listing} : l.round t = none ↔ l.pending = [] := by
  obtain ⟨listed, pending⟩ := l
  cases pending with
  | nil => simp [round]
  | cons place pending =>
    rw [round]
    dsimp only
    split
    · simp
    · split_ifs <;> simp

/-- What a round does, by what stands at the first place. -/
inductive Round (t : Tree) : Listing → Listing → Prop where
  | missing {listed : List String} {place : Nat} {pending : List Nat} (absent : t.node? place = none) :
      Round t ⟨listed, place :: pending⟩ ⟨listed, pending⟩
  | wrapper {listed : List String} {place : Nat} {pending : List Nat} {node : Node}
      (found : t.node? place = some node) (isWrapper : node.kind.isWrapper = true) :
      Round t ⟨listed, place :: pending⟩ ⟨listed, node.children.toList ++ pending⟩
  | plain {listed : List String} {place : Nat} {pending : List Nat} {node : Node}
      (found : t.node? place = some node) (isPlain : node.kind.isWrapper = false) :
      Round t ⟨listed, place :: pending⟩ ⟨listed ++ [node.name], pending⟩

theorem round_of_eq_some {t : Tree} {l next : Listing} (h : l.round t = some next) :
    Round t l next := by
  obtain ⟨listed, pending⟩ := l
  cases pending with
  | nil => cases h
  | cons place pending =>
    rw [round] at h
    dsimp only at h
    cases hn : t.node? place with
    | none =>
      simp only [hn] at h
      cases h
      exact .missing hn
    | some node =>
      simp only [hn] at h
      split_ifs at h with hw
      · cases h
        exact .wrapper hn hw
      · cases h
        exact .plain hn (Bool.eq_false_iff.mpr hw)

end Listing

variable {t : Tree} {place : Nat} {node : Node} {l next : Listing}

/-! ### The loop -/

theorem names_cons_of_node? (hn : t.node? place = some node) (places : List Nat) :
    t.names (place :: places) = node.name :: t.names places := by
  rw [names, List.filterMap_cons, hn]
  rfl

/-- What is listed after a round and one step less is what is listed before it. -/
theorem names_expand_of_round (hround : Listing.Round t l next) (count : Nat) :
    next.listed ++ t.names (t.expand count next.pending) =
      l.listed ++ t.names (t.expand (count + 1) l.pending) := by
  cases hround with
  | missing absent => simp only [expand, absent]
  | wrapper found isWrapper => simp only [expand, found, isWrapper, if_true]
  | plain found isPlain =>
    simp only [expand, found, isPlain, Bool.false_eq_true, if_false]
    rw [names_cons_of_node? found, List.append_assoc, List.singleton_append]

/-- The rounds list the names of the places that `expand` gives. -/
theorem listed_rounds (t : Tree) (count : Nat) (l : Listing) :
    (l.rounds t count).listed = l.listed ++ t.names (t.expand count l.pending) := by
  induction count generalizing l with
  | zero => exact (List.append_nil _).symm
  | succ count ih =>
    rw [Listing.rounds]
    cases hround : l.round t with
    | none =>
      rw [Listing.round_eq_none_iff.mp hround]
      exact (List.append_nil _).symm
    | some next => exact (ih next).trans (names_expand_of_round (Listing.round_of_eq_some hround) count)

/-- One round takes off one of the places that the pending ones stand for. -/
theorem Linked.left_of_round (h : t.Linked) (hround : Listing.Round t l next) :
    l.left t = next.left t + 1 := by
  cases hround with
  | missing absent => simp [Listing.left, unwrapped_of_missing absent]
  | wrapper found isWrapper => simp [Listing.left, h.unwrapped_of_wrapper found isWrapper]
  | plain found isPlain => simp [Listing.left, unwrapped_of_plain found isPlain]

/-- Nothing is pending after as many rounds as there are places to take off. -/
theorem Linked.pending_rounds (h : t.Linked) {count : Nat} (hcount : l.left t ≤ count) :
    (l.rounds t count).pending = [] := by
  induction count generalizing l with
  | zero =>
    -- A further round would take a place off, and none is left.
    rw [Listing.rounds, ← Listing.round_eq_none_iff (t := t)]
    cases hround : l.round t with
    | none => rfl
    | some next =>
      have := h.left_of_round (Listing.round_of_eq_some hround)
      omega
  | succ count ih =>
    rw [Listing.rounds]
    cases hround : l.round t with
    | none => exact Listing.round_eq_none_iff.mp hround
    | some next =>
      have := h.left_of_round (Listing.round_of_eq_some hround)
      exact ih (by omega)

/-- **The loop comes to an end** with the names that it lists, after no more rounds than there are nodes. -/
theorem Linked.rounds_start (h : t.Linked) (hn : t.node? place = some node) :
    (Listing.start node).rounds t t.size = ⟨t.names (t.visible node), []⟩ := by
  have hlisted := listed_rounds t t.size (.start node)
  have hpending := h.pending_rounds (l := .start node) (h.length_flatMap_unwrapped_le hn)
  cases hend : (Listing.start node).rounds t t.size
  rw [hend] at hlisted hpending
  rw [Listing.mk.injEq]
  exact ⟨hlisted, hpending⟩

/-! ### Going child by child -/

/-- What is listed below a node goes child by child. -/
theorem Linked.inOrder_visible (h : t.Linked) : t.InOrder fun node => t.names (t.visible node) := by
  intro place node hn
  dsimp only
  rw [h.visible_eq hn, List.filter_flatMap, names, List.filterMap_flatMap]
  refine List.flatMap_congr ?_
  intro child hmem
  obtain ⟨inner, hc, _⟩ := (h.mem_children hn child).mp (Array.mem_toList_iff.mp hmem)
  rw [expandChild, hc]
  dsimp only
  cases hw : inner.kind.isWrapper with
  | true =>
    rw [h.unwrapped_of_wrapper hc hw, List.filter_cons_of_neg (by rw [isPlain_of_node? hc, hw]; decide),
      ← h.visible_eq hc]
    rfl
  | false =>
    rw [unwrapped_of_plain hc hw, List.filter_cons_of_pos (by rw [isPlain_of_node? hc, hw]; rfl)]
    exact names_cons_of_node? hc []

/-- There is only one expansion that goes child by child. -/
theorem Linked.inOrder_unique (h : t.Linked) {e₁ e₂ : Node → List String} (h₁ : t.InOrder e₁)
    (h₂ : t.InOrder e₂) (hn : t.node? place = some node) : e₁ node = e₂ node := by
  -- Children stand behind their node, so what is inside a wrapper may be taken as settled.
  induction place, node, hn using h.induction_children with
  | step place node hn ih =>
    rw [h₁ place node hn, h₂ place node hn]
    refine List.flatMap_congr ?_
    intro child hmem
    have hmem := Array.mem_toList_iff.mp hmem
    obtain ⟨inner, hc, _⟩ := (h.mem_children hn child).mp hmem
    rw [expandChild, expandChild, hc]
    dsimp only
    rw [ih child inner hc hmem]

/-- **The names below a node are listed child by child**, in the order of the children: the name of each child,
or what is listed below it if it is a wrapper. On a tree that is made, this tells what is listed below every
node, and the loop that lists it comes to an end there, after no more rounds than the tree has nodes. -/
theorem Reachable.visible_inOrder (made : t.Reachable) :
    (t.InOrder fun node => t.names (t.visible node)) ∧
      (∀ expansion, t.InOrder expansion → ∀ place node, t.node? place = some node →
        t.names (t.visible node) = expansion node) ∧
      ∀ place node, t.node? place = some node →
        (Listing.start node).rounds t t.size = ⟨t.names (t.visible node), []⟩ := by
  have h := made.linked
  refine ⟨h.inOrder_visible, ?_, fun place node hn => h.rounds_start hn⟩
  intro expansion hexpansion place node hn
  exact h.inOrder_unique h.inOrder_visible hexpansion hn

/-- Below the container of the interfaces, the leaf comes first, and then the one in the case of the choice. -/
theorem visible_inOrder_interfaces :
    interfaces.Reachable ∧ ∃ node, interfaces.node? 1 = some node ∧
      interfaces.names (interfaces.visible node) = ["name", "mtu"] ∧
      (Listing.start node).rounds interfaces 6 = ⟨["name", "mtu"], []⟩ := by
  have hn : interfaces.node? 1 = some
      { name := "interfaces", kind := .container, parent := some 0, children := #[2, 3] } := rfl
  have hlisted : interfaces.names (interfaces.visible
      { name := "interfaces", kind := .container, parent := some 0, children := #[2, 3] }) =
      ["name", "mtu"] := by decide
  have hend := interfaces_reachable.visible_inOrder.2.2 1 _ hn
  rw [hlisted] at hend
  exact ⟨interfaces_reachable, _, hn, hlisted, hend⟩

end SchemaCatalog.Tree
