import SchemaCatalog.Proofs.Tree.Below
import Mathlib.Data.List.Nodup
import Mathlib.Data.List.Perm.Subperm

/-!
# Listing the nodes that data shows below another one

`visible` works off a list of places. What it takes off for one place is `unwrapped`, the place itself and, if
it is a wrapper, all that its children stand for. No place is taken off twice, so that there are as many steps
as it needs (`Linked.visible_eq`). It lists each of the nodes that data shows below a node
(`Linked.mem_visible_iff`), and lists it once (`Linked.nodup_visible`).
-/

namespace SchemaCatalog.Tree

/-- The places that are taken off for one place when wrappers are replaced by what they hold: the place itself,
and, if it is a wrapper, those for each of its children. -/
def unwrapped (t : Tree) (place : Nat) : List Nat :=
  match _hn : t.node? place with
  | none => [place]
  | some node =>
    if node.kind.isWrapper then
      -- The test makes this end on every tree; on a linked one it leaves out nothing.
      place :: node.children.toList.flatMap fun child =>
        if place < child then unwrapped t child else []
    else [place]
termination_by t.size - place
decreasing_by
  have := lt_size_of_node? _hn
  omega

variable {t : Tree} {above place : Nat} {node upper : Node}

/-! ### What is taken off -/

theorem unwrapped_of_missing (hn : t.node? place = none) : t.unwrapped place = [place] := by
  rw [unwrapped]
  split <;> simp_all

theorem unwrapped_of_plain (hn : t.node? place = some node) (hplain : node.kind.isWrapper = false) :
    t.unwrapped place = [place] := by
  rw [unwrapped]
  split <;> simp_all

theorem Linked.unwrapped_of_wrapper (h : t.Linked) (hn : t.node? place = some node)
    (hw : node.kind.isWrapper = true) :
    t.unwrapped place = place :: node.children.toList.flatMap t.unwrapped := by
  rw [unwrapped]
  split
  · simp_all
  · rename_i node' hn'
    obtain rfl := Option.some.inj (hn.symm.trans hn')
    rw [if_pos hw, List.cons.injEq]
    refine ⟨rfl, List.flatMap_congr ?_⟩
    intro child hmem
    obtain ⟨inner, hc, hp⟩ := (h.mem_children hn child).mp (Array.mem_toList_iff.mp hmem)
    rw [if_pos (h.parent_lt hc hp)]

/-- What is taken off for a place is the place and, if it is a wrapper, what is reached from there. -/
theorem Linked.mem_unwrapped_iff (h : t.Linked) (hn : t.node? place = some node) {inner : Nat} :
    inner ∈ t.unwrapped place ↔
      inner = place ∨ node.kind.isWrapper = true ∧ t.Through place inner := by
  induction place, node, hn using h.induction_children with
  | step place node hn ih =>
    cases hw : node.kind.isWrapper with
    | false =>
      rw [unwrapped_of_plain hn hw]
      simp
    | true =>
      rw [h.unwrapped_of_wrapper hn hw, List.mem_cons, List.mem_flatMap,
        h.through_iff_exists_child hn]
      simp only [true_and]
      refine or_congr_right ?_
      constructor
      · rintro ⟨child, hmem, hinner⟩
        have hmem := Array.mem_toList_iff.mp hmem
        obtain ⟨node', hc, _⟩ := (h.mem_children hn child).mp hmem
        exact ⟨child, node', hmem, hc, (ih child node' hc hmem).mp hinner⟩
      · rintro ⟨child, node', hmem, hc, hinner⟩
        exact ⟨child, Array.mem_toList_iff.mpr hmem, (ih child node' hc hmem).mpr hinner⟩

/-- What is taken off for the children of a node is what is reached from there. -/
theorem Linked.mem_flatMap_unwrapped_iff (h : t.Linked) (hupper : t.node? above = some upper) :
    place ∈ upper.children.toList.flatMap t.unwrapped ↔ t.Through above place := by
  rw [List.mem_flatMap, h.through_iff_exists_child hupper]
  constructor
  · rintro ⟨child, hmem, hplace⟩
    have hmem := Array.mem_toList_iff.mp hmem
    obtain ⟨inner, hc, _⟩ := (h.mem_children hupper child).mp hmem
    exact ⟨child, inner, hmem, hc, (h.mem_unwrapped_iff hc).mp hplace⟩
  · rintro ⟨child, inner, hmem, hc, hplace⟩
    exact ⟨child, Array.mem_toList_iff.mpr hmem, (h.mem_unwrapped_iff hc).mpr hplace⟩

/-- A place that is taken off for another one has it in its lineage. -/
theorem Linked.mem_lineage_of_mem_unwrapped (h : t.Linked) (hn : t.node? place = some node)
    {inner : Nat} (hmem : inner ∈ t.unwrapped place) :
    ∃ node', t.node? inner = some node' ∧ place ∈ t.lineage inner := by
  rcases (h.mem_unwrapped_iff hn).mp hmem with rfl | ⟨_, hthrough⟩
  · exact ⟨node, hn, t.mem_lineage_self inner⟩
  · obtain ⟨node', _, hn', _⟩ := h.exists_of_through hthrough
    exact ⟨node', hn', (h.within_iff hn').mp hthrough.within⟩

/-- No place is taken off twice for the children of a node if none is for one child. -/
theorem Linked.nodup_flatMap_of_children (h : t.Linked) (hupper : t.node? above = some upper)
    (hchildren : ∀ child ∈ upper.children, (t.unwrapped child).Nodup) :
    (upper.children.toList.flatMap t.unwrapped).Nodup := by
  rw [List.nodup_flatMap]
  refine ⟨fun child hmem => hchildren child (Array.mem_toList_iff.mp hmem), ?_⟩
  refine (h.ascending hupper).imp_of_mem ?_
  intro a b ha hb hlt inner hina hinb
  rw [Array.mem_toList_iff] at ha hb
  obtain ⟨m, hm, _⟩ := (h.mem_children hupper a).mp ha
  obtain ⟨n, hn, _⟩ := (h.mem_children hupper b).mp hb
  -- Such a place would have both children in its lineage.
  obtain ⟨node, hnode, hmem⟩ := h.mem_lineage_of_mem_unwrapped hm hina
  obtain ⟨_, _, hmem'⟩ := h.mem_lineage_of_mem_unwrapped hn hinb
  exact h.siblings_disjoint hupper ha hb (Nat.ne_of_lt hlt) hnode hmem hmem'

theorem Linked.nodup_unwrapped (h : t.Linked) (hn : t.node? place = some node) :
    (t.unwrapped place).Nodup := by
  induction place, node, hn using h.induction_children with
  | step place node hn ih =>
    cases hw : node.kind.isWrapper with
    | false =>
      rw [unwrapped_of_plain hn hw]
      exact List.nodup_singleton place
    | true =>
      rw [h.unwrapped_of_wrapper hn hw, List.nodup_cons, h.mem_flatMap_unwrapped_iff hn]
      refine ⟨?_, h.nodup_flatMap_of_children hn ?_⟩
      · intro hthrough
        obtain ⟨_, _, _, _, hlt⟩ := h.exists_of_through hthrough
        exact Nat.lt_irrefl place hlt
      · intro child hmem
        obtain ⟨inner, hc, _⟩ := (h.mem_children hn child).mp hmem
        exact ih child inner hc hmem

/-- No place is taken off twice for the children of a node. -/
theorem Linked.nodup_flatMap_unwrapped (h : t.Linked) (hupper : t.node? above = some upper) :
    (upper.children.toList.flatMap t.unwrapped).Nodup := by
  refine h.nodup_flatMap_of_children hupper ?_
  intro child hmem
  obtain ⟨_, hc, _⟩ := (h.mem_children hupper child).mp hmem
  exact h.nodup_unwrapped hc

/-! ### Working off places -/

/-- With as many steps as places are taken off, those that are no wrappers are listed. -/
theorem Linked.expand_eq (h : t.Linked) : ∀ (steps : Nat) (pending : List Nat),
    (∀ place ∈ pending, ∃ node, t.node? place = some node) →
    (pending.flatMap t.unwrapped).length ≤ steps →
      t.expand steps pending = (pending.flatMap t.unwrapped).filter t.isPlain := by
  intro steps
  induction steps with
  | zero =>
    intro pending _ hsteps
    rw [List.eq_nil_of_length_eq_zero (Nat.le_zero.mp hsteps)]
    rfl
  | succ steps ih =>
    intro pending hfound hsteps
    cases pending with
    | nil => rfl
    | cons place pending =>
      obtain ⟨node, hn⟩ := hfound place List.mem_cons_self
      have hrest := fun place hmem => hfound place (List.mem_cons_of_mem _ hmem)
      rw [List.flatMap_cons] at hsteps ⊢
      rw [expand, hn]
      dsimp only
      cases hw : node.kind.isWrapper with
      | true =>
        -- The children of the wrapper are taken off next, and account for what it stands for.
        rw [h.unwrapped_of_wrapper hn hw, List.cons_append, ← List.flatMap_append] at hsteps ⊢
        rw [if_pos rfl, List.filter_cons_of_neg (by rw [isPlain_of_node? hn, hw]; decide)]
        refine ih _ ?_ (Nat.le_of_succ_le_succ hsteps)
        intro child hmem
        rcases List.mem_append.mp hmem with hmem | hmem
        · obtain ⟨inner, hc, _⟩ := (h.mem_children hn child).mp (Array.mem_toList_iff.mp hmem)
          exact ⟨inner, hc⟩
        · exact hrest child hmem
      | false =>
        rw [unwrapped_of_plain hn hw, List.singleton_append] at hsteps ⊢
        rw [if_neg Bool.false_ne_true, List.filter_cons_of_pos (by rw [isPlain_of_node? hn, hw]; rfl),
          ih _ hrest (Nat.le_of_succ_le_succ hsteps)]

/-- No more places are taken off for the children of a node than the tree has. -/
theorem Linked.length_flatMap_unwrapped_le (h : t.Linked) (hupper : t.node? above = some upper) :
    (upper.children.toList.flatMap t.unwrapped).length ≤ t.size := by
  have hsub : upper.children.toList.flatMap t.unwrapped ⊆ List.range t.size := by
    intro place hmem
    obtain ⟨_, _, hn, _⟩ := h.exists_of_through ((h.mem_flatMap_unwrapped_iff hupper).mp hmem)
    exact List.mem_range.mpr (lt_size_of_node? hn)
  have hlength := (List.Nodup.subperm (h.nodup_flatMap_unwrapped hupper) hsub).length_le
  rwa [List.length_range] at hlength

/-- **The steps are enough**: no place is taken off twice, and there are no more than the tree has. -/
theorem Linked.visible_eq (h : t.Linked) (hupper : t.node? above = some upper) :
    t.visible upper = (upper.children.toList.flatMap t.unwrapped).filter t.isPlain := by
  refine h.expand_eq t.size _ ?_ (h.length_flatMap_unwrapped_le hupper)
  intro child hmem
  obtain ⟨inner, hc, _⟩ := (h.mem_children hupper child).mp (Array.mem_toList_iff.mp hmem)
  exact ⟨inner, hc⟩

theorem Linked.nodup_visible (h : t.Linked) (hupper : t.node? above = some upper) :
    (t.visible upper).Nodup := by
  rw [h.visible_eq hupper]
  exact (h.nodup_flatMap_unwrapped hupper).filter _

/-- **The places listed are those of the nodes that data shows below.** -/
theorem Linked.mem_visible_iff (h : t.Linked) (hupper : t.node? above = some upper) :
    place ∈ t.visible upper ↔ ∃ node, t.ShowsBelow above place node := by
  rw [h.visible_eq hupper, List.mem_filter, h.mem_flatMap_unwrapped_iff hupper]
  constructor
  · rintro ⟨hthrough, hplain⟩
    obtain ⟨node, _, hn, _⟩ := h.exists_of_through hthrough
    rw [isPlain_of_node? hn, Bool.not_eq_true'] at hplain
    exact ⟨node, hthrough, hn, hplain⟩
  · rintro ⟨node, hs⟩
    refine ⟨hs.through, ?_⟩
    rw [isPlain_of_node? hs.node?, hs.not_wrapper]
    rfl

theorem mem_names_iff {places : List Nat} {name : String} :
    name ∈ t.names places ↔ ∃ place node, place ∈ places ∧ t.node? place = some node ∧
      node.name = name := by
  simp [names, List.mem_filterMap]

/-- The names that an element lists are those of the nodes that data shows below. -/
theorem Linked.mem_names_visible_iff (h : t.Linked) (hupper : t.node? above = some upper)
    {name : String} :
    name ∈ t.names (t.visible upper) ↔
      ∃ place node, t.ShowsBelow above place node ∧ node.name = name := by
  rw [mem_names_iff]
  constructor
  · rintro ⟨place, node, hmem, hn, hname⟩
    obtain ⟨node', hs⟩ := (h.mem_visible_iff hupper).mp hmem
    obtain rfl := Option.some.inj (hn.symm.trans hs.node?)
    exact ⟨place, node, hs, hname⟩
  · rintro ⟨place, node, hs, hname⟩
    exact ⟨place, node, (h.mem_visible_iff hupper).mpr ⟨node, hs⟩, hs.node?, hname⟩

end SchemaCatalog.Tree
