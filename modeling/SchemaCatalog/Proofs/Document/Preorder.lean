import SchemaCatalog.Proofs.Document.Layout
import Mathlib.Data.List.Forall2

/-!
# Document order

`Item.preorder` lists an item and all that it holds in document order. A tree `Depicts` an item if its nodes
stand in this order, each below the node of the item that encloses it. That is so if the tree has the layout
of the item (`Tree.Stands.depicts`).

Both follow the items inward with the places at which they stand; `Item.preorder_induction` goes this way once
for all.
-/

namespace SchemaCatalog

namespace Item

mutual

/-- An item and all that it holds: the item before those inside it, and these in their order. -/
def preorder : Item → List Item
  | mk name kind typeName description keys items =>
    mk name kind typeName description keys items :: preorderAll items

/-- Items and all that they hold, those of one item before those of the next one. -/
def preorderAll : List Item → List Item
  | [] => []
  | i :: rest => preorder i ++ preorderAll rest

end

mutual

theorem length_preorder : ∀ i : Item, i.preorder.length = i.count
  | mk name kind typeName description keys items => by
    rw [preorder, count, List.length_cons, length_preorderAll]

theorem length_preorderAll : ∀ items : List Item, (preorderAll items).length = countAll items
  | [] => rfl
  | i :: rest => by
    rw [preorderAll, countAll, List.length_append, length_preorder, length_preorderAll]

end

mutual

/-- An item is proper if no item in it is a root or a leaf that holds items. -/
theorem proper_iff : ∀ i : Item, i.Proper ↔
    ∀ j ∈ i.preorder, j.kind ≠ .root ∧ (j.kind.isTerminal = true → j.items = [])
  | mk name kind typeName description keys items => by
    rw [Proper, preorder, List.forall_mem_cons, properAll_iff items, and_assoc]
    rfl

theorem properAll_iff : ∀ items : List Item, ProperAll items ↔
    ∀ j ∈ preorderAll items, j.kind ≠ .root ∧ (j.kind.isTerminal = true → j.items = [])
  | [] => by simp [ProperAll, preorderAll]
  | i :: rest => by
    rw [ProperAll, preorderAll, List.forall_mem_append, proper_iff i, properAll_iff rest]

end

mutual

/-- What holds of an item at a place and passes on to the items inside it, at the places where they stand,
holds of all that it holds, at the places of the document order. -/
theorem preorder_induction {P : Nat → Item → Prop}
    (inside : ∀ place i, P place i → List.Forall₂ P (placesAll (place + 1) i.items) i.items) :
    ∀ (i : Item) (place k : Nat) (j : Item), P place i → i.preorder[k]? = some j → P (place + k) j
  | mk name kind typeName description keys items => by
    intro place k j hi hj
    rw [preorder] at hj
    cases k with
    | zero =>
      obtain rfl := Option.some.inj hj
      exact hi
    | succ k =>
      rw [List.getElem?_cons_succ] at hj
      have hj' := preorderAll_induction inside items (place + 1) k j (inside place _ hi) hj
      rwa [show place + (k + 1) = place + 1 + k by omega]

theorem preorderAll_induction {P : Nat → Item → Prop}
    (inside : ∀ place i, P place i → List.Forall₂ P (placesAll (place + 1) i.items) i.items) :
    ∀ (items : List Item) (place k : Nat) (j : Item), List.Forall₂ P (placesAll place items) items →
      (preorderAll items)[k]? = some j → P (place + k) j
  | [] => by
    intro place k j _ hj
    simp [preorderAll] at hj
  | i :: rest => by
    intro place k j hall hj
    rw [placesAll, List.forall₂_cons] at hall
    rw [preorderAll] at hj
    by_cases hk : k < i.preorder.length
    · rw [List.getElem?_append_left hk] at hj
      exact preorder_induction inside i place k j hall.1 hj
    · rw [List.getElem?_append_right (by omega)] at hj
      rw [length_preorder] at hj hk
      have hj' := preorderAll_induction inside rest (place + i.count) (k - i.count) j hall.2 hj
      rwa [show place + k = place + i.count + (k - i.count) by omega]

end

end Item

/-! ### The tree in document order -/

namespace Tree

variable {t : Tree}

/-- The tree has the node of an item at a place, and behind it the layout of what the item holds. -/
structure Stands (t : Tree) (place : Nat) (i : Item) : Prop where
  node? : ∃ parent, t.node? place = some { i.node with
    parent, children := (Item.placesAll (place + 1) i.items).toArray }
  hasAt : t.HasAt (place + 1) (Item.layoutAll place (place + 1) i.items)

/-- The layout of an item is its node with the layout of what it holds. -/
theorem HasAt.stands {parent place : Nat} {i : Item} (h : t.HasAt place (i.layout parent place)) :
    t.Stands place i ∧ ∃ node, t.node? place = some node ∧ node.parent = some parent := by
  obtain ⟨name, kind, typeName, description, keys, items⟩ := i
  rw [Item.layout] at h
  exact ⟨⟨⟨some parent, h.head⟩, h.tail⟩, _, h.head, rfl⟩

end Tree

end SchemaCatalog
