import SchemaCatalog.Proofs.Document.Layout
import SchemaCatalog.Proofs.Index.Build
import SchemaCatalog.Proofs.Tree.Lineage

/-!
# The elements that items define

`Item.elementsAll above items` are the elements of items read off the items themselves: a wrapper has
none, and what it holds counts as standing in its place; any other item has one under the names
above it and its own, unless that path is empty. The names right below an element are `Item.shownAll`
of what its item holds.

The elements of a tree that was merged from module files are these, up to the places of their nodes
(`Document.elements_of_mergeAll`): both ways in which wrappers are skipped in a tree, by following the
parents of a node upward and by following its children downward, agree with the items.
-/

namespace SchemaCatalog

namespace Item

mutual

/-- The name that the data shows for an item, or those of what it holds if it is a wrapper. -/
def shown : Item → List String
  | mk name kind _ _ _ items => if kind.isWrapper then shownAll items else [name]

/-- The names that the data shows for items. -/
def shownAll : List Item → List String
  | [] => []
  | i :: rest => shown i ++ shownAll rest

end

/-- The element of an item under a path, unless the path is empty. -/
def ownElement (path : DataPath) : Item → List Element
  | mk name kind typeName description keys items =>
    if path.isEmpty then []
    else
      [⟨name, path, kind, typeName, description, keys, shownAll items, (shownAll items).length, none⟩]

mutual

/-- The elements of an item and of all that it holds, where `above` are the names on the way to it. -/
def elements (above : List String) : Item → List Element
  | mk name kind typeName description keys items =>
    if kind.isWrapper then elementsAll above items
    else
      ownElement (.join (above ++ [name])) (mk name kind typeName description keys items) ++
        elementsAll (above ++ [name]) items

/-- The elements of items and of all that they hold, where `above` are the names on the way to
them. -/
def elementsAll (above : List String) : List Item → List Element
  | [] => []
  | i :: rest => elements above i ++ elementsAll above rest

end

end Item

namespace Tree

variable {t : Tree}

theorem names_cons (places : List Nat) {place : Nat} {node : Node} (h : t.node? place = some node) :
    t.names (place :: places) = node.name :: t.names places := by
  rw [names, List.filterMap_cons, h]
  rfl

/-- As many nodes as a tree has somewhere it has altogether. -/
theorem HasAt.length_le {place : Nat} {nodes : List Node} (h : t.HasAt place nodes) :
    nodes.length ≤ t.size := by
  cases hk : nodes.length with
  | zero => exact Nat.zero_le _
  | succ k =>
    have hlast : k < nodes.length := by omega
    have := lt_size_of_node? (h k nodes[k] (List.getElem?_eq_getElem hlast))
    omega

/-! ### Following children downward -/

mutual

/-- Working off the place of an item gives what the data shows for it. No more steps are needed than
there are items in it. -/
theorem HasAt.expand_layout {parent place : Nat} :
    ∀ (i : Item), t.HasAt place (i.layout parent place) → ∀ (steps : Nat) (pending : List Nat),
      ∃ steps', steps ≤ steps' ∧
        t.names (t.expand (i.count + steps) (place :: pending)) =
          i.shown ++ t.names (t.expand steps' pending)
  | .mk name kind typeName description keys items => by
    intro h steps pending
    rw [Item.layout] at h
    have hnode := h.head
    rw [Item.count, Nat.add_right_comm, expand, hnode, Item.shown]
    dsimp only
    cases kind.isWrapper with
    | true =>
      -- What the wrapper holds comes next, in its place.
      obtain ⟨steps', hle, hnames⟩ := h.tail.expand_layoutAll items steps pending
      exact ⟨steps', hle, hnames⟩
    | false =>
      refine ⟨Item.countAll items + steps, by omega, ?_⟩
      rw [if_neg Bool.false_ne_true, if_neg Bool.false_ne_true, names_cons _ hnode,
        List.singleton_append]

/-- Working off the places of items gives what the data shows for them. -/
theorem HasAt.expand_layoutAll {parent place : Nat} :
    ∀ (items : List Item), t.HasAt place (Item.layoutAll parent place items) →
      ∀ (steps : Nat) (pending : List Nat), ∃ steps', steps ≤ steps' ∧
        t.names (t.expand (Item.countAll items + steps) (Item.placesAll place items ++ pending)) =
          Item.shownAll items ++ t.names (t.expand steps' pending)
  | [] => by
    intro _ steps pending
    refine ⟨steps, Nat.le_refl steps, ?_⟩
    rw [Item.countAll, Nat.zero_add, Item.placesAll, Item.shownAll, List.nil_append, List.nil_append]
  | i :: rest => by
    intro h steps pending
    rw [Item.layoutAll] at h
    have hright := h.right
    rw [Item.length_layout] at hright
    obtain ⟨steps₁, hle₁, hfirst⟩ := h.left.expand_layout i (Item.countAll rest + steps)
      (Item.placesAll (place + i.count) rest ++ pending)
    obtain ⟨steps₂, hle₂, hrest⟩ :=
      hright.expand_layoutAll rest (steps₁ - Item.countAll rest) pending
    rw [show Item.countAll rest + (steps₁ - Item.countAll rest) = steps₁ by omega] at hrest
    refine ⟨steps₂, by omega, ?_⟩
    rw [Item.countAll, Item.placesAll, Item.shownAll, Nat.add_assoc, List.cons_append, hfirst, hrest,
      List.append_assoc]

end

theorem expand_nil (t : Tree) (steps : Nat) : t.expand steps [] = [] := by
  cases steps with
  | zero => rfl
  | succ steps => rfl

/-- The names right below a node are those that the data shows for the items it holds. -/
theorem HasAt.names_visible {place : Nat} {items : List Item} {node : Node}
    (h : t.HasAt (place + 1) (Item.layoutAll place (place + 1) items))
    (hchildren : node.children = (Item.placesAll (place + 1) items).toArray) :
    t.names (t.visible node) = Item.shownAll items := by
  have hle := h.length_le
  rw [Item.length_layoutAll] at hle
  obtain ⟨steps', _, hnames⟩ := h.expand_layoutAll items (t.size - Item.countAll items) []
  rw [show Item.countAll items + (t.size - Item.countAll items) = t.size by omega,
    expand_nil, List.append_nil] at hnames
  rw [visible, hchildren, hnames, names, List.filterMap_nil, List.append_nil]

/-! ### Following parents upward -/

/-- The root gives no name to those below it, and has no element. -/
theorem Linked.root_hidden (h : t.Linked) :
    t.isRooted root = true ∧ t.segments root = [] ∧ t.element? root = none := by
  obtain ⟨node, hnode, hkind, hparent⟩ := h.root_first
  have hrooted : t.isRooted root = true := by
    rw [isRooted_of_top hnode hparent, hkind]
    rfl
  have hsegments : t.segments root = [] := by
    rw [segments_of_top hnode hparent]
    simp [segment?, hnode, hkind]
  refine ⟨hrooted, hsegments, ?_⟩
  rw [element?, hnode, dataPath, hrooted, hsegments]
  rfl

/-- A node below a root's descendant has the names of that one on its way, and its own if it is no
wrapper. -/
theorem Linked.segments_below (h : t.Linked) {parent place : Nat} {node : Node}
    {above : List String} (hn : t.node? place = some node) (hp : node.parent = some parent)
    (hkind : node.kind ≠ .root) (hrooted : t.isRooted parent = true)
    (habove : t.segments parent = above) :
    t.isRooted place = true ∧
      t.segments place = if node.kind.isWrapper then above else above ++ [node.name] := by
  have hlt := h.parent_lt hn hp
  rw [isRooted_of_parent hn hp hlt, segments_of_parent hn hp hlt, habove]
  refine ⟨hrooted, ?_⟩
  cases hw : node.kind.isWrapper with
  | true => simp [segment?, hn, hw]
  | false => simp [segment?, hn, hw, hkind]

/-- The element of the node of an item is that of the item, if the item has one. -/
theorem element?_of_layout {place : Nat} {items : List Item} {name : String} {kind : Kind}
    {typeName description : Option String} {keys : List String} {parent : Option Nat}
    (hn : t.node? place =
      some ⟨name, kind, typeName, description, keys, parent, (Item.placesAll (place + 1) items).toArray⟩)
    (hinside : t.HasAt (place + 1) (Item.layoutAll place (place + 1) items)) :
    (t.element? place).toList.map Element.forgetNode =
      if kind.isWrapper then []
      else Item.ownElement (t.dataPath place) (.mk name kind typeName description keys items) := by
  rw [element?, hn, Item.ownElement]
  dsimp only
  cases kind.isWrapper with
  | true => simp
  | false =>
    cases (t.dataPath place).isEmpty with
    | true => rfl
    | false =>
      have hnames : t.names (t.visible ⟨name, kind, typeName, description, keys, parent,
          (Item.placesAll (place + 1) items).toArray⟩) = Item.shownAll items :=
        hinside.names_visible rfl
      simp [Element.ofNode, Element.forgetNode, hnames]

mutual

/-- The elements of the nodes of an item are those of the item. -/
theorem Linked.elements_layout (h : t.Linked) {parent : Nat} (hrooted : t.isRooted parent = true) :
    ∀ (i : Item) (place : Nat), i.Proper → t.HasAt place (i.layout parent place) →
      ((List.range' place i.count).filterMap t.element?).map Element.forgetNode =
        i.elements (t.segments parent)
  | .mk name kind typeName description keys items => by
    intro place hproper hat
    rw [Item.Proper] at hproper
    rw [Item.layout] at hat
    have hnode := hat.head
    obtain ⟨hrootedHere, hsegments⟩ := h.segments_below hnode rfl hproper.1 hrooted rfl
    have hown := element?_of_layout hnode hat.tail
    have hinside := h.elements_layoutAll hrootedHere items (place + 1) hproper.2.2 hat.tail
    have hsplit : ((List.range' place (Item.countAll items + 1)).filterMap t.element?).map
        Element.forgetNode = (t.element? place).toList.map Element.forgetNode ++
          ((List.range' (place + 1) (Item.countAll items)).filterMap t.element?).map
            Element.forgetNode := by
      rw [List.range'_succ, List.filterMap_cons]
      cases t.element? place <;> rfl
    rw [Item.count, Item.elements, hsplit, hown, hinside, dataPath, hrootedHere, hsegments]
    dsimp only
    cases kind.isWrapper with
    | true => rfl
    | false => rfl

/-- The elements of the nodes of items are those of the items. -/
theorem Linked.elements_layoutAll (h : t.Linked) {parent : Nat}
    (hrooted : t.isRooted parent = true) :
    ∀ (items : List Item) (place : Nat), Item.ProperAll items →
      t.HasAt place (Item.layoutAll parent place items) →
      ((List.range' place (Item.countAll items)).filterMap t.element?).map Element.forgetNode =
        Item.elementsAll (t.segments parent) items
  | [] => by
    intro place _ _
    rfl
  | i :: rest => by
    intro place hproper hat
    rw [Item.ProperAll] at hproper
    rw [Item.layoutAll] at hat
    have hright := hat.right
    rw [Item.length_layout] at hright
    rw [Item.countAll, Item.elementsAll, ← List.range'_append_1, List.filterMap_append,
      List.map_append, h.elements_layout hrooted i place hproper.1 hat.left,
      h.elements_layoutAll hrooted rest (place + i.count) hproper.2 hright]

end

end Tree

/-- **The elements of merged module files** are those of their items, in the same order. -/
theorem Document.elements_of_mergeAll {key : String} {documents : List Document} {t : Tree}
    (h : mergeAll (.new key) documents = .ok t) :
    t.elements.map Element.forgetNode = Item.elementsAll [] (documents.flatMap items) := by
  have hlinked := (reachable_mergeAll h).linked
  obtain ⟨hproper, ht⟩ := mergeAll_new_eq_ok_iff.mp h
  have hat := (Tree.new key).graft_hasAt Tree.root (Item.placesAll 1 (documents.flatMap items))
    (Item.layoutAll Tree.root 1 (documents.flatMap items))
  have hsize := (Tree.new key).size_graft Tree.root (Item.placesAll 1 (documents.flatMap items))
    (Item.layoutAll Tree.root 1 (documents.flatMap items))
  rw [← ht] at hat hsize
  rw [Item.length_layoutAll] at hsize
  obtain ⟨hrooted, hsegments, hroot⟩ := hlinked.root_hidden
  have hrest := hlinked.elements_layoutAll hrooted _ 1 hproper hat
  rw [hsegments] at hrest
  have hsize : t.size = Item.countAll (documents.flatMap items) + 1 := by
    rw [hsize, Nat.add_comm]
    rfl
  rw [Tree.elements, hsize, List.range_eq_range', List.range'_succ, List.filterMap_cons]
  have hroot : t.element? 0 = none := hroot
  rw [hroot]
  exact hrest

end SchemaCatalog
