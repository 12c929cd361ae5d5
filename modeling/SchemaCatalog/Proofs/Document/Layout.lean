import SchemaCatalog.Document
import SchemaCatalog.Proofs.Except
import SchemaCatalog.Proofs.Tree.Linked
import Mathlib.Data.List.Basic

/-!
# Where the items of module files stand

Adding items below a node succeeds if they are `Proper`: none of them is a root, and no leaf holds
items (`insertAll_eq_ok_iff`). What is added is their `layout`: one node for each item, in the order
of the files, an item before the items inside it and these before the next one. `Tree.graft` puts
these nodes at the end of a tree and adds the places of the outermost ones to the children of the
node above.
-/

namespace SchemaCatalog

/-! ### Nodes at the end of a tree -/

namespace Tree

/-- The tree with nodes at its end, of which those at `places` are children of the one at
`parent`. -/
def graft (t : Tree) (parent : Nat) (places : List Nat) (nodes : List Node) : Tree :=
  ⟨t.uniqueName,
    (t.nodes.modify parent fun n => { n with children := n.children ++ places.toArray }) ++
      nodes.toArray⟩

/-- A tree has nodes from a place on. -/
def HasAt (t : Tree) (place : Nat) (nodes : List Node) : Prop :=
  ∀ k node, nodes[k]? = some node → t.node? (place + k) = some node

theorem ext_node? {t t' : Tree} (hname : t.uniqueName = t'.uniqueName)
    (hnodes : ∀ place, t.node? place = t'.node? place) : t = t' := by
  obtain ⟨name, nodes⟩ := t
  obtain ⟨name', nodes'⟩ := t'
  obtain rfl : name = name' := hname
  congr 1
  exact Array.ext_getElem? hnodes

theorem size_graft (t : Tree) (parent : Nat) (places : List Nat) (nodes : List Node) :
    (t.graft parent places nodes).size = t.size + nodes.length := by
  simp [graft, size]

theorem node?_graft (t : Tree) (parent : Nat) (places : List Nat) (nodes : List Node) (place : Nat) :
    (t.graft parent places nodes).node? place =
      if place < t.size then
        if parent = place then
          (t.node? place).map fun n => { n with children := n.children ++ places.toArray }
        else t.node? place
      else nodes[place - t.size]? := by
  have hnodes : nodes.toArray[place - t.size]? = nodes[place - t.size]? := List.getElem?_toArray
  rw [graft, node?, Array.getElem?_append, Array.size_modify, Array.getElem?_modify, ← hnodes]
  rfl

theorem graft_nil (t : Tree) (parent : Nat) : t.graft parent [] [] = t := by
  apply ext_node?
  · rfl
  intro place
  rw [node?_graft]
  split_ifs with hlt hparent
  · simp
  · rfl
  · rw [(t.node?_eq_none_iff place).mpr (Nat.not_lt.mp hlt), List.getElem?_nil]

/-- Nodes can be put at the end of a tree in two steps. -/
theorem graft_graft {t : Tree} {parent : Nat} (h : parent < t.size) (places places' : List Nat)
    (nodes nodes' : List Node) :
    (t.graft parent places nodes).graft parent places' nodes' =
      t.graft parent (places ++ places') (nodes ++ nodes') := by
  apply ext_node?
  · rfl
  intro place
  rw [node?_graft, node?_graft, node?_graft, size_graft]
  by_cases hlt : place < t.size
  · have hlt' : place < t.size + nodes.length := by omega
    rw [if_pos hlt', if_pos hlt, if_pos hlt]
    by_cases hparent : parent = place
    · rw [if_pos hparent, if_pos hparent, if_pos hparent, Option.map_map]
      simp [Function.comp_def, Array.append_assoc]
    · rw [if_neg hparent, if_neg hparent, if_neg hparent]
  · have hparent : parent ≠ place := by omega
    rw [if_neg hlt, if_neg hlt, if_neg hparent]
    by_cases hlt' : place < t.size + nodes.length
    · rw [if_pos hlt', List.getElem?_append_left (by omega)]
    · rw [if_neg hlt', List.getElem?_append_right (by omega), Nat.sub_sub]

/-- Nodes can be put below a node that has been added. -/
theorem linkChild_graft (t : Tree) (parent : Nat) (node : Node) (places : List Nat)
    (nodes : List Node) :
    (t.linkChild parent node).graft t.size places nodes =
      t.graft parent [t.size]
        ({ node with parent := some parent, children := places.toArray } :: nodes) := by
  apply ext_node?
  · rfl
  intro place
  rw [node?_graft, node?_graft, node?_linkChild, size_linkChild]
  by_cases hlt : place < t.size
  · have hlt' : place < t.size + 1 := by omega
    have hne : place ≠ t.size := by omega
    rw [if_pos hlt', if_pos hlt, if_neg hne.symm, if_neg hne]
    simp
  · by_cases heq : place = t.size
    · subst heq
      rw [if_pos (Nat.lt_succ_self _), if_pos rfl, if_pos rfl, if_neg (Nat.lt_irrefl _), Nat.sub_self]
      simp
    · have hlt' : ¬ place < t.size + 1 := by omega
      obtain ⟨k, rfl⟩ : ∃ k, place = t.size + 1 + k := ⟨place - (t.size + 1), by omega⟩
      rw [if_neg hlt', if_neg hlt, Nat.add_sub_cancel_left,
        show t.size + 1 + k - t.size = k + 1 by omega, List.getElem?_cons_succ]

theorem graft_hasAt (t : Tree) (parent : Nat) (places : List Nat) (nodes : List Node) :
    (t.graft parent places nodes).HasAt t.size nodes := by
  intro k node hk
  rw [node?_graft, if_neg (by omega), Nat.add_sub_cancel_left, hk]

theorem HasAt.head {t : Tree} {place : Nat} {node : Node} {nodes : List Node}
    (h : t.HasAt place (node :: nodes)) : t.node? place = some node :=
  h 0 node rfl

theorem HasAt.tail {t : Tree} {place : Nat} {node : Node} {nodes : List Node}
    (h : t.HasAt place (node :: nodes)) : t.HasAt (place + 1) nodes := by
  intro k n hk
  rw [Nat.add_right_comm]
  exact h (k + 1) n hk

theorem HasAt.left {t : Tree} {place : Nat} {nodes nodes' : List Node}
    (h : t.HasAt place (nodes ++ nodes')) : t.HasAt place nodes := by
  intro k n hk
  apply h k n
  rw [List.getElem?_append_left (List.getElem?_eq_some_iff.mp hk).1, hk]

theorem HasAt.right {t : Tree} {place : Nat} {nodes nodes' : List Node}
    (h : t.HasAt place (nodes ++ nodes')) : t.HasAt (place + nodes.length) nodes' := by
  intro k n hk
  rw [Nat.add_assoc]
  apply h (nodes.length + k) n
  rw [List.getElem?_append_right (Nat.le_add_right _ _), Nat.add_sub_cancel_left, hk]

end Tree

/-! ### The layout of items -/

namespace Item

mutual

/-- How many items there are in an item, itself included. -/
def count : Item → Nat
  | mk _ _ _ _ _ items => countAll items + 1

/-- How many items there are in items, themselves included. -/
def countAll : List Item → Nat
  | [] => 0
  | i :: rest => count i + countAll rest

end

/-- The places of items, without those of the items inside them, from a place on. -/
def placesAll (place : Nat) : List Item → List Nat
  | [] => []
  | i :: rest => place :: placesAll (place + i.count) rest

mutual

/-- The nodes of an item below `parent` and of all that it holds, from a place on. -/
def layout (parent place : Nat) : Item → List Node
  | mk name kind typeName description keys items =>
    ⟨name, kind, typeName, description, keys, some parent, (placesAll (place + 1) items).toArray⟩ ::
      layoutAll place (place + 1) items

/-- The nodes of items below `parent` and of all that they hold, from a place on. -/
def layoutAll (parent place : Nat) : List Item → List Node
  | [] => []
  | i :: rest => layout parent place i ++ layoutAll parent (place + i.count) rest

end

mutual

/-- Neither an item nor any inside it is a root or a leaf that holds items. -/
def Proper : Item → Prop
  | mk _ kind _ _ _ items => kind ≠ .root ∧ (kind.isTerminal = true → items = []) ∧ ProperAll items

/-- Neither any of the items nor any inside them is a root or a leaf that holds items. -/
def ProperAll : List Item → Prop
  | [] => True
  | i :: rest => Proper i ∧ ProperAll rest

end

mutual

theorem length_layout (parent place : Nat) : ∀ i : Item, (layout parent place i).length = i.count
  | mk name kind typeName description keys items => by
    rw [layout, count, List.length_cons, length_layoutAll]

theorem length_layoutAll (parent place : Nat) :
    ∀ items : List Item, (layoutAll parent place items).length = countAll items
  | [] => rfl
  | i :: rest => by
    rw [layoutAll, countAll, List.length_append, length_layout, length_layoutAll]

end

theorem properAll_append (items items' : List Item) :
    ProperAll (items ++ items') ↔ ProperAll items ∧ ProperAll items' := by
  induction items with
  | nil => simp [ProperAll]
  | cons i rest ih => rw [List.cons_append, ProperAll, ProperAll, ih, and_assoc]

/-! ### Adding items -/

/-- Items are added after those before them. -/
theorem insertAll_append (t : Tree) (parent : Nat) (items items' : List Item) :
    insertAll t parent (items ++ items') =
      insertAll t parent items >>= fun t => insertAll t parent items' := by
  induction items generalizing t with
  | nil => rfl
  | cons i rest ih =>
    rw [List.cons_append, insertAll, insertAll]
    cases insert t parent i with
    | error e => rfl
    | ok t => exact ih t

/-- A node that is no leaf stays so when nodes are put below it. -/
theorem graft_node?_parent {t : Tree} {parent : Nat} {above : Node}
    (ha : t.node? parent = some above) (places : List Nat) (nodes : List Node) :
    (t.graft parent places nodes).node? parent =
      some { above with children := above.children ++ places.toArray } := by
  rw [Tree.node?_graft, if_pos (Tree.lt_size_of_node? ha), if_pos rfl, ha, Option.map_some]

mutual

/-- An item can be added below a node that is no leaf if it is proper; its layout is added. -/
theorem insert_eq_ok_iff {t t' : Tree} {parent : Nat} {above : Node}
    (ha : t.node? parent = some above) (ht : above.kind.isTerminal = false) :
    ∀ i : Item, insert t parent i = .ok t' ↔
      i.Proper ∧ t' = t.graft parent [t.size] (layout parent t.size i)
  | mk name kind typeName description keys items => by
    rw [insert, Proper, layout]
    by_cases hroot : kind = .root
    · simp [hroot]
    have hadd : t.addChild parent { name, kind, typeName, description, keys } =
        .ok (t.linkChild parent { name, kind, typeName, description, keys }, t.size) :=
      Tree.addChild_eq_ok_iff.mpr ⟨⟨above, ha, ht⟩, hroot, rfl, rfl⟩
    rw [if_neg hroot, hadd]
    dsimp only
    have hnew : (t.linkChild parent { name, kind, typeName, description, keys }).node? t.size =
        some ⟨name, kind, typeName, description, keys, some parent, #[]⟩ := by
      rw [Tree.node?_linkChild, if_pos rfl]
    -- The new node is the last one, and its items are added below it from there on.
    have hinside : insertAll _ t.size items = .ok t' ↔ _ := insertAll_eq_ok_iff hnew items
    rw [Tree.size_linkChild, Tree.linkChild_graft] at hinside
    constructor
    · intro h
      obtain ⟨hleaf, hproper, rfl⟩ := hinside.mp h
      exact ⟨⟨hroot, hleaf, hproper⟩, rfl⟩
    · rintro ⟨⟨_, hleaf, hproper⟩, rfl⟩
      exact hinside.mpr ⟨hleaf, hproper, rfl⟩

/-- Items can be added below a node if they are proper and, in case the node is a leaf, if there are
none; their layout is added. -/
theorem insertAll_eq_ok_iff {t t' : Tree} {parent : Nat} {above : Node}
    (ha : t.node? parent = some above) :
    ∀ items : List Item, insertAll t parent items = .ok t' ↔
      (above.kind.isTerminal = true → items = []) ∧ ProperAll items ∧
        t' = t.graft parent (placesAll t.size items) (layoutAll parent t.size items)
  | [] => by
    rw [insertAll, placesAll, layoutAll, Tree.graft_nil, ProperAll, Except.ok.injEq]
    constructor
    · rintro rfl
      exact ⟨fun _ => rfl, trivial, rfl⟩
    · rintro ⟨_, _, rfl⟩
      rfl
  | i :: rest => by
    rw [insertAll, placesAll, layoutAll, ProperAll]
    cases ht : above.kind.isTerminal with
    | true =>
      -- Nothing can be added below a leaf.
      have hfail : ∀ t', insert t parent i ≠ .ok t' := by
        obtain ⟨name, kind, typeName, description, keys, items⟩ := i
        intro t' h
        rw [insert, Tree.addChild, ha] at h
        dsimp only at h
        rw [if_pos ht] at h
        split_ifs at h
      cases hi : insert t parent i with
      | error e => simp
      | ok t' => exact absurd hi (hfail t')
    | false =>
      have hfirst (t' : Tree) : insert t parent i = .ok t' ↔ _ := insert_eq_ok_iff ha ht i
      cases hi : insert t parent i with
      | error e =>
        constructor
        · intro h
          cases h
        · rintro ⟨_, ⟨hproper, _⟩, _⟩
          have hok := (hfirst _).mpr ⟨hproper, rfl⟩
          rw [hi] at hok
          cases hok
      | ok t₁ =>
        -- The node is still no leaf with the layout of the first item below it.
        obtain ⟨hproper, rfl⟩ := (hfirst t₁).mp hi
        have hrest : insertAll _ parent rest = .ok t' ↔ _ :=
          insertAll_eq_ok_iff (graft_node?_parent ha [t.size] (layout parent t.size i)) rest
        rw [Tree.graft_graft (Tree.lt_size_of_node? ha), Tree.size_graft, length_layout,
          List.singleton_append] at hrest
        dsimp only
        rw [hrest]
        constructor
        · rintro ⟨_, hproperRest, rfl⟩
          exact ⟨fun h => absurd h Bool.false_ne_true, ⟨hproper, hproperRest⟩, rfl⟩
        · rintro ⟨_, ⟨_, hproperRest⟩, rfl⟩
          refine ⟨fun h => ?_, hproperRest, rfl⟩
          rw [ht] at h
          cases h

end

/-- Trees that have a property still have it when a child is added. -/
def ChildKeeps (P : Tree → Prop) : Prop :=
  ∀ {t t' : Tree} {place : Nat} (parent : Nat) (node : Node), P t →
    t.addChild parent node = .ok (t', place) → P t'

mutual

/-- What adding a child keeps, adding an item keeps. -/
theorem insert_keeps {P : Tree → Prop} (keeps : ChildKeeps P) {t t' : Tree} {parent : Nat} (ht : P t) :
    ∀ i : Item, insert t parent i = .ok t' → P t'
  | mk name kind typeName description keys items => by
    intro h
    rw [insert] at h
    split_ifs at h
    cases hadd : t.addChild parent { name, kind, typeName, description, keys } with
    | error flaw =>
      rw [hadd] at h
      cases h
    | ok added =>
      obtain ⟨t₁, place⟩ := added
      rw [hadd] at h
      exact insertAll_keeps keeps (keeps parent _ ht hadd) items h

/-- What adding a child keeps, adding items keeps. -/
theorem insertAll_keeps {P : Tree → Prop} (keeps : ChildKeeps P) {t t' : Tree} {parent : Nat}
    (ht : P t) :
    ∀ items : List Item, insertAll t parent items = .ok t' → P t'
  | [] => by
    intro h
    rw [insertAll] at h
    rw [← Except.ok.inj h]
    exact ht
  | i :: rest => by
    intro h
    rw [insertAll] at h
    cases hi : insert t parent i with
    | error e =>
      rw [hi] at h
      cases h
    | ok t₁ =>
      rw [hi] at h
      exact insertAll_keeps keeps (insert_keeps keeps ht i hi) rest h

end

end Item

/-! ### Merging module files -/

namespace Document

/-- Adds the items of module files below the root, file by file. -/
def mergeAll (t : Tree) (documents : List Document) : Except Error Tree :=
  documents.foldlM (fun t d => Item.insertAll t Tree.root d.items) t

/-- Merging module files is adding all of their items. -/
theorem mergeAll_eq_insertAll (t : Tree) (documents : List Document) :
    mergeAll t documents = Item.insertAll t Tree.root (documents.flatMap items) := by
  induction documents generalizing t with
  | nil => rfl
  | cons d rest ih =>
    rw [List.flatMap_cons, Item.insertAll_append, mergeAll, List.foldlM_cons]
    congr 1
    funext t
    exact ih t

theorem mergeFiles_cons (files : Files) (key : String) (t : Tree) (path : String)
    (rest : List String) :
    mergeFiles files key t (path :: rest) =
      read files key path >>= fun d =>
        Item.insertAll t Tree.root d.items >>= fun t => mergeFiles files key t rest := by
  rw [mergeFiles]
  cases read files key path with
  | error e => rfl
  | ok d =>
    dsimp only
    cases h : Item.insertAll t Tree.root d.items with
    | error e =>
      show _ = Item.insertAll t Tree.root d.items >>= _
      rw [h]
      rfl
    | ok t₁ =>
      show _ = Item.insertAll t Tree.root d.items >>= _
      rw [h]
      rfl

/-- Files can be merged if they are module files that can be merged. -/
theorem mergeFiles_eq_ok_iff {files : Files} {key : String} {paths : List String} {t t' : Tree} :
    mergeFiles files key t paths = .ok t' ↔
      ∃ documents, List.Forall₂ (fun path d => read files key path = .ok d) paths documents ∧
        mergeAll t documents = .ok t' := by
  induction paths generalizing t with
  | nil =>
    constructor
    · intro h
      exact ⟨[], .nil, h⟩
    · rintro ⟨documents, hread, hmerge⟩
      cases hread
      exact hmerge
  | cons path rest ih =>
    rw [mergeFiles_cons, bind_eq_ok_iff]
    constructor
    · rintro ⟨d, hread, h⟩
      obtain ⟨t₁, hinsert, h⟩ := bind_eq_ok_iff.mp h
      obtain ⟨documents, hdocuments, hmerge⟩ := ih.mp h
      refine ⟨d :: documents, .cons hread hdocuments, ?_⟩
      rw [mergeAll, List.foldlM_cons, hinsert]
      exact hmerge
    · rintro ⟨documents, hdocuments, hmerge⟩
      cases hdocuments with
      | @cons _ d _ documents hread hdocuments =>
        rw [mergeAll, List.foldlM_cons] at hmerge
        obtain ⟨t₁, hinsert, hmerge⟩ := bind_eq_ok_iff.mp hmerge
        exact ⟨d, hread, bind_eq_ok_iff.mpr ⟨t₁, hinsert, ih.mpr ⟨documents, hdocuments, hmerge⟩⟩⟩

/-- Module files can be merged if their items are proper. The tree is the root with the layout of all
items. -/
theorem mergeAll_new_eq_ok_iff {key : String} {documents : List Document} {t : Tree} :
    mergeAll (.new key) documents = .ok t ↔
      Item.ProperAll (documents.flatMap items) ∧
        t = (Tree.new key).graft Tree.root (Item.placesAll 1 (documents.flatMap items))
          (Item.layoutAll Tree.root 1 (documents.flatMap items)) := by
  have hroot : (Tree.new key).node? Tree.root = some ⟨Tree.rootName, .root, none, none, [], none, #[]⟩ :=
    rfl
  rw [mergeAll_eq_insertAll, Item.insertAll_eq_ok_iff hroot]
  constructor
  · rintro ⟨_, hproper, ht⟩
    exact ⟨hproper, ht⟩
  · rintro ⟨hproper, ht⟩
    exact ⟨fun h => absurd h Bool.false_ne_true, hproper, ht⟩

theorem uniqueName_of_mergeAll {key : String} {documents : List Document} {t : Tree}
    (h : mergeAll (.new key) documents = .ok t) : t.uniqueName = key := by
  obtain ⟨_, rfl⟩ := mergeAll_new_eq_ok_iff.mp h
  rfl

theorem reachable_mergeAll {key : String} {documents : List Document} {t : Tree}
    (h : mergeAll (.new key) documents = .ok t) : t.Reachable := by
  rw [mergeAll_eq_insertAll] at h
  exact Item.insertAll_keeps (fun parent node made added => made.addChild parent node added) (.new key) _ h

end Document

end SchemaCatalog
