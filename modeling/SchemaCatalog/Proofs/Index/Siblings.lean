import SchemaCatalog.Proofs.Index.Subtree
import SchemaCatalog.Proofs.Tree.Visible

/-!
# Names of siblings

A tree that grows by `addChild` alone is `Planted`: all of its nodes descend from the root. A node that is
no wrapper is the root then, or data shows it below an earlier one, whose names its path continues
(`Planted.root_or_below`).

So two nodes that have one path stand below one node, as their paths have the same names before the last
one. An index of the tree can be built if the nodes that data shows below one node differ in their names
(`Index.exists_build_iff_siblings`), and the names of wrappers make no difference at all
(`Index.build_renameWrappers`).
-/

namespace SchemaCatalog

/-- A node with another name if it is a wrapper. -/
def Node.renameWrapper (node : Node) (name : String) : Node :=
  if node.kind.isWrapper then { node with name } else node

namespace Tree

/-- The trees that are made of children only. -/
inductive Planted : Tree → Prop where
  | new (uniqueName : String) : Planted (.new uniqueName)
  | addChild {t t' : Tree} {place : Nat} (parent : Nat) (node : Node) (made : Planted t)
      (added : t.addChild parent node = .ok (t', place)) : Planted t'

/-- The nodes that data shows right below one node differ in their names. -/
def DistinctBelow (t : Tree) (above : Nat) : Prop :=
  ∀ i j m n, t.ShowsBelow above i m → t.ShowsBelow above j n → m.name = n.name → i = j

/-- A tree with other names for its wrappers, one for each place. -/
def renameWrappers (t : Tree) (rename : Nat → String) : Tree :=
  ⟨t.uniqueName, t.nodes.mapIdx fun place node => node.renameWrapper (rename place)⟩

variable {t : Tree} {above place : Nat} {node upper : Node}

/-! ### Trees made of children -/

theorem Planted.reachable (h : t.Planted) : t.Reachable := by
  induction h with
  | new uniqueName => exact .new uniqueName
  | addChild parent node _ added ih => exact ih.addChild parent node added

/-- The root is the only node without a parent. -/
theorem Planted.eq_root (h : t.Planted) (hn : t.node? place = some node) (hp : node.parent = none) :
    place = root := by
  induction h generalizing place node with
  | new uniqueName =>
    rw [node?_new] at hn
    split_ifs at hn with hroot
    exact hroot
  | addChild parent child made added ih =>
    obtain ⟨_, _, rfl, _⟩ := addChild_eq_ok_iff.mp added
    rcases node?_linkChild_cases hn with ⟨_, rfl⟩ | ⟨old, hold, rfl⟩
    · cases hp
    · exact ih hold hp

/-- Every node descends from a root. -/
theorem Planted.isRooted (h : t.Planted) (hn : t.node? place = some node) : t.isRooted place = true := by
  have hlinked := h.reachable.linked
  induction place, node, hn using hlinked.induction_parent with
  | top place node hn hp =>
    obtain ⟨first, hfirst, hkind, _⟩ := hlinked.root_first
    obtain rfl := h.eq_root hn hp
    obtain rfl := Option.some.inj (hn.symm.trans hfirst)
    rw [isRooted_of_top hn hp, decide_eq_true hkind]
  | child place node hn above upper hupper hp hlt ih =>
    rw [isRooted_of_parent hn hp hlt, ih]

/-- **A node that is no wrapper is the root, or data shows it below an earlier one**, and its path has the
name of the node behind those of that one. -/
theorem Planted.root_or_below (h : t.Planted) (hn : t.node? place = some node)
    (hplain : node.kind.isWrapper = false) :
    place = root ∧ t.pathNames place = [] ∨
      ∃ above upper, t.node? above = some upper ∧ upper.kind.isWrapper = false ∧ above < place ∧
        t.ShowsBelow above place node ∧ t.pathNames place = t.pathNames above ++ [node.name] := by
  have hlinked := h.reachable.linked
  cases hp : node.parent with
  | none => exact .inl ⟨h.eq_root hn hp, pathNames_of_top hn hp⟩
  | some parent =>
    obtain ⟨above, upper, hupper, hupperplain, hthrough⟩ :=
      hlinked.exists_through hn (h.isRooted hn) (by simp [hp])
    obtain ⟨_, _, _, _, hlt⟩ := hlinked.exists_of_through hthrough
    have hbelow : t.ShowsBelow above place node := ⟨hthrough, hn, hplain⟩
    have hnames := hlinked.pathNames_of_showsBelow hbelow (.inl (h.isRooted hupper))
    exact .inr ⟨above, upper, hupper, hupperplain, hlt, hbelow, hnames⟩

/-- If names differ below every node, then no two nodes have the same names in their paths. -/
theorem Planted.eq_of_pathNames (h : t.Planted)
    (hdistinct : ∀ above upper, t.node? above = some upper → upper.kind.isWrapper = false →
      t.DistinctBelow above) :
    ∀ {i j : Nat} {m n : Node}, t.node? i = some m → m.kind.isWrapper = false →
      t.node? j = some n → n.kind.isWrapper = false → t.pathNames i = t.pathNames j → i = j := by
  intro i
  -- The nodes above the two have the same names again, and stand before them.
  induction i using Nat.strongRecOn with
  | ind i ih =>
    intro j m n hm hmplain hn hnplain hnames
    rcases h.root_or_below hm hmplain with ⟨rfl, hi⟩ | ⟨a, _, hfound, ha, hlt, hbelow, hi⟩
    · rcases h.root_or_below hn hnplain with ⟨rfl, _⟩ | ⟨_, _, _, _, _, _, hj⟩
      · rfl
      · rw [hi, hj] at hnames
        simp at hnames
    · rcases h.root_or_below hn hnplain with ⟨rfl, hj⟩ | ⟨b, _, hfound', hb, _, hbelow', hj⟩
      · rw [hi, hj] at hnames
        simp at hnames
      · rw [hi, hj] at hnames
        obtain ⟨habove, hname⟩ := List.append_inj' hnames rfl
        obtain rfl := ih a hlt hfound ha hfound' hb habove
        exact hdistinct a _ hfound ha i j m n hbelow hbelow' (List.singleton_inj.mp hname)

end Tree

/-! ### Other names for wrappers -/

section renameWrapper

variable (node : Node) (name : String)

@[simp]
theorem Node.kind_renameWrapper : (node.renameWrapper name).kind = node.kind := by
  unfold renameWrapper
  split_ifs <;> rfl

@[simp]
theorem Node.parent_renameWrapper : (node.renameWrapper name).parent = node.parent := by
  unfold renameWrapper
  split_ifs <;> rfl

@[simp]
theorem Node.children_renameWrapper : (node.renameWrapper name).children = node.children := by
  unfold renameWrapper
  split_ifs <;> rfl

/-- A node that is no wrapper keeps its name, and so all that it has. -/
theorem Node.renameWrapper_of_plain (h : node.kind.isWrapper = false) :
    node.renameWrapper name = node := by
  rw [renameWrapper, h, if_neg Bool.false_ne_true]

end renameWrapper

namespace Tree

variable {t : Tree} {place : Nat} {node : Node} (rename : Nat → String)

theorem node?_renameWrappers (t : Tree) (place : Nat) :
    (t.renameWrappers rename).node? place =
      (t.node? place).map fun node => node.renameWrapper (rename place) := by
  rw [renameWrappers, node?, Array.getElem?_mapIdx]
  rfl

theorem size_renameWrappers (t : Tree) : (t.renameWrappers rename).size = t.size := by
  rw [renameWrappers, size, Array.size_mapIdx, size]

/-- Climbing passes over the names of wrappers. -/
theorem Linked.climb_renameWrappers (h : t.Linked) (start : String) :
    ∀ (steps place : Nat) (node : Node) (below : List String), t.node? place = some node →
      (t.renameWrappers rename).climb start steps (node.renameWrapper (rename place)) below =
        t.climb start steps node below := by
  intro steps
  induction steps with
  | zero =>
    intro place node below _
    rfl
  | succ steps ih =>
    intro place node below hn
    have hsegments : (if node.kind.isWrapper then below
          else (node.renameWrapper (rename place)).name :: below) =
        if node.kind.isWrapper then below else node.name :: below := by
      cases hw : node.kind.isWrapper with
      | true => rfl
      | false => rw [node.renameWrapper_of_plain _ hw]
    rw [climb, climb, Node.kind_renameWrapper, Node.parent_renameWrapper, hsegments]
    cases hp : node.parent with
    | none => rfl
    | some above =>
      obtain ⟨upper, hupper⟩ :=
        exists_node?_of_lt (Nat.lt_trans (h.parent_lt hn hp) (lt_size_of_node? hn))
      dsimp only
      rw [node?_renameWrappers, hupper, Option.map_some]
      dsimp only
      rw [ih above upper _ hupper]

/-- Listing what data shows passes over the names of wrappers. -/
theorem expand_renameWrappers (t : Tree) : ∀ (steps : Nat) (pending : List Nat),
    (t.renameWrappers rename).expand steps pending = t.expand steps pending := by
  intro steps
  induction steps with
  | zero =>
    intro pending
    rfl
  | succ steps ih =>
    intro pending
    cases pending with
    | nil => rfl
    | cons place pending =>
      rw [expand, expand, node?_renameWrappers]
      cases t.node? place with
      | none => exact ih pending
      | some node =>
        rw [Option.map_some]
        dsimp only
        rw [Node.kind_renameWrapper, Node.children_renameWrapper, ih, ih]

/-- The names that data shows are not those of wrappers. -/
theorem Linked.names_visible_renameWrappers (h : t.Linked) (hn : t.node? place = some node) :
    (t.renameWrappers rename).names ((t.renameWrappers rename).visible node) =
      t.names (t.visible node) := by
  rw [visible, expand_renameWrappers, size_renameWrappers, ← visible, names, names]
  refine List.filterMap_congr ?_
  intro inner hmem
  obtain ⟨node', hs⟩ := (h.mem_visible_iff hn).mp hmem
  rw [node?_renameWrappers, hs.node?, Option.map_some, node'.renameWrapper_of_plain _ hs.not_wrapper]

end Tree

namespace Index

variable {t : Tree}

/-- Entering a node depends on the names of wrappers in no way. -/
theorem enter_renameWrappers (h : t.Linked) (rename : Nat → String) (index : Index) (place : Nat) :
    enter (t.renameWrappers rename) index place = enter t index place := by
  rw [enter, enter, Tree.node?_renameWrappers]
  cases hn : t.node? place with
  | none => rfl
  | some node =>
    have hpath : ∀ start, (t.renameWrappers rename).climb start (t.renameWrappers rename).size
        (node.renameWrapper (rename place)) [] = .ok (t.dataPath place) := by
      intro start
      rw [Tree.size_renameWrappers, h.climb_renameWrappers rename start t.size place node [] hn,
        h.climb_eq start t.size place node [] hn (Tree.lt_size_of_node? hn), List.append_nil,
        Tree.dataPath]
    rw [Option.map_some]
    dsimp only
    rw [Tree.pathOf, hpath, h.pathOf_eq hn, Node.kind_renameWrapper]
    cases hw : node.kind.isWrapper with
    | true =>
      dsimp only
      rw [Bool.or_true, if_pos rfl, if_pos rfl]
    | false =>
      dsimp only
      rw [node.renameWrapper_of_plain _ hw, Element.ofNode, Element.ofNode,
        h.names_visible_renameWrappers rename hn]
      rfl

/-- The names of wrappers make no difference to an index. -/
theorem build_renameWrappers (h : t.Linked) (rename : Nat → String) :
    build (t.renameWrappers rename) = build t := by
  have henter : enter (t.renameWrappers rename) = enter t := by
    funext index place
    exact enter_renameWrappers h rename index place
  rw [build, build, Tree.size_renameWrappers, henter]

/-- **Names that differ among siblings are enough.** A tree that grows by children alone, and whose names
are segments, has an index if for the root, and for every other node that is no wrapper, the nodes that data
shows right below it differ in their names. The names of wrappers do not matter: with any others, the index is
the same, and so is the error if there is none. -/
theorem exists_build_iff_siblings (made : t.Planted) (plain : t.Segmented) :
    ((∃ index, build t = .ok index) ↔
      ∀ above upper, t.node? above = some upper → upper.kind.isWrapper = false → t.DistinctBelow above) ∧
    ∀ rename, build (t.renameWrappers rename) = build t := by
  have h := made.reachable.linked
  refine ⟨?_, build_renameWrappers h⟩
  rw [exists_build_iff h]
  constructor
  · intro hinj above upper hupper _ i j m n hi hj hname
    -- Below one node, equal names make equal paths.
    have hrooted := made.isRooted hupper
    have hnames : t.pathNames i = t.pathNames j := by
      rw [h.pathNames_of_showsBelow hi (.inl hrooted), h.pathNames_of_showsBelow hj (.inl hrooted), hname]
    have hne : t.pathNames j ≠ [] := by
      rw [h.pathNames_of_showsBelow hj (.inl hrooted)]
      simp
    have hi' := shows_of_pathNames h plain hi.node? hi.not_wrapper (hnames ▸ hne)
    have hj' := shows_of_pathNames h plain hj.node? hj.not_wrapper hne
    rw [Tree.dataPath_eq_join, hnames, ← Tree.dataPath_eq_join] at hi'
    exact hinj i j m n _ hi' hj'
  · intro hdistinct i j m n p hm hn
    have hpath : t.dataPath i = t.dataPath j := (hm.eq_dataPath h).symm.trans (hn.eq_dataPath h)
    exact made.eq_of_pathNames hdistinct hm.node? hm.not_wrapper hn.node? hn.not_wrapper
      (DataPath.join_inj plain.isSegment plain.isSegment hpath)

/-! ### Two choices with one leaf -/

/-- Two choices that hold leaves of one name, the first one in a case. -/
def alternatives : Tree :=
  ⟨"test@x@1", #[
    { name := "root", kind := .root, children := #[1, 4] },
    { name := "primary", kind := .choice, parent := some 0, children := #[2] },
    { name := "tcp", kind := .case, parent := some 1, children := #[3] },
    { name := "port", kind := .leaf, typeName := some "uint16", parent := some 2 },
    { name := "fallback", kind := .choice, parent := some 0, children := #[5] },
    { name := "port", kind := .leaf, typeName := some "uint16", parent := some 4 }]⟩

theorem alternatives_planted : alternatives.Planted := by
  have made : (Tree.new "test@x@1").Planted := .new _
  have made := made.addChild 0 { name := "primary", kind := .choice } rfl
  have made := made.addChild 1 { name := "tcp", kind := .case } rfl
  have made := made.addChild 2 { name := "port", kind := .leaf, typeName := some "uint16" } rfl
  have made := made.addChild 0 { name := "fallback", kind := .choice } rfl
  exact made.addChild 4 { name := "port", kind := .leaf, typeName := some "uint16" } rfl

/-- Both leaves stand below the root, so that there is no index, whatever the choices are called. -/
theorem exists_build_iff_siblings_alternatives :
    alternatives.Planted ∧ alternatives.Segmented ∧
      ∀ rename, ¬ ∃ index, build (alternatives.renameWrappers rename) = .ok index := by
  have plain : alternatives.Segmented := Tree.segmented_of_forall (by decide +kernel)
  obtain ⟨hiff, hrename⟩ := exists_build_iff_siblings alternatives_planted plain
  refine ⟨alternatives_planted, plain, ?_⟩
  intro rename
  rw [hrename rename, hiff]
  intro hdistinct
  have hprimary : alternatives.Through 0 1 := .child rfl (by decide +kernel)
  have htcp : alternatives.Through 0 2 := .inside hprimary rfl rfl (by decide +kernel)
  have hfallback : alternatives.Through 0 4 := .child rfl (by decide +kernel)
  have hfirst : alternatives.ShowsBelow 0 3 _ := ⟨.inside htcp rfl rfl (by decide +kernel), rfl, rfl⟩
  have hsecond : alternatives.ShowsBelow 0 5 _ :=
    ⟨.inside hfallback rfl rfl (by decide +kernel), rfl, rfl⟩
  have heq := hdistinct 0 _ rfl rfl 3 5 _ _ hfirst hsecond rfl
  cases heq

end Index

end SchemaCatalog
