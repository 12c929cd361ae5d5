import SchemaCatalog.Proofs.Except
import SchemaCatalog.Proofs.Index.Contents
import SchemaCatalog.Proofs.Tree.Subtree

/-!
# Looking up the path of a node

The index of a tree has the element of a node under the path as its names make it, but takes outer
separators off a text before it looks it up. The two agree on bare paths only: such a path leads back to
its node, and no text at all leads to a node whose path is not bare (`get?_pathOf_iff`). Paths are bare if
the names of the tree are segments (`exists_get?_of_segmented`). Otherwise one may lead to another node
(`get?_slashed`).
-/

namespace SchemaCatalog

namespace Index

open DataPath (Bare)

variable {t : Tree} {index : Index} {place : Nat} {node : Node} {path : DataPath}

/-- A text that leads to a node is its path up to outer separators. -/
theorem trim_eq_of_get? (h : t.Linked) (hindex : build t = .ok index) (hs : t.Shows place node path)
    {s : String} {e : Element} (hget : index.get? s = some e) (he : e.node = some place) :
    DataPath.trim s = path.text := by
  obtain ⟨place', node', path', hs', hpath, hd⟩ := (get?_eq_some_iff h hindex).mp hget
  obtain rfl : place' = place := Option.some.inj (hd.node.symm.trans he)
  rw [← hpath, (hs'.unique hs).2]

/-- A bare path leads to its node. -/
theorem exists_get?_of_bare (h : t.Linked) (hindex : build t = .ok index)
    (hs : t.Shows place node path) (hbare : path.Bare) :
    ∃ e, index.get? path.text = some e ∧ e.node = some place := by
  refine ⟨.ofNode t place node path, ?_, rfl⟩
  rw [get?_eq_some_iff h hindex]
  exact ⟨place, node, path, hs, (DataPath.trim_eq_self_iff.mpr hbare).symm,
    Element.describes_iff.mpr rfl⟩

/-- In a tree whose names are segments, every path leads back to its node. -/
theorem exists_get?_of_segmented (h : t.Linked) (plain : t.Segmented) (hindex : build t = .ok index)
    (hs : t.Shows place node path) : ∃ e, index.get? path.text = some e ∧ e.node = some place := by
  apply exists_get?_of_bare h hindex hs
  rw [hs.eq_dataPath h]
  exact plain.bare_dataPath place

/-- **A path leads back to its node if it is bare.** If it is not, no text at all leads to the node. -/
theorem get?_pathOf_iff (made : t.Reachable) (hindex : build t = .ok index)
    (hs : t.Shows place node path) :
    ((∃ e, index.get? path.text = some e ∧ e.node = some place) ↔ path.Bare) ∧
      ((∃ s e, index.get? s = some e ∧ e.node = some place) ↔ path.Bare) := by
  have h := made.linked
  have hforth : (∃ s e, index.get? s = some e ∧ e.node = some place) → path.Bare := by
    rintro ⟨s, e, hget, he⟩
    -- The path is a trimmed text, and trimming leaves no separators at the ends.
    have htrim := trim_eq_of_get? h hindex hs hget he
    have hpath : path = .ofText s := congrArg DataPath.mk htrim.symm
    rw [hpath]
    exact DataPath.bare_ofText s
  refine ⟨⟨fun hown => hforth ⟨_, hown⟩, exists_get?_of_bare h hindex hs⟩, hforth, ?_⟩
  intro hbare
  exact ⟨path.text, exists_get?_of_bare h hindex hs hbare⟩

/-- The path of the leaf behind a choice leads back to it. -/
theorem get?_pathOf_interfaces :
    Tree.interfaces.Reachable ∧ ∃ index node, build Tree.interfaces = .ok index ∧
      Tree.interfaces.Shows 5 node ⟨"interfaces/mtu"⟩ ∧
      ∃ e, index.get? "interfaces/mtu" = some e ∧ e.node = some 5 := by
  obtain ⟨index, hindex⟩ := exists_ok_of_isSome (x := build Tree.interfaces) rfl
  have hs : Tree.interfaces.Shows 5
      { name := "mtu", kind := .leaf, typeName := some "uint16", parent := some 4 }
      ⟨"interfaces/mtu"⟩ := ⟨rfl, rfl, by decide +kernel, by decide⟩
  have hbare : (DataPath.mk "interfaces/mtu").Bare := ⟨by decide, by decide⟩
  exact ⟨Tree.interfaces_reachable, index, _, hindex, hs,
    (get?_pathOf_iff Tree.interfaces_reachable hindex hs).1.mpr hbare⟩

/-! ### A name that ends in a slash -/

/-- A container, and beside it a leaf with the same name but for a slash at its end. -/
def slashed : Tree :=
  ⟨"test@x@1", #[
    { name := "root", kind := .root, children := #[1, 2] },
    { name := "a", kind := .container, parent := some 0 },
    { name := "a/", kind := .leaf, typeName := some "string", parent := some 0 }]⟩

theorem slashed_reachable : slashed.Reachable := by
  have made : (Tree.new "test@x@1").Reachable := .new _
  have made := made.addChild 0 { name := "a", kind := .container } rfl
  exact made.addChild 0 { name := "a/", kind := .leaf, typeName := some "string" } rfl

/-- The path of the leaf leads to the container. -/
theorem get?_slashed :
    slashed.Reachable ∧ ∃ index node e, build slashed = .ok index ∧ slashed.Shows 2 node ⟨"a/"⟩ ∧
      index.get? "a/" = some e ∧ e.node = some 1 := by
  obtain ⟨index, hindex⟩ := exists_ok_of_isSome (x := build slashed) rfl
  have hs : slashed.Shows 2
      { name := "a/", kind := .leaf, typeName := some "string", parent := some 0 } ⟨"a/"⟩ :=
    ⟨rfl, rfl, by decide +kernel, by decide⟩
  have hs' : slashed.Shows 1 { name := "a", kind := .container, parent := some 0 } ⟨"a"⟩ :=
    ⟨rfl, rfl, by decide +kernel, by decide⟩
  -- Without outer slashes, the text is the path of the container.
  have htrim : DataPath.trim "a/" = DataPath.trim "a" := by decide
  have hsame : index.get? "a/" = index.get? "a" := congrArg (index.elements[·]?) htrim
  obtain ⟨e, hget, he⟩ :=
    exists_get?_of_bare slashed_reachable.linked hindex hs' ⟨by decide, by decide⟩
  exact ⟨slashed_reachable, index, _, e, hindex, hs, hsame.trans hget, he⟩

end Index

end SchemaCatalog
