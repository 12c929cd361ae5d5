import SchemaCatalog.Proofs.Except
import SchemaCatalog.Proofs.Index.Contents
import SchemaCatalog.Proofs.Tree.Visible

/-!
# The children of an element

An element lists the names of the nodes that data shows right below its own, going down. A path is made
going up, and is that of the nearest node above that is no wrapper with one name more behind it
(`text_dataPath_of_showsBelow`). So the children of an element are, each under its name, the elements whose
nodes stand below its node (`Index.build_children`). This needs nothing of the names but that the index could
be built.
-/

namespace SchemaCatalog

namespace Tree

variable {t : Tree} {above place : Nat} {node upper : Node}

/-- The path of what data shows below a node has its name behind the path of that node. -/
theorem Linked.text_dataPath_of_showsBelow (h : t.Linked) (hs : t.ShowsBelow above place node)
    (hne : (t.dataPath above).text ≠ "") :
    (t.dataPath place).text = (t.dataPath above).text ++ "/" ++ node.name := by
  have hnames := pathNames_ne_nil hne
  rw [dataPath_eq_join, dataPath_eq_join, h.pathNames_of_showsBelow hs (.inr hnames),
    DataPath.text_join_concat hnames]

/-- What data shows below a node that shows itself shows itself too. -/
theorem ShowsBelow.shows (h : t.Linked) {path : DataPath} (hupper : t.Shows above upper path)
    (hs : t.ShowsBelow above place node) :
    t.Shows place node ⟨path.text ++ "/" ++ node.name⟩ := by
  obtain rfl := hupper.eq_dataPath h
  have htext := h.text_dataPath_of_showsBelow hs hupper.text_ne_empty
  refine ⟨hs.node?, hs.not_wrapper, ?_, ?_⟩
  · rw [h.pathOf_eq hs.node?, ← htext]
  · simp [String.append_eq_empty_iff]

end Tree

namespace Index

variable {t : Tree} {index : Index}

/-- No two nodes that data shows below one that shows itself have one name: they would have one path. -/
theorem nodup_names_visible (h : t.Linked) (hindex : build t = .ok index) {place : Nat} {node : Node}
    {path : DataPath} (hs : t.Shows place node path) : (t.names (t.visible node)).Nodup := by
  rw [Tree.names, List.Nodup, List.pairwise_filterMap]
  refine (h.nodup_visible hs.node?).imp_of_mem ?_
  intro i j hi hj hne a ha b hb hab
  obtain ⟨m, hm⟩ := (h.mem_visible_iff hs.node?).mp hi
  obtain ⟨n, hn⟩ := (h.mem_visible_iff hs.node?).mp hj
  rw [hm.node?, Option.map_some, Option.some.injEq] at ha
  rw [hn.node?, Option.map_some, Option.some.injEq] at hb
  -- Both show themselves, and with one name they do so under one path.
  have hm' := hm.shows h hs
  have hn' := hn.shows h hs
  rw [ha, hab, ← hb] at hm'
  exact hne ((exists_build_iff h).mp ⟨index, hindex⟩ i j m n _ hm' hn')

/-- **The children of an element are the elements below it.** Their names do not repeat. Behind the path
of the element and a slash, each name is the path of an element with that name, whose node has the node of
the element as its nearest ancestor that is no wrapper. All elements of such nodes are among them, and a leaf
or a leaf list has none. -/
theorem build_children (made : t.Reachable) (hindex : build t = .ok index) {key : String} {e : Element}
    (he : index.elements[key]? = some e) :
    ∃ place, e.node = some place ∧ e.children.Nodup ∧
      (∀ name ∈ e.children, ∃ (e' : Element) (place' : Nat),
        index.elements[e.path.text ++ "/" ++ name]? = some e' ∧ e'.name = name ∧
        e'.node = some place' ∧ t.shownAbove? place' = some place) ∧
      (∀ (key' : String) (e' : Element) place', index.elements[key']? = some e' → e'.node = some place' →
        t.shownAbove? place' = some place → e'.name ∈ e.children) ∧
      (e.kind = .leaf ∨ e.kind = .leafList → e.children = []) := by
  have h := made.linked
  obtain ⟨place, node, path, hs, _, rfl⟩ := (getElem?_eq_some_iff h hindex).mp he
  refine ⟨place, rfl, nodup_names_visible h hindex hs, ?_, ?_, ?_⟩
  · intro name hname
    obtain ⟨place', node', hbelow, rfl⟩ := (h.mem_names_visible_iff hs.node?).mp hname
    have hs' := hbelow.shows h hs
    have hget := (getElem?_eq_some_iff h hindex).mpr ⟨place', node', _, hs', rfl, rfl⟩
    have habove := (h.through_iff hs.node? hs.not_wrapper hbelow.node?).mp hbelow.through
    exact ⟨_, place', hget, rfl, rfl, habove⟩
  · intro key' e' place' he' hplace' habove
    obtain ⟨_, node', path', hs', _, rfl⟩ := (getElem?_eq_some_iff h hindex).mp he'
    obtain rfl := Option.some.inj hplace'
    have hthrough := (h.through_iff hs.node? hs.not_wrapper hs'.node?).mpr habove
    exact (h.mem_names_visible_iff hs.node?).mpr ⟨_, node', ⟨hthrough, hs'.node?, hs'.not_wrapper⟩, rfl⟩
  · intro hkind
    have hchildren := h.terminal hs.node? (node.kind.isTerminal_iff.mpr hkind)
    show t.names (t.visible node) = []
    rw [h.visible_eq hs.node?, hchildren]
    rfl

/-- The leaf behind a choice is a child of the container, and found behind the path of that. -/
theorem build_children_interfaces :
    Tree.interfaces.Reachable ∧ ∃ index e, build Tree.interfaces = .ok index ∧
      index.elements["interfaces"]? = some e ∧ "mtu" ∈ e.children ∧
      ∃ e', index.elements[e.path.text ++ "/" ++ "mtu"]? = some e' ∧ e'.name = "mtu" := by
  have made := Tree.interfaces_reachable
  obtain ⟨index, hindex⟩ := exists_ok_of_isSome (x := build Tree.interfaces) rfl
  have hupper : Tree.interfaces.Shows 1
      { name := "interfaces", kind := .container, parent := some 0, children := #[2, 3] }
      ⟨"interfaces"⟩ := ⟨rfl, rfl, by decide +kernel, by decide⟩
  have hleaf : Tree.interfaces.Shows 5
      { name := "mtu", kind := .leaf, typeName := some "uint16", parent := some 4 }
      ⟨"interfaces/mtu"⟩ := ⟨rfl, rfl, by decide +kernel, by decide⟩
  have he := (getElem?_eq_some_iff made.linked hindex).mpr ⟨1, _, _, hupper, rfl, rfl⟩
  have he' := (getElem?_eq_some_iff made.linked hindex).mpr ⟨5, _, _, hleaf, rfl, rfl⟩
  obtain ⟨place, hplace, _, hforth, hback, _⟩ := build_children made hindex he
  obtain rfl := Option.some.inj hplace
  have hmem := hback _ _ 5 he' rfl (by decide +kernel)
  obtain ⟨e', _, hget, hname, _⟩ := hforth "mtu" hmem
  exact ⟨made, index, _, hindex, he, hmem, e', hget, hname⟩

end Index

end SchemaCatalog
