import SchemaCatalog.Proofs.Index.Build
import Mathlib.Data.Set.Card

/-!
# What an index holds

A node `Shows` itself in the data if it is no wrapper and its path is not empty. The index of a tree
has the elements of these nodes, each under the path of its node, and nothing else; it cannot be
built if two of them have one path, and then names the first such path that comes up
(`Index.build_contents`).
-/

namespace SchemaCatalog

/-- The node at a place is no wrapper, and has a path that is not empty. -/
structure Tree.Shows (t : Tree) (place : Nat) (node : Node) (path : DataPath) : Prop where
  node? : t.node? place = some node
  not_wrapper : node.kind.isWrapper = false
  pathOf : t.pathOf node = .ok path
  text_ne_empty : path.text ≠ ""

/-- An element tells what the node at a place of a tree is, under its path. -/
structure Element.Describes (e : Element) (t : Tree) (place : Nat) (node : Node) (path : DataPath) :
    Prop where
  name : e.name = node.name
  path : e.path = path
  kind : e.kind = node.kind
  typeName : e.typeName = node.typeName
  description : e.description = node.description
  keys : e.keys = node.keys
  children : e.children = t.names (t.visible node)
  childrenCount : e.childrenCount = e.children.length
  node : e.node = some place

theorem Element.describes_iff {e : Element} {t : Tree} {place : Nat} {node : Node}
    {path : DataPath} : e.Describes t place node path ↔ e = .ofNode t place node path := by
  constructor
  · intro h
    obtain ⟨name, path', kind, typeName, description, keys, children, count, node'⟩ := e
    obtain rfl : count = children.length := h.childrenCount
    obtain ⟨rfl, rfl, rfl, rfl, rfl, rfl, rfl, _, rfl⟩ := h
    rfl
  · rintro rfl
    constructor <;> rfl

namespace Tree

variable {t : Tree}

/-- A node shows itself under one path only. -/
theorem Shows.unique {place : Nat} {m n : Node} {p q : DataPath} (hm : t.Shows place m p)
    (hn : t.Shows place n q) : m = n ∧ p = q := by
  obtain rfl := Option.some.inj (hm.node?.symm.trans hn.node?)
  exact ⟨rfl, Except.ok.inj (hm.pathOf.symm.trans hn.pathOf)⟩

theorem Shows.lt_size {place : Nat} {node : Node} {path : DataPath}
    (h : t.Shows place node path) : place < t.size :=
  lt_size_of_node? h.node?

/-- The path of a node is the one that its ancestors give it. -/
theorem Shows.eq_dataPath (h : t.Linked) {place : Nat} {node : Node} {path : DataPath}
    (hs : t.Shows place node path) : path = t.dataPath place :=
  Except.ok.inj (hs.pathOf.symm.trans (h.pathOf_eq hs.node?))

/-! ### The elements of a tree -/

/-- The nodes that have an element are those that show themselves. -/
theorem Linked.element?_eq_some_iff (h : t.Linked) {place : Nat} {e : Element} :
    t.element? place = some e ↔
      ∃ node path, t.Shows place node path ∧ e = .ofNode t place node path := by
  unfold element?
  cases hn : t.node? place with
  | none =>
    constructor
    · intro he
      cases he
    · rintro ⟨node, path, hs, _⟩
      rw [hs.node?] at hn
      cases hn
  | some node =>
    have hpath := h.pathOf_eq hn
    constructor
    · intro he
      dsimp only at he
      split_ifs at he with hskip
      rw [Bool.or_eq_true, not_or, Bool.not_eq_true, Bool.not_eq_true] at hskip
      obtain rfl := Option.some.inj he
      refine ⟨node, t.dataPath place, ⟨hn, hskip.2, hpath, ?_⟩, rfl⟩
      intro htext
      simp [DataPath.isEmpty, htext] at hskip
    · rintro ⟨node', path, hs, rfl⟩
      obtain rfl := Option.some.inj (hs.node?.symm.trans hn)
      obtain rfl := Except.ok.inj (hs.pathOf.symm.trans hpath)
      have hempty : (t.dataPath place).isEmpty = false := by
        rw [DataPath.isEmpty, Bool.eq_false_iff, Ne, String.isEmpty_iff]
        exact hs.text_ne_empty
      dsimp only
      rw [hempty, hs.not_wrapper]
      rfl

theorem Linked.mem_elements_iff (h : t.Linked) {e : Element} :
    e ∈ t.elements ↔ ∃ place node path, t.Shows place node path ∧ e = .ofNode t place node path := by
  rw [elements, List.mem_filterMap]
  constructor
  · rintro ⟨place, _, he⟩
    exact ⟨place, h.element?_eq_some_iff.mp he⟩
  · rintro ⟨place, hs⟩
    have he := h.element?_eq_some_iff.mpr hs
    obtain ⟨_, _, hshows, _⟩ := hs
    exact ⟨place, List.mem_range.mpr hshows.lt_size, he⟩

/-- Elements come in the order of their nodes. -/
theorem Linked.elements_ascending (h : t.Linked) :
    t.elements.Pairwise fun a b => ∀ i j, a.node = some i → b.node = some j → i < j := by
  rw [elements, List.pairwise_filterMap]
  refine List.pairwise_lt_range.imp ?_
  intro i j hlt a ha b hb i' j' hi hj
  obtain ⟨_, _, _, rfl⟩ := h.element?_eq_some_iff.mp ha
  obtain ⟨_, _, _, rfl⟩ := h.element?_eq_some_iff.mp hb
  rw [← Option.some.inj hi, ← Option.some.inj hj]
  exact hlt

/-- Of elements in the order of their nodes, those of earlier nodes come earlier. -/
theorem mem_before_of_lt {before after : List Element} {e e' : Element} {i j : Nat}
    (hasc : (before ++ e :: after).Pairwise fun a b =>
      ∀ i j, a.node = some i → b.node = some j → i < j)
    (he' : e' ∈ before ++ e :: after) (hi : e'.node = some i) (hj : e.node = some j) (hlt : i < j) :
    e' ∈ before := by
  rw [List.pairwise_append] at hasc
  obtain ⟨_, hafter, _⟩ := hasc
  rcases List.mem_append.mp he' with hmem | hmem
  · exact hmem
  · rcases List.mem_cons.mp hmem with rfl | hmem
    · have := Option.some.inj (hi.symm.trans hj)
      omega
    · have := (List.pairwise_cons.mp hafter).1 e' hmem j i hj hi
      omega

/-- The paths of the elements differ if no two nodes show themselves under one path. -/
theorem Linked.nodup_paths_iff (h : t.Linked) :
    (t.elements.map fun e => e.path.text).Nodup ↔
      ∀ i j m n p, t.Shows i m p → t.Shows j n p → i = j := by
  constructor
  · intro hnodup i j m n p hm hn
    have hi := h.mem_elements_iff.mpr ⟨i, m, p, hm, rfl⟩
    have hj := h.mem_elements_iff.mpr ⟨j, n, p, hn, rfl⟩
    have heq := List.inj_on_of_nodup_map hnodup hi hj rfl
    exact Option.some.inj (congrArg Element.node heq)
  · intro hinj
    -- Two elements with one path are those of one node, but they come from different ones.
    rw [List.Nodup, List.pairwise_map]
    refine h.elements_ascending.imp_of_mem ?_
    intro a b ha hb hlt heq
    obtain ⟨i, m, p, hm, rfl⟩ := h.mem_elements_iff.mp ha
    obtain ⟨j, n, q, hn, rfl⟩ := h.mem_elements_iff.mp hb
    have hpq : p = q := by
      cases p
      cases q
      exact congrArg DataPath.mk heq
    subst hpq
    have := hinj i j m n p hm hn
    have := hlt i j rfl rfl
    omega

/-- There are as many elements as nodes that show themselves. -/
theorem Linked.length_elements (h : t.Linked) :
    t.elements.length = {place | ∃ node path, t.Shows place node path}.ncard := by
  have hset : {place | ∃ node path, t.Shows place node path} =
      (((List.range t.size).filter fun place => (t.element? place).isSome).toFinset : Set Nat) := by
    ext place
    rw [Set.mem_ofPred_eq, Finset.mem_coe, List.mem_toFinset, List.mem_filter, List.mem_range]
    constructor
    · rintro ⟨node, path, hs⟩
      refine ⟨hs.lt_size, ?_⟩
      rw [h.element?_eq_some_iff.mpr ⟨node, path, hs, rfl⟩]
      rfl
    · rintro ⟨_, hsome⟩
      obtain ⟨e, he⟩ := Option.isSome_iff_exists.mp hsome
      obtain ⟨node, path, hs, _⟩ := h.element?_eq_some_iff.mp he
      exact ⟨node, path, hs⟩
  rw [hset, Set.ncard_coe_finset, List.toFinset_card_of_nodup (List.nodup_range.filter _), elements,
    List.length_filterMap_eq_countP, List.countP_eq_length_filter]

end Tree

namespace Index

variable {t : Tree} {index : Index}

/-! ### The index of a tree -/

/-- A tree has an index if no two nodes show themselves under one path. -/
theorem exists_build_iff (h : t.Linked) :
    (∃ index, build t = .ok index) ↔ ∀ i j m n p, t.Shows i m p → t.Shows j n p → i = j := by
  rw [build_eq_ofElements h, exists_ofElements_iff, h.nodup_paths_iff]

theorem holds_of_build (h : t.Linked) (hindex : build t = .ok index) : index.Holds t.elements := by
  rw [build_eq_ofElements h] at hindex
  exact holds_of_ofElements hindex

/-- What is found under a key is the element of the node that shows itself there. -/
theorem getElem?_eq_some_iff (h : t.Linked) (hindex : build t = .ok index) {key : String}
    {e : Element} :
    index.elements[key]? = some e ↔
      ∃ place node path, t.Shows place node path ∧ path.text = key ∧
        e = .ofNode t place node path := by
  rw [(holds_of_build h hindex).lookup, h.mem_elements_iff]
  constructor
  · rintro ⟨⟨place, node, path, hs, rfl⟩, hkey⟩
    exact ⟨place, node, path, hs, hkey, rfl⟩
  · rintro ⟨place, node, path, hs, hkey, rfl⟩
    exact ⟨⟨place, node, path, hs, rfl⟩, hkey⟩

/-- The paths of an index are those under which nodes show themselves. -/
theorem mem_paths_iff (h : t.Linked) (hindex : build t = .ok index) {path : DataPath} :
    path ∈ index.paths ↔ ∃ place node, t.Shows place node path := by
  rw [paths, List.mem_map]
  constructor
  · rintro ⟨key, hkey, rfl⟩
    rw [Std.TreeMap.mem_keys, Std.TreeMap.mem_iff_isSome_getElem?,
      Option.isSome_iff_exists] at hkey
    obtain ⟨e, he⟩ := hkey
    obtain ⟨place, node, path, hs, rfl, _⟩ := (getElem?_eq_some_iff h hindex).mp he
    exact ⟨place, node, hs⟩
  · rintro ⟨place, node, hs⟩
    refine ⟨path.text, ?_, rfl⟩
    have he := (getElem?_eq_some_iff h hindex).mpr ⟨place, node, path, hs, rfl, rfl⟩
    rw [Std.TreeMap.mem_keys, Std.TreeMap.mem_iff_isSome_getElem?, he]
    rfl

/-- A text is found if the path that it names is one of the index. -/
theorem ofText_mem_paths_iff (index : Index) (text : String) :
    DataPath.ofText text ∈ index.paths ↔ ∃ e, index.get? text = some e := by
  rw [paths, List.mem_map, get?, ← Option.isSome_iff_exists, ← Std.TreeMap.mem_iff_isSome_getElem?,
    ← Std.TreeMap.mem_keys]
  constructor
  · rintro ⟨key, hkey, heq⟩
    obtain rfl : key = DataPath.trim text := congrArg DataPath.text heq
    exact hkey
  · intro hkey
    exact ⟨_, hkey, rfl⟩

theorem size_of_build (h : t.Linked) (hindex : build t = .ok index) :
    index.size = {place | ∃ node path, t.Shows place node path}.ncard := by
  rw [(holds_of_build h hindex).size, h.length_elements]

/-- What is found at a text describes the node whose path the text is without outer slashes. -/
theorem get?_eq_some_iff (h : t.Linked) (hindex : build t = .ok index) {text : String}
    {e : Element} :
    index.get? text = some e ↔
      ∃ place node path, t.Shows place node path ∧ path.text = DataPath.trim text ∧
        e.Describes t place node path := by
  rw [get?, getElem?_eq_some_iff h hindex]
  simp only [Element.describes_iff]

/-- A tree without an index has a first node that shows itself under the path of an earlier one, and
the error tells that path with the earliest node there. -/
theorem repeated_of_build_error (h : t.Linked) {error : Error} (herror : build t = .error error) :
    ∃ i j m n p, t.Shows i m p ∧ t.Shows j n p ∧ i < j ∧
      (∀ i' j' m' n' p', i' < j' → j' < j → t.Shows i' m' p' → ¬ t.Shows j' n' p') ∧
      (∀ i' m', t.Shows i' m' p → i ≤ i') ∧
      error = .build t.uniqueName (.duplicatePath p.text m.kind m.name) := by
  rw [build_eq_ofElements h] at herror
  rcases ofElements_cases t.uniqueName t.elements with
    ⟨index, hok, _⟩ | ⟨before, e, after, earlier, hsplit, hnodup, hmem, hpath, hstop⟩
  · rw [hok] at herror
    cases herror
  have hasc := h.elements_ascending
  have hin : ∀ {e'}, e' ∈ before ++ e :: after ↔ _ := hsplit ▸ h.mem_elements_iff
  rw [hsplit] at hasc
  obtain ⟨i, m, p, hm, rfl⟩ := hin.mp (List.mem_append_left _ hmem)
  obtain ⟨j, n, q, hn, rfl⟩ := hin.mp (List.mem_append_right _ List.mem_cons_self)
  obtain rfl : p = q := hpath
  -- The nodes before the repeating one are those of the elements that were entered.
  have hbefore : ∀ {i' m' p'}, t.Shows i' m' p' → i' < j → Element.ofNode t i' m' p' ∈ before := by
    intro i' m' p' hs hlt
    exact Tree.mem_before_of_lt hasc (hin.mpr ⟨i', m', p', hs, rfl⟩) rfl rfl hlt
  have hinj : ∀ {i' j' m' n' p'}, i' < j → j' < j → t.Shows i' m' p' → t.Shows j' n' p' →
      i' = j' := by
    intro i' j' m' n' p' hi hj hm' hn'
    have heq := List.inj_on_of_nodup_map hnodup (hbefore hm' hi) (hbefore hn' hj) rfl
    exact Option.some.inj (congrArg Element.node heq)
  have hij : i < j :=
    (List.pairwise_append.mp hasc).2.2 _ hmem _ List.mem_cons_self i j rfl rfl
  refine ⟨i, j, m, n, p, hm, hn, hij, ?_, ?_, ?_⟩
  · intro i' j' m' n' p' hlt hj hm' hn'
    have := hinj (Nat.lt_trans hlt hj) hj hm' hn'
    omega
  · intro i' m' hm'
    by_contra hlt
    have := hinj (by omega) hij hm' hm
    omega
  · rw [hstop] at herror
    exact (Except.error.inj herror).symm

/-- **What an index holds.** It can be built if no two nodes show themselves under one path. It has
the elements of these nodes then, each under its path. If it cannot be built, the error names the
path, with the first node that shows itself there, of the first node that repeats one. -/
theorem build_contents (made : t.Reachable) :
    ((∃ index, build t = .ok index) ↔
      ∀ i j m n p, t.Shows i m p → t.Shows j n p → i = j) ∧
    (∀ index, build t = .ok index →
      (∀ p, p ∈ index.paths ↔ ∃ place node, t.Shows place node p) ∧
      index.size = {place | ∃ node path, t.Shows place node path}.ncard ∧
      ∀ s e, index.get? s = some e ↔
        ∃ place node path, t.Shows place node path ∧ path.text = DataPath.trim s ∧
          e.Describes t place node path) ∧
    ∀ error, build t = .error error →
      ∃ i j m n p, t.Shows i m p ∧ t.Shows j n p ∧ i < j ∧
        (∀ i' j' m' n' p', i' < j' → j' < j → t.Shows i' m' p' → ¬ t.Shows j' n' p') ∧
        (∀ i' m', t.Shows i' m' p → i ≤ i') ∧
        error = .build t.uniqueName (.duplicatePath p.text m.kind m.name) := by
  have h := made.linked
  refine ⟨exists_build_iff h, ?_, ?_⟩
  · intro index hindex
    refine ⟨fun p => mem_paths_iff h hindex, size_of_build h hindex, ?_⟩
    intro s e
    exact get?_eq_some_iff h hindex
  · intro error herror
    exact repeated_of_build_error h herror

/-- The leaf behind a choice is found under the path without the choice. -/
theorem build_contents_interfaces :
    Tree.interfaces.Reachable ∧ ∃ index, build Tree.interfaces = .ok index ∧
      ∃ e place node path, index.get? "/interfaces/mtu/" = some e ∧
        Tree.interfaces.Shows place node path ∧ path.text = "interfaces/mtu" ∧
        e.Describes Tree.interfaces place node path := by
  refine ⟨Tree.interfaces_reachable, ?_⟩
  cases hindex : build Tree.interfaces with
  | error error =>
    have hok : (build Tree.interfaces).toOption.isSome = true := rfl
    rw [hindex] at hok
    cases hok
  | ok index =>
    have hsome : ((build Tree.interfaces).toOption.bind fun index =>
        index.get? "/interfaces/mtu/").isSome = true := rfl
    rw [hindex] at hsome
    obtain ⟨e, he⟩ := Option.isSome_iff_exists.mp hsome
    obtain ⟨_, _, hget⟩ := (build_contents Tree.interfaces_reachable).2.1 index hindex
    obtain ⟨place, node, path, hs, hpath, hd⟩ := (hget "/interfaces/mtu/" e).mp he
    exact ⟨index, rfl, e, place, node, path, he, hs, hpath, hd⟩

end Index

end SchemaCatalog
