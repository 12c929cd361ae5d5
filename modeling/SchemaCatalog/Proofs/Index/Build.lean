import SchemaCatalog.Index
import SchemaCatalog.Proofs.Tree.Lineage
import Mathlib.Data.List.Basic
import Mathlib.Data.List.Nodup
import Std.Data.TreeMap.Lemmas

/-!
# Building an index

`Tree.elements` are the elements of the nodes that have a path of their own, in the order of the
nodes. On a linked tree `Index.build` enters just these, one after the other
(`build_eq_ofElements`).

`ofElements` is a fold whose invariant `Holds index es` says that `index` has the elements `es`, each
under its path. `ofElements_cases` follows: either all elements are held in the end, or the first one
whose path an earlier element has is the end of the way.
-/

namespace SchemaCatalog

namespace Tree

/-- The element of the node at a place, if it has a path of its own: it is no wrapper, and its path
is not empty. -/
def element? (t : Tree) (place : Nat) : Option Element :=
  match t.node? place with
  | none => none
  | some node =>
    if (t.dataPath place).isEmpty || node.kind.isWrapper then none
    else some (.ofNode t place node (t.dataPath place))

/-- The elements of a tree in the order of their nodes. -/
def elements (t : Tree) : List Element := (List.range t.size).filterMap t.element?

end Tree

namespace Index

/-- Enters an element under its path, unless there is one. -/
def add (schema : String) (index : Index) (e : Element) : Except Error Index :=
  match index.elements[e.path.text]? with
  | some earlier => .error (.build schema (.duplicatePath e.path.text earlier.kind earlier.name))
  | none => .ok ⟨index.elements.insert e.path.text e⟩

/-- The index of elements, which have to differ in their paths. -/
def ofElements (schema : String) (es : List Element) : Except Error Index :=
  es.foldlM (add schema) empty

/-! ### The elements that are entered -/

theorem enter_eq {t : Tree} (h : t.Linked) (index : Index) (place : Nat) :
    enter t index place =
      match t.element? place with
      | some e => add t.uniqueName index e
      | none => .ok index := by
  unfold enter Tree.element?
  cases hn : t.node? place with
  | none => rfl
  | some node =>
    simp only [h.pathOf_eq hn]
    split_ifs with hskip
    · rfl
    · rfl

/-- Building the index of a linked tree is entering its elements. -/
theorem build_eq_ofElements {t : Tree} (h : t.Linked) :
    build t = ofElements t.uniqueName t.elements := by
  rw [build, ofElements, Tree.elements, List.foldlM_filterMap]
  congr 1
  funext index place
  rw [enter_eq h]
  cases t.element? place <;> rfl

/-! ### The invariant of the fold -/

/-- The index has these elements, each under its path. -/
structure Holds (index : Index) (es : List Element) : Prop where
  lookup : ∀ path e, index.elements[path]? = some e ↔ e ∈ es ∧ e.path.text = path
  nodup : (es.map fun e => e.path.text).Nodup
  size : index.size = es.length

theorem holds_empty : Holds empty [] where
  lookup path e := by simp [empty]
  nodup := List.nodup_nil
  size := rfl

/-- An index has an element under the paths of its elements only. -/
theorem Holds.lookup_eq_none {index : Index} {es : List Element} (h : index.Holds es) {path : String}
    (hp : path ∉ es.map fun e => e.path.text) : index.elements[path]? = none := by
  cases he : index.elements[path]? with
  | none => rfl
  | some e =>
    obtain ⟨hmem, hpath⟩ := (h.lookup path e).mp he
    exact absurd (List.mem_map.mpr ⟨e, hmem, hpath⟩) hp

/-- An element with a new path is entered behind the others. -/
theorem Holds.add_new {index : Index} {es : List Element} (h : index.Holds es) (schema : String)
    {e : Element} (hp : e.path.text ∉ es.map fun e => e.path.text) :
    ∃ index', add schema index e = .ok index' ∧ index'.Holds (es ++ [e]) := by
  have hnone := h.lookup_eq_none hp
  refine ⟨⟨index.elements.insert e.path.text e⟩, ?_, ?_, ?_, ?_⟩
  · rw [add, hnone]
  · intro path e'
    show (index.elements.insert e.path.text e)[path]? = some e' ↔ _
    rw [Std.TreeMap.getElem?_insert, List.mem_append, List.mem_singleton]
    by_cases hpath : e.path.text = path
    · subst hpath
      rw [if_pos (Std.ReflCmp.compare_self), Option.some.injEq]
      constructor
      · rintro rfl
        exact ⟨.inr rfl, rfl⟩
      · rintro ⟨hmem | rfl, heq⟩
        · exact absurd (List.mem_map.mpr ⟨e', hmem, heq⟩) hp
        · rfl
    · rw [if_neg (fun hc => hpath (Std.LawfulEqCmp.eq_of_compare hc)), h.lookup path e']
      constructor
      · rintro ⟨hmem, heq⟩
        exact ⟨.inl hmem, heq⟩
      · rintro ⟨hmem | rfl, heq⟩
        · exact ⟨hmem, heq⟩
        · exact absurd heq hpath
  · rw [List.map_append, List.nodup_append]
    refine ⟨h.nodup, List.nodup_singleton _, ?_⟩
    intro a ha b hb heq
    rw [List.map_singleton, List.mem_singleton] at hb
    exact hp (hb ▸ heq ▸ ha)
  · show (index.elements.insert e.path.text e).size = _
    have hc : index.elements.contains e.path.text = false := by
      rw [Std.TreeMap.contains_eq_isSome_getElem?, hnone]
      rfl
    rw [Std.TreeMap.size_insert, hc, List.length_append, List.length_singleton, ← h.size]
    rfl

/-- An element whose path an earlier one has is refused. -/
theorem Holds.add_repeated {index : Index} {es : List Element} (h : index.Holds es)
    (schema : String) {e earlier : Element} (hmem : earlier ∈ es) (hpath : earlier.path = e.path) :
    add schema index e =
      .error (.build schema (.duplicatePath e.path.text earlier.kind earlier.name)) := by
  have hl := (h.lookup e.path.text earlier).mpr ⟨hmem, by rw [hpath]⟩
  rw [add, hl]

/-- Entering elements into an index of others: all are held in the end, or one of them comes after an
element with its path, before which all paths differ. -/
theorem Holds.foldlM_cases (schema : String) :
    ∀ (rest es : List Element) (index : Index), index.Holds es →
      (∃ index', rest.foldlM (add schema) index = .ok index' ∧ index'.Holds (es ++ rest)) ∨
        ∃ before e after earlier, rest = before ++ e :: after ∧
          ((es ++ before).map fun e => e.path.text).Nodup ∧
          earlier ∈ es ++ before ∧ earlier.path = e.path ∧
          rest.foldlM (add schema) index =
            .error (.build schema (.duplicatePath e.path.text earlier.kind earlier.name)) := by
  intro rest
  -- The elements held grow at their end by what the rest loses at its start.
  induction rest with
  | nil =>
    intro es index h
    exact .inl ⟨index, rfl, by rwa [List.append_nil]⟩
  | cons e rest ih =>
    intro es index h
    rw [List.foldlM_cons]
    by_cases hp : e.path.text ∈ es.map fun e => e.path.text
    · -- Here it ends: `e` is the first to repeat a path, as those before it were entered.
      obtain ⟨earlier, hmem, heq⟩ := List.mem_map.mp hp
      have hpath : earlier.path = e.path := by
        cases hx : earlier.path
        cases hy : e.path
        rw [hx, hy] at heq
        exact congrArg DataPath.mk heq
      refine .inr ⟨[], e, rest, earlier, rfl, by rw [List.append_nil]; exact h.nodup, ?_, hpath, ?_⟩
      · rwa [List.append_nil]
      · rw [h.add_repeated schema hmem hpath]
        rfl
    · obtain ⟨index', hadd, hholds⟩ := h.add_new schema hp
      rw [hadd]
      rcases ih (es ++ [e]) index' hholds with ⟨last, hfold, hlast⟩ | hstop
      · rw [List.append_assoc, List.singleton_append] at hlast
        exact .inl ⟨last, hfold, hlast⟩
      · obtain ⟨before, e', after, earlier, rfl, hnodup, hmem, hpath, hfold⟩ := hstop
        rw [List.append_assoc, List.singleton_append] at hnodup hmem
        exact .inr ⟨e :: before, e', after, earlier, rfl, hnodup, hmem, hpath, hfold⟩

/-- What the index of elements is: it holds all of them, or the first one with the path of an earlier
one is told. -/
theorem ofElements_cases (schema : String) (es : List Element) :
    (∃ index, ofElements schema es = .ok index ∧ index.Holds es) ∨
      ∃ before e after earlier, es = before ++ e :: after ∧
        (before.map fun e => e.path.text).Nodup ∧ earlier ∈ before ∧ earlier.path = e.path ∧
        ofElements schema es =
          .error (.build schema (.duplicatePath e.path.text earlier.kind earlier.name)) :=
  holds_empty.foldlM_cases schema es [] empty

/-- An index of elements holds them. -/
theorem holds_of_ofElements {schema : String} {es : List Element} {index : Index}
    (h : ofElements schema es = .ok index) : index.Holds es := by
  rcases ofElements_cases schema es with ⟨index', hok, hholds⟩ | ⟨_, _, _, _, _, _, _, _, herr⟩
  · rw [hok] at h
    exact Except.ok.inj h ▸ hholds
  · rw [herr] at h
    cases h

/-- There is an index of elements if their paths differ. -/
theorem exists_ofElements_iff (schema : String) (es : List Element) :
    (∃ index, ofElements schema es = .ok index) ↔ (es.map fun e => e.path.text).Nodup := by
  constructor
  · rintro ⟨index, h⟩
    exact (holds_of_ofElements h).nodup
  · intro hnodup
    rcases ofElements_cases schema es with
      ⟨index, hok, _⟩ | ⟨before, e, after, earlier, rfl, _, hmem, hpath, _⟩
    · exact ⟨index, hok⟩
    · rw [List.map_append, List.nodup_append] at hnodup
      refine absurd rfl (hnodup.2.2 e.path.text ?_ e.path.text ?_)
      · exact List.mem_map.mpr ⟨earlier, hmem, by rw [hpath]⟩
      · exact List.mem_map.mpr ⟨e, List.mem_cons_self, rfl⟩

end Index

end SchemaCatalog
