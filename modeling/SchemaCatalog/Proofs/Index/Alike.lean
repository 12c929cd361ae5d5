import SchemaCatalog.Proofs.Index.Build
import SchemaCatalog.Proofs.Rpc.LookUp

/-!
# Indexes that look alike

Two indexes are `Alike` if they have the same elements under the same paths, the places of the nodes
aside, which no caller is told. Elements that differ in these places only have indexes that are alike,
or one error (`Alike.of_ofElements`), and calls about one schema cannot tell alike indexes apart, the
number of nodes aside (`lookUp_getElement_of_alike`, `lookUp_expandPath_of_alike`,
`lookUp_getDetails_of_alike`).
-/

namespace SchemaCatalog

namespace Index

/-- Two indexes have the same elements under the same paths, up to the places of the nodes. -/
def Alike (a b : Index) : Prop :=
  ∀ path : String, a.elements[path]?.map Element.forgetNode = b.elements[path]?.map Element.forgetNode

variable {a b : Index}

/-! ### What alike indexes have in common -/

/-- Two indexes that are alike are one when the places of the nodes are left out. -/
theorem Alike.equiv (h : a.Alike b) :
    (a.elements.map fun _ e => e.forgetNode).Equiv (b.elements.map fun _ e => e.forgetNode) := by
  apply Std.TreeMap.Equiv.of_forall_constGet?_eq
  intro path
  rw [Std.TreeMap.getElem?_map, Std.TreeMap.getElem?_map]
  exact h path

theorem Alike.paths_eq (h : a.Alike b) : a.paths = b.paths := by
  have hkeys := h.equiv.keys_eq
  rw [Std.TreeMap.keys_map, Std.TreeMap.keys_map] at hkeys
  rw [paths, paths, hkeys]

theorem Alike.size_eq (h : a.Alike b) : a.size = b.size := by
  have hsize := h.equiv.size_eq
  rw [Std.TreeMap.size_map, Std.TreeMap.size_map] at hsize
  exact hsize

theorem Alike.get?_eq (h : a.Alike b) (path : String) :
    (a.get? path).map Element.forgetNode = (b.get? path).map Element.forgetNode :=
  h (DataPath.trim path)

theorem Alike.expand_eq (h : a.Alike b) (lead : String) : a.expand lead = b.expand lead := by
  rw [expand, expand, h.paths_eq]

/-! ### Elements that differ in the places of their nodes -/

/-- Elements that differ in the places of their nodes are entered alike. -/
theorem Alike.add (h : a.Alike b) (schema : String) {e e' : Element}
    (he : e.forgetNode = e'.forgetNode) :
    (∃ error, add schema a e = .error error ∧ add schema b e' = .error error) ∨
      ∃ a' b', add schema a e = .ok a' ∧ add schema b e' = .ok b' ∧ a'.Alike b' := by
  have hpath : e.path = e'.path := (congrArg Element.path he : e.forgetNode.path = e'.forgetNode.path)
  have hold := h e.path.text
  rw [Index.add, Index.add, ← hpath]
  cases ha : a.elements[e.path.text]? with
  | some x =>
    rw [ha] at hold
    obtain ⟨x', hx', hx⟩ := Option.map_eq_some_iff.mp hold.symm
    have hkind : x'.kind = x.kind := (congrArg Element.kind hx : x'.forgetNode.kind = x.forgetNode.kind)
    have hname : x'.name = x.name := (congrArg Element.name hx : x'.forgetNode.name = x.forgetNode.name)
    rw [hx']
    refine .inl ⟨_, rfl, ?_⟩
    dsimp only
    rw [hkind, hname]
  | none =>
    rw [ha] at hold
    have hb : b.elements[e.path.text]? = none := Option.map_eq_none_iff.mp hold.symm
    rw [hb]
    refine .inr ⟨_, _, rfl, rfl, ?_⟩
    intro path
    show ((a.elements.insert e.path.text e)[path]?).map _ =
      ((b.elements.insert e.path.text e')[path]?).map _
    rw [Std.TreeMap.getElem?_insert, Std.TreeMap.getElem?_insert]
    split_ifs
    · rw [Option.map_some, Option.map_some, he]
    · exact h path

/-- Lists of elements that differ in the places of the nodes only are entered alike. -/
theorem Alike.foldlM_add (schema : String) :
    ∀ (es es' : List Element) {a b : Index}, a.Alike b →
      es.map Element.forgetNode = es'.map Element.forgetNode →
      (∃ error, es.foldlM (Index.add schema) a = .error error ∧
        es'.foldlM (Index.add schema) b = .error error) ∨
      ∃ a' b', es.foldlM (Index.add schema) a = .ok a' ∧
        es'.foldlM (Index.add schema) b = .ok b' ∧ a'.Alike b' := by
  intro es
  induction es with
  | nil =>
    intro es' a b h hes
    obtain rfl := List.map_eq_nil_iff.mp hes.symm
    exact .inr ⟨a, b, rfl, rfl, h⟩
  | cons e es ih =>
    intro es' a b h hes
    obtain ⟨e', es', rfl, he, hes⟩ := List.map_eq_cons_iff.mp hes.symm
    rw [List.foldlM_cons, List.foldlM_cons]
    rcases h.add schema he.symm with ⟨error, ha, hb⟩ | ⟨a', b', ha, hb, hnext⟩
    · rw [ha, hb]
      exact .inl ⟨error, rfl, rfl⟩
    · rw [ha, hb]
      exact ih es' hnext hes.symm

/-- **Elements that differ in the places of their nodes only** have one error, or indexes that are
alike. -/
theorem Alike.of_ofElements (schema : String) {es es' : List Element}
    (h : es.map Element.forgetNode = es'.map Element.forgetNode) :
    (∃ error, ofElements schema es = .error error ∧ ofElements schema es' = .error error) ∨
      ∃ a b, ofElements schema es = .ok a ∧ ofElements schema es' = .ok b ∧ a.Alike b :=
  Alike.foldlM_add schema es es' (fun _ => rfl) h

end Index

/-! ### Calls about a schema -/

variable {id : Identity} {t t' : Tree} {a b : Index}

/-- Looking for an element in alike indexes gives one error, or one element up to the place of its
node. -/
theorem Index.Alike.element_eq (h : a.Alike b) (path : String) :
    (Entry.element ⟨id, t, a⟩ path).map Element.forgetNode =
      (Entry.element ⟨id, t', b⟩ path).map Element.forgetNode := by
  have hget := h.get?_eq path
  rw [Entry.element, Entry.element]
  dsimp only
  cases ha : a.get? path with
  | none =>
    rw [ha] at hget
    rw [Option.map_eq_none_iff.mp hget.symm]
  | some e =>
    rw [ha] at hget
    obtain ⟨e', he', heq⟩ := Option.map_eq_some_iff.mp hget.symm
    rw [he']
    exact congrArg Except.ok heq.symm

namespace Rpc

/-- Alike indexes have the same paths at and below another one, or the same error for it. -/
theorem expandEntry_eq_of_alike (h : a.Alike b) (lead : String) :
    expandEntry ⟨id, t, a⟩ lead = expandEntry ⟨id, t', b⟩ lead := by
  have helement : (Entry.element ⟨id, t, a⟩ lead).map Element.forgetNode =
      (Entry.element ⟨id, t', b⟩ lead).map Element.forgetNode := h.element_eq lead
  rw [expandEntry, expandEntry, h.expand_eq lead]
  cases ha : Entry.element ⟨id, t, a⟩ lead with
  | error e =>
    cases hb : Entry.element ⟨id, t', b⟩ lead with
    | error e' =>
      rw [ha, hb] at helement
      rw [Except.error.inj helement]
    | ok x' =>
      rw [ha, hb] at helement
      cases helement
  | ok x =>
    cases hb : Entry.element ⟨id, t', b⟩ lead with
    | error e' =>
      rw [ha, hb] at helement
      cases helement
    | ok x' => rfl

variable {c c' : Catalog} {params : Json.Value}

/-- Asking for an element cannot tell alike indexes apart. -/
theorem lookUp_getElement_of_alike (h : a.Alike b) (hid : identityParam params = .ok id)
    (hc : c.get id = .ok ⟨id, t, a⟩) (hc' : c'.get id = .ok ⟨id, t', b⟩) :
    lookUp c params .getElement = lookUp c' params .getElement := by
  rw [lookUp_getElement c hid, lookUp_getElement c' hid]
  congr 1
  funext path
  have helement : (c.getElement id path).map Element.forgetNode =
      (c'.getElement id path).map Element.forgetNode := by
    rw [Catalog.getElement, Catalog.getElement, hc, hc']
    exact h.element_eq path
  rw [map_toValue, helement, ← map_toValue]

/-- Asking for paths cannot tell alike indexes apart. -/
theorem lookUp_expandPath_of_alike (h : a.Alike b) (hid : identityParam params = .ok id)
    (hc : c.get id = .ok ⟨id, t, a⟩) (hc' : c'.get id = .ok ⟨id, t', b⟩) :
    lookUp c params .expandPath = lookUp c' params .expandPath := by
  rw [lookUp_expandPath c hid, lookUp_expandPath c' hid, hc, hc', ok_bind, ok_bind,
    expandEntry_eq_of_alike h]

/-- The details of alike indexes differ in the number of nodes only. -/
theorem lookUp_getDetails_of_alike (h : a.Alike b) (hid : identityParam params = .ok id)
    (hc : c.get id = .ok ⟨id, t, a⟩) (hc' : c'.get id = .ok ⟨id, t', b⟩) :
    ∃ d : Details,
      lookUp c params .getDetails = .ok (Details.codec.toValue { d with nodeCount := t.size }) ∧
      lookUp c' params .getDetails = .ok (Details.codec.toValue { d with nodeCount := t'.size }) := by
  refine ⟨.ofEntry ⟨id, t, a⟩, ?_, ?_⟩
  · rw [lookUp_getDetails c hid, hc]
    rfl
  · rw [lookUp_getDetails c' hid, hc', Details.ofEntry, h.size_eq, h.paths_eq]
    rfl

end Rpc

end SchemaCatalog
