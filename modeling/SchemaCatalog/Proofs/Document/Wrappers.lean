import SchemaCatalog.Proofs.Document.Elements
import SchemaCatalog.Proofs.Index.Alike

/-!
# Wrappers cannot be seen

`Item.strip` puts what a wrapper holds in its place, at any depth. Module files that can be merged can
be merged without their wrappers too, and no caller can tell the two schemas apart, the number of
nodes aside (`Document.wrappers_invisible`): their indexes fail with one error, or are alike.

Both trees have the elements of their items (`Document.elements_of_mergeAll`), and taking the wrappers
out of items changes neither their elements nor what the data shows for them.
-/

namespace SchemaCatalog

namespace Item

mutual

/-- An item without the wrappers in it; if it is a wrapper itself, what it holds. -/
def strip : Item → List Item
  | mk name kind typeName description keys items =>
    if kind.isWrapper then stripAll items
    else [mk name kind typeName description keys (stripAll items)]

/-- Items with what wrappers hold in the place of the wrappers. -/
def stripAll : List Item → List Item
  | [] => []
  | i :: rest => strip i ++ stripAll rest

end

theorem shownAll_append (items items' : List Item) :
    shownAll (items ++ items') = shownAll items ++ shownAll items' := by
  induction items with
  | nil => rfl
  | cons i rest ih => rw [List.cons_append, shownAll, shownAll, ih, List.append_assoc]

theorem elementsAll_append (above : List String) (items items' : List Item) :
    elementsAll above (items ++ items') = elementsAll above items ++ elementsAll above items' := by
  induction items with
  | nil => rfl
  | cons i rest ih => rw [List.cons_append, elementsAll, elementsAll, ih, List.append_assoc]

theorem stripAll_append (items items' : List Item) :
    stripAll (items ++ items') = stripAll items ++ stripAll items' := by
  induction items with
  | nil => rfl
  | cons i rest ih => rw [List.cons_append, stripAll, stripAll, ih, List.append_assoc]

mutual

/-- The data shows the same for an item without wrappers. -/
theorem shownAll_strip : ∀ i : Item, shownAll i.strip = i.shown
  | mk name kind typeName description keys items => by
    rw [strip, shown]
    cases hw : kind.isWrapper with
    | true => exact shownAll_stripAll items
    | false =>
      rw [if_neg Bool.false_ne_true, if_neg Bool.false_ne_true, shownAll, shown, hw, shownAll]
      rfl

/-- The data shows the same for items without wrappers. -/
theorem shownAll_stripAll : ∀ items : List Item, shownAll (stripAll items) = shownAll items
  | [] => rfl
  | i :: rest => by
    rw [stripAll, shownAll_append, shownAll_strip i, shownAll_stripAll rest, shownAll]

end

mutual

/-- An item without wrappers has the same elements. -/
theorem elementsAll_strip (above : List String) :
    ∀ i : Item, elementsAll above i.strip = i.elements above
  | mk name kind typeName description keys items => by
    rw [strip, elements]
    cases hw : kind.isWrapper with
    | true => exact elementsAll_stripAll above items
    | false =>
      rw [if_neg Bool.false_ne_true, if_neg Bool.false_ne_true, elementsAll, elements, hw,
        if_neg Bool.false_ne_true, elementsAll, List.append_nil, elementsAll_stripAll, ownElement,
        ownElement, shownAll_stripAll]

/-- Items without wrappers have the same elements. -/
theorem elementsAll_stripAll (above : List String) :
    ∀ items : List Item, elementsAll above (stripAll items) = elementsAll above items
  | [] => rfl
  | i :: rest => by
    rw [stripAll, elementsAll_append, elementsAll_strip above i, elementsAll_stripAll above rest,
      elementsAll]

end

mutual

/-- A proper item is proper without wrappers. -/
theorem properAll_strip : ∀ i : Item, i.Proper → ProperAll i.strip
  | mk name kind typeName description keys items => by
    intro h
    rw [Proper] at h
    obtain ⟨hroot, hleaf, hproper⟩ := h
    have hinside := properAll_stripAll items hproper
    rw [strip]
    split_ifs
    · exact hinside
    · rw [ProperAll, Proper]
      refine ⟨⟨hroot, ?_, hinside⟩, trivial⟩
      intro ht
      rw [hleaf ht, stripAll]

/-- Proper items are proper without wrappers. -/
theorem properAll_stripAll : ∀ items : List Item, ProperAll items → ProperAll (stripAll items)
  | [] => by
    intro _
    exact trivial
  | i :: rest => by
    intro h
    rw [ProperAll] at h
    rw [stripAll, properAll_append]
    exact ⟨properAll_strip i h.1, properAll_stripAll rest h.2⟩

end

end Item

namespace Document

/-- A module file without wrappers. -/
def strip (d : Document) : Document := ⟨d.module, Item.stripAll d.items⟩

theorem flatMap_items_strip (documents : List Document) :
    (documents.map strip).flatMap items = Item.stripAll (documents.flatMap items) := by
  induction documents with
  | nil => rfl
  | cons d rest ih =>
    rw [List.map_cons, List.flatMap_cons, List.flatMap_cons, Item.stripAll_append, ih]
    rfl

/-- Module files that can be merged can be merged without wrappers. -/
theorem exists_mergeAll_strip {key : String} {documents : List Document} {t : Tree}
    (h : mergeAll (.new key) documents = .ok t) :
    ∃ t', mergeAll (.new key) (documents.map strip) = .ok t' := by
  obtain ⟨hproper, _⟩ := mergeAll_new_eq_ok_iff.mp h
  have hstripped := Item.properAll_stripAll _ hproper
  rw [← flatMap_items_strip] at hstripped
  exact ⟨_, mergeAll_new_eq_ok_iff.mpr ⟨hstripped, rfl⟩⟩

/-- The indexes of merged module files with and without wrappers fail with one error, or are alike. -/
theorem build_strip_alike {key : String} {documents : List Document} {t t' : Tree}
    (h : mergeAll (.new key) documents = .ok t)
    (h' : mergeAll (.new key) (documents.map strip) = .ok t') :
    (∃ error, Index.build t = .error error ∧ Index.build t' = .error error) ∨
      ∃ index index', Index.build t = .ok index ∧ Index.build t' = .ok index' ∧
        index.Alike index' := by
  -- An index is made from the elements, and these do not tell wrappers.
  have helements : t.elements.map Element.forgetNode = t'.elements.map Element.forgetNode := by
    rw [elements_of_mergeAll h, elements_of_mergeAll h', flatMap_items_strip,
      Item.elementsAll_stripAll]
  rw [Index.build_eq_ofElements (reachable_mergeAll h).linked,
    Index.build_eq_ofElements (reachable_mergeAll h').linked, uniqueName_of_mergeAll h,
    uniqueName_of_mergeAll h']
  exact Index.Alike.of_ofElements key helements

open Rpc in
/-- **Wrappers cannot be seen.** If module files can be merged, they can be merged without their
wrappers. The two indexes fail with one error then, or both are there: with the same paths, under each
of them one element up to the place of its node, and such that calls about the two schemas have the
same results, but for the number of nodes in the details. -/
theorem wrappers_invisible {key : String} {documents : List Document} {t : Tree}
    (merged : mergeAll (.new key) documents = .ok t) :
    ∃ t', mergeAll (.new key) (documents.map strip) = .ok t' ∧
      ((∃ error, Index.build t = .error error ∧ Index.build t' = .error error) ∨
        ∃ index index', Index.build t = .ok index ∧ Index.build t' = .ok index' ∧
          index.paths = index'.paths ∧
          (∀ path : String, index.elements[path]?.map Element.forgetNode =
            index'.elements[path]?.map Element.forgetNode) ∧
          ∀ (c c' : Catalog) (id : Identity) (params : Json.Value), identityParam params = .ok id →
            c.get id = .ok ⟨id, t, index⟩ → c'.get id = .ok ⟨id, t', index'⟩ →
            lookUp c params .getElement = lookUp c' params .getElement ∧
            lookUp c params .expandPath = lookUp c' params .expandPath ∧
            ∃ d : Details,
              lookUp c params .getDetails =
                .ok (Details.codec.toValue { d with nodeCount := t.size }) ∧
              lookUp c' params .getDetails =
                .ok (Details.codec.toValue { d with nodeCount := t'.size })) := by
  obtain ⟨t', merged'⟩ := exists_mergeAll_strip merged
  refine ⟨t', merged', ?_⟩
  rcases build_strip_alike merged merged' with herror | ⟨index, index', hindex, hindex', halike⟩
  · exact .inl herror
  · refine .inr ⟨index, index', hindex, hindex', halike.paths_eq, halike, ?_⟩
    intro c c' id params hid hc hc'
    refine ⟨?_, ?_, ?_⟩
    · exact lookUp_getElement_of_alike halike hid hc hc'
    · exact lookUp_expandPath_of_alike halike hid hc hc'
    · exact lookUp_getDetails_of_alike halike hid hc hc'

/-- A module file of a system whose mode is a choice with one case, and of a choice without any. -/
def system : Document :=
  ⟨"system", [
    .mk "system" .container none none [] [
      .mk "mode" .choice none none [] [
        .mk "fast" .case none none [] [.mk "speed" .leaf (some "uint32") none [] []]]],
    .mk "extension" .choice none none [] []]⟩

/-- The tree of a system with and without its wrappers, and the paths that both show. -/
theorem wrappers_invisible_system :
    ∃ t t' index index', mergeAll (.new "test@x@1") [system] = .ok t ∧ t.size = 6 ∧
      mergeAll (.new "test@x@1") ([system].map strip) = .ok t' ∧ t'.size = 3 ∧
      Index.build t = .ok index ∧ Index.build t' = .ok index' ∧
      index.paths = index'.paths ∧ index'.paths = [⟨"system"⟩, ⟨"system/speed"⟩] := by
  have hsize : ((mergeAll (.new "test@x@1") [system]).toOption.map Tree.size) = some 6 := rfl
  have hsize' : ((mergeAll (.new "test@x@1") ([system].map strip)).toOption.map Tree.size) = some 3 :=
    rfl
  have hpaths : ((mergeAll (.new "test@x@1") ([system].map strip)).toOption.bind fun t =>
      (Index.build t).toOption.map Index.paths) = some [⟨"system"⟩, ⟨"system/speed"⟩] := by
    decide +kernel
  cases h : mergeAll (.new "test@x@1") [system] with
  | error e =>
    rw [h] at hsize
    cases hsize
  | ok t =>
    obtain ⟨t', h', hbuild⟩ := wrappers_invisible h
    rw [h'] at hsize' hpaths
    rw [h] at hsize
    rcases hbuild with ⟨error, _, herror⟩ | ⟨index, index', hindex, hindex', hsame, _⟩
    · have hpaths : (Index.build t').toOption.map Index.paths = _ := hpaths
      rw [herror] at hpaths
      cases hpaths
    · have hpaths : (Index.build t').toOption.map Index.paths = _ := hpaths
      rw [hindex'] at hpaths
      exact ⟨t, t', index, index', rfl, Option.some.inj hsize, h', Option.some.inj hsize', hindex,
        hindex', hsame, Option.some.inj hpaths⟩

end Document

end SchemaCatalog
