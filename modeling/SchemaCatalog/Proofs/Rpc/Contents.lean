import SchemaCatalog.Proofs.Index.Segments
import SchemaCatalog.Rpc.Details

/-!
# What an entry has to tell

What callers are told of an entry is stated here field by field, from its identity, its tree and the keys of
its index. `Details.Describes` is about the details of an entry, `Index.ListsBelow` about the paths below a
text. Both name lists by their members and their order, which leaves one list only: the one that is computed
(`Details.describes_iff`, `Index.listsBelow_iff`).
-/

namespace SchemaCatalog

/-- Texts that ascend in the order of their bytes and have the same members are the same. -/
theorem Utf8.eq_of_ascending {α : Type} {text : α → String} {xs ys : List α}
    (hxs : xs.Pairwise fun a b => encode (text a) < encode (text b))
    (hys : ys.Pairwise fun a b => encode (text a) < encode (text b)) (h : ∀ a, a ∈ xs ↔ a ∈ ys) :
    xs = ys := by
  simp only [encode_lt_iff] at hxs hys
  have hirrefl : Std.Irrefl fun a b => compare (text a) (text b) = .lt :=
    ⟨fun a => Std.ReflOrd.compare_self.trans_ne nofun⟩
  have hantisymm : Std.Antisymm fun a b => compare (text a) (text b) = .lt :=
    ⟨fun a b hab hba => absurd hab (Std.OrientedCmp.not_lt_of_lt hba)⟩
  exact hxs.eq_of_mem_iff hys h

namespace Index

/-- The paths below a text: the keys that it leads, in the order of their bytes. -/
structure ListsBelow (index : Index) (lead : String) (paths : List DataPath) : Prop where
  ascending : paths.Pairwise fun p q => Utf8.encode p.text < Utf8.encode q.text
  mem_iff : ∀ p, p ∈ paths ↔ p.text ∈ index.elements ∧ DataPath.Leads lead p

theorem listsBelow_expand (index : Index) (lead : String) : index.ListsBelow lead (index.expand lead) where
  ascending := index.paths_ascending.filter _
  mem_iff _ := mem_expand_iff_leads

/-- The paths below a text are those that are computed. -/
theorem listsBelow_iff {index : Index} {lead : String} {paths : List DataPath} :
    index.ListsBelow lead paths ↔ paths = index.expand lead := by
  have hexpand := index.listsBelow_expand lead
  constructor
  · intro h
    exact Utf8.eq_of_ascending h.ascending hexpand.ascending fun p =>
      (h.mem_iff p).trans (hexpand.mem_iff p).symm
  · rintro rfl
    exact hexpand

end Index

namespace Details

/-- The details of an entry: its identity, the number of its nodes and of its keys, and the keys of one
segment, in the order of their bytes. Nothing between two slashes, or beside an outer one, is no segment. -/
structure Describes (d : Details) (entry : Entry) : Prop where
  identity : d.identity = entry.identity
  nodeCount : d.nodeCount = entry.tree.nodes.size
  elementCount : d.elementCount = entry.index.elements.size
  ascending : d.rootChildren.Pairwise fun a b => Utf8.encode a < Utf8.encode b
  mem_iff : ∀ key, key ∈ d.rootChildren ↔
    key ∈ entry.index.elements ∧ (Text.split '/' key.toList).countP (· ≠ []) = 1

/-- Paths of one segment ascend like all paths. -/
theorem rootChildren_ascending (entry : Entry) :
    (ofEntry entry).rootChildren.Pairwise fun a b => Utf8.encode a < Utf8.encode b := by
  show List.Pairwise _ (List.map _ _)
  rw [List.pairwise_map]
  exact entry.index.paths_ascending.filter _

theorem length_segments (p : DataPath) :
    p.segments.length = (Text.split '/' p.text.toList).countP (· ≠ []) := by
  rw [DataPath.segments, List.length_map, List.countP_eq_length_filter]
  congr 2
  funext piece
  cases piece <;> rfl

theorem describes_ofEntry (entry : Entry) : (ofEntry entry).Describes entry where
  identity := rfl
  nodeCount := rfl
  elementCount := rfl
  ascending := rootChildren_ascending entry
  mem_iff key := by
    show key ∈ List.map _ _ ↔ _
    simp only [List.mem_map, List.mem_filter, decide_eq_true_iff, Index.mem_paths_iff_mem_elements,
      length_segments]
    constructor
    · rintro ⟨p, hp, rfl⟩
      exact hp
    · intro hkey
      exact ⟨⟨key⟩, hkey, rfl⟩

/-- The details of an entry are those that are computed. -/
theorem describes_iff {d : Details} {entry : Entry} : d.Describes entry ↔ d = ofEntry entry := by
  have hentry := describes_ofEntry entry
  constructor
  · intro h
    have hchildren : d.rootChildren = (ofEntry entry).rootChildren :=
      Utf8.eq_of_ascending h.ascending hentry.ascending fun key =>
        (h.mem_iff key).trans (hentry.mem_iff key).symm
    cases d
    rw [mk.injEq]
    exact ⟨h.identity, h.nodeCount, h.elementCount, hchildren⟩
  · rintro rfl
    exact hentry

end Details

end SchemaCatalog
