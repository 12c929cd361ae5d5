import SchemaCatalog.Proofs.Catalog.IdentityMap

/-!
# Identities in their order

Identities are in a linear order, that of their components one after the other. A catalog lists its
identities strictly ascending, and so in the only way in which they can be listed like this
(`Catalog.Represents.list_eq`).
-/

namespace SchemaCatalog

namespace Identity

/-- Comparing identities is comparing their names, then their vendors, then their versions. -/
theorem compare_eq (a b : Identity) :
    compare a b =
      compareLex (compareLex (compareOn name) (compareOn vendor)) (compareOn version) a b :=
  rfl

instance : Std.TransOrd Identity :=
  inferInstanceAs (Std.TransCmp
    (compareLex (compareLex (compareOn name) (compareOn vendor)) (compareOn version)))

instance : Std.LawfulEqOrd Identity where
  eq_of_compare {a b} h := by
    rw [compare_eq, compareLex_eq_eq, compareLex_eq_eq] at h
    obtain ⟨⟨hname, hvendor⟩, hversion⟩ := h
    have hname : a.name = b.name := Std.LawfulEqOrd.eq_of_compare hname
    have hvendor : a.vendor = b.vendor := Std.LawfulEqOrd.eq_of_compare hvendor
    have hversion : a.version = b.version := Std.LawfulEqOrd.eq_of_compare hversion
    cases a
    cases b
    dsimp only at hname hvendor hversion
    rw [hname, hvendor, hversion]

end Identity

namespace Catalog

variable {c : Catalog} {m : IdentityMap}

/-- A catalog lists its identities in their order. -/
theorem list_pairwise_isLE (c : Catalog) : c.list.Pairwise fun a b => (compare a b).isLE = true := by
  unfold list
  apply List.pairwise_mergeSort
  · intro a b d hab hbd
    exact Std.TransCmp.isLE_trans hab hbd
  · intro a b
    have hswap : compare b a = (compare a b).swap := Std.OrientedCmp.eq_swap
    rw [hswap]
    cases compare a b <;> rfl

/-- The identities of a catalog can be listed in one order only. -/
theorem list_eq_of_perm {ids : List Identity} (perm : ids.Perm (c.entries.values.map Entry.identity))
    (ascending : ids.Pairwise fun a b => compare a b = .lt) : c.list = ids := by
  have hle : ids.Pairwise fun a b => (compare a b).isLE = true := by
    refine ascending.imp ?_
    intro a b hlt
    rw [hlt]
    rfl
  refine List.Perm.eq_of_pairwise ?_ c.list_pairwise_isLE hle (c.list_perm.trans perm.symm)
  intro a b _ _ hab hba
  exact Std.LawfulEqCmp.eq_of_compare (Std.OrientedCmp.isLE_antisymm hab hba)

/-- A catalog lists its identities strictly ascending. -/
theorem Represents.list_ascending (h : c.Represents m) :
    c.list.Pairwise fun a b => compare a b = .lt := by
  -- No identity is listed twice, so that of two of them the first is less.
  refine c.list_pairwise_isLE.imp₂ ?_ h.list_nodup
  intro a b hab hne
  rcases Ordering.isLE_iff_eq_lt_or_eq_eq.mp hab with hlt | heq
  · exact hlt
  · exact absurd (Std.LawfulEqCmp.eq_of_compare heq) hne

/-- Identities that ascend strictly and are those of the map are what the catalog lists. -/
theorem Represents.list_eq (h : c.Represents m) {ids : List Identity}
    (ascending : ids.Pairwise fun a b => compare a b = .lt)
    (mem_iff : ∀ id, id ∈ ids ↔ (m id).isSome = true) : c.list = ids := by
  have hnodup : ids.Nodup := by
    refine ascending.imp ?_
    rintro a _ hlt rfl
    have hself : compare a a = .eq := Std.ReflCmp.compare_self
    rw [hself] at hlt
    cases hlt
  refine list_eq_of_perm (List.Perm.trans ?_ c.list_perm) ascending
  rw [List.perm_ext_iff_of_nodup hnodup h.list_nodup]
  intro id
  rw [h.mem_list_iff, mem_iff]

end Catalog

end SchemaCatalog
