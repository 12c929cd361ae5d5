import Mathlib.Data.List.Perm.Basic
import Mathlib.Tactic.Common
import Std.Data.TreeMap.Lemmas

/-!
# The values of a map

What becomes of a map, and of the list of all of its values, when a value is put in: `values_insert_perm`
tells the value that was there apart from all others, which stay.
-/

namespace SchemaCatalog

variable {α β : Type} [Ord α] {t : Std.TreeMap α β}

/-- The values of a map are its entries without the keys. -/
theorem values_eq_map_toList (t : Std.TreeMap α β) : t.values = t.toList.map Prod.snd := by
  have h : t.values = t.foldr (fun _ value values => value :: values) [] := rfl
  rw [h, Std.TreeMap.foldr_eq_foldr_toList]
  induction t.toList with
  | nil => rfl
  | cons pair rest ih => rw [List.foldr_cons, List.map_cons, ih]

variable [Std.TransOrd α] [Std.LawfulEqOrd α]

theorem mem_values_iff {value : β} : value ∈ t.values ↔ ∃ key : α, t[key]? = some value := by
  rw [values_eq_map_toList, List.mem_map]
  constructor
  · rintro ⟨⟨key, value'⟩, hmem, rfl⟩
    exact ⟨key, Std.TreeMap.mem_toList_iff_getElem?_eq_some.mp hmem⟩
  · rintro ⟨key, hkey⟩
    exact ⟨(key, value), Std.TreeMap.mem_toList_iff_getElem?_eq_some.mpr hkey, rfl⟩

theorem nodup_toList (t : Std.TreeMap α β) : t.toList.Nodup := by
  refine Std.TreeMap.distinct_keys_toList.imp ?_
  rintro a _ hne rfl
  exact hne Std.ReflCmp.compare_self

/-- Other keys lead to what they led to before a value was put in. -/
theorem getElem?_insert_of_ne {key key' : α} (h : key ≠ key') (value : β) :
    (t.insert key value)[key']? = t[key']? := by
  rw [Std.TreeMap.getElem?_insert, if_neg]
  intro hc
  exact h (Std.LawfulEqCmp.eq_of_compare hc)

variable [DecidableEq α]

/-- The entry of a key is the one that it leads to. -/
theorem filter_toList_perm (t : Std.TreeMap α β) (key : α) :
    (t.toList.filter fun pair => key == pair.1).Perm (t[key]?.toList.map (Prod.mk key)) := by
  have hnodup : (t[key]?.toList.map (Prod.mk key)).Nodup := by
    cases t[key]? <;> simp
  rw [List.perm_ext_iff_of_nodup ((nodup_toList t).filter _) hnodup]
  rintro ⟨key', value⟩
  rw [List.mem_filter, Std.TreeMap.mem_toList_iff_getElem?_eq_some, List.mem_map]
  constructor
  · rintro ⟨hvalue, hkey⟩
    obtain rfl : key = key' := by simpa using hkey
    exact ⟨value, by simp [hvalue], rfl⟩
  · rintro ⟨value', hvalue, heq⟩
    obtain ⟨rfl, rfl⟩ := Prod.mk.inj heq
    exact ⟨by simpa using hvalue, by simp⟩

/-- Putting a value in takes the place of the value that was there, if any, and leaves all others. -/
theorem values_insert_perm (t : Std.TreeMap α β) (key : α) (value : β) :
    ∃ others, (t.insert key value).values.Perm (value :: others) ∧
      t.values.Perm (t[key]?.toList ++ others) := by
  -- the entries of other keys, which are in both maps
  let others := t.toList.filter fun pair => !(key == pair.1)
  refine ⟨others.map Prod.snd, ?_, ?_⟩
  · have hinsert : (t.insert key value).toList.Perm ((key, value) :: others) := by
      simpa only [decide_not, Bool.decide_eq_true] using
        Std.TreeMap.toList_insert_perm (t := t) (k := key) (v := value)
    rw [values_eq_map_toList]
    exact hinsert.map Prod.snd
  · have hsplit : t.toList.Perm (t[key]?.toList.map (Prod.mk key) ++ others) :=
      (List.filter_append_perm (fun pair => key == pair.1) t.toList).symm.trans
        ((filter_toList_perm t key).append_right others)
    have hvalues := hsplit.map Prod.snd
    rw [List.map_append, List.map_map] at hvalues
    rw [values_eq_map_toList]
    simpa [Function.comp_def] using hvalues

end SchemaCatalog
