import SchemaCatalog.Identity
import SchemaCatalog.Proofs.Text.Split

/-!
# The keys of identities

An identity passes `check` if its components are not empty and hold no separator
(`check_eq_ok_iff`). The key of such an identity is cut into its components
(`split_keyChars_of_check`), and no other identity has it, not even one that would be refused
(`eq_of_key_eq`).

What this needs of the components is that they hold no separator. If one does, the key can be cut there
too, and another identity has it (`exists_ne_of_mem_component`). `key_determines` puts this together.
-/

namespace SchemaCatalog.Identity

/-- A component passes if it is not empty and holds no separator. -/
theorem checkPart_eq_ok_iff {id : Identity} {part : Part} :
    id.checkPart part = .ok () ↔
      id.component part ≠ "" ∧ separator ∉ (id.component part).toList := by
  rw [checkPart]
  by_cases he : (id.component part).isEmpty = true
  · simp_all [String.isEmpty_iff]
  · by_cases hs : (id.component part).toList.contains separator = true
    · simp_all
    · simp_all [String.isEmpty_iff]

theorem check_eq_ok_iff {id : Identity} :
    id.check = .ok () ↔ ∀ part, id.component part ≠ "" ∧ separator ∉ (id.component part).toList := by
  constructor
  · intro h part
    apply checkPart_eq_ok_iff.mp
    cases hn : id.checkPart .name <;> cases hv : id.checkPart .vendor <;>
      rw [check, hn] at h <;> try cases h
    · rw [hv] at h
      cases h
    · rw [hv] at h
      cases part with
      | name => exact hn
      | vendor => exact hv
      | version => exact h
  · intro h
    rw [check, checkPart_eq_ok_iff.mpr (h .name), checkPart_eq_ok_iff.mpr (h .vendor)]
    exact checkPart_eq_ok_iff.mpr (h .version)

/-- A key is cut where its components are, and at its separators. -/
theorem split_keyChars (id : Identity) :
    Text.split separator id.keyChars =
      Text.split separator id.name.toList ++
        (Text.split separator id.vendor.toList ++ Text.split separator id.version.toList) := by
  rw [keyChars, Text.split_append_cons, Text.split_append_cons]

/-- A key is cut into its components if none of them holds a separator. -/
theorem split_keyChars_of_not_mem {id : Identity}
    (h : ∀ part, separator ∉ (id.component part).toList) :
    Text.split separator id.keyChars =
      [id.name.toList, id.vendor.toList, id.version.toList] := by
  have hname : separator ∉ id.name.toList := h .name
  have hvendor : separator ∉ id.vendor.toList := h .vendor
  have hversion : separator ∉ id.version.toList := h .version
  rw [split_keyChars, Text.split_of_not_mem hname, Text.split_of_not_mem hvendor,
    Text.split_of_not_mem hversion]
  rfl

/-- The key of an identity that passes is cut into its components. -/
theorem split_keyChars_of_check {id : Identity} (h : id.check = .ok ()) :
    Text.split separator id.keyChars =
      [id.name.toList, id.vendor.toList, id.version.toList] :=
  split_keyChars_of_not_mem fun part => (check_eq_ok_iff.mp h part).2

/-- A key without separators in its components belongs to one identity. Any identity with the key has
three pieces in it, one for each of its components. -/
theorem eq_of_key_eq_of_not_mem {a b : Identity}
    (h : ∀ part, separator ∉ (a.component part).toList) (hk : a.key = b.key) : a = b := by
  have hchars : a.keyChars = b.keyChars := String.ofList_injective hk
  have hsplit := split_keyChars_of_not_mem h
  rw [hchars, split_keyChars] at hsplit
  obtain ⟨name, names, hname⟩ := List.exists_cons_of_ne_nil (Text.split_ne_nil separator b.name.toList)
  obtain ⟨vendor, vendors, hvendor⟩ :=
    List.exists_cons_of_ne_nil (Text.split_ne_nil separator b.vendor.toList)
  obtain ⟨version, versions, hversion⟩ :=
    List.exists_cons_of_ne_nil (Text.split_ne_nil separator b.version.toList)
  -- Three lists of at least one piece make three pieces, so each is one piece.
  have hlength := congrArg List.length hsplit
  rw [hname, hvendor, hversion] at hlength hsplit
  simp only [List.length_append, List.length_cons, List.length_nil] at hlength
  obtain rfl : names = [] := List.eq_nil_of_length_eq_zero (by omega)
  obtain rfl : vendors = [] := List.eq_nil_of_length_eq_zero (by omega)
  obtain rfl : versions = [] := List.eq_nil_of_length_eq_zero (by omega)
  have h₁ := Text.eq_of_split_eq_singleton hname
  have h₂ := Text.eq_of_split_eq_singleton hvendor
  have h₃ := Text.eq_of_split_eq_singleton hversion
  simp only [List.cons_append, List.nil_append, List.cons.injEq, and_true] at hsplit
  obtain ⟨e₁, e₂, e₃⟩ := hsplit
  cases a
  cases b
  rw [mk.injEq]
  exact ⟨String.toList_injective (e₁.symm.trans h₁.symm),
    String.toList_injective (e₂.symm.trans h₂.symm),
    String.toList_injective (e₃.symm.trans h₃.symm)⟩

/-- **A key that passes belongs to one identity.** -/
theorem eq_of_key_eq {a b : Identity} (h : a.check = .ok ()) (hk : a.key = b.key) : a = b :=
  eq_of_key_eq_of_not_mem (fun part => (check_eq_ok_iff.mp h part).2) hk

/-- If a component holds a separator, another identity has the key: one that is cut there instead. -/
theorem exists_ne_of_mem_component {a : Identity} {part : Part}
    (h : separator ∈ (a.component part).toList) : ∃ b, b ≠ a ∧ a.key = b.key := by
  obtain ⟨before, after, hsplit⟩ := List.append_of_mem h
  -- Names of different length tell the two identities apart.
  have hne : ∀ b : Identity, b.name.toList.length ≠ a.name.toList.length → b ≠ a := by
    rintro b hlength rfl
    exact hlength rfl
  cases part with
  | name =>
    change a.name.toList = before ++ separator :: after at hsplit
    refine ⟨⟨.ofList before, .ofList after, .ofList (a.vendor.toList ++ separator :: a.version.toList)⟩,
      hne _ ?_, ?_⟩
    · simp [hsplit]
    · simp [key, keyChars, hsplit]
  | vendor =>
    change a.vendor.toList = before ++ separator :: after at hsplit
    refine ⟨⟨.ofList (a.name.toList ++ separator :: before), .ofList after, a.version⟩, hne _ ?_, ?_⟩
    · simp
    · simp [key, keyChars, hsplit]
  | version =>
    change a.version.toList = before ++ separator :: after at hsplit
    refine ⟨⟨.ofList (a.name.toList ++ separator :: a.vendor.toList), .ofList before, .ofList after⟩,
      hne _ ?_, ?_⟩
    · simp
    · simp [key, keyChars, hsplit]

/-- **A key determines its identity if no component holds the separator**, and only then. So the key of an
identity that passes is that of no other one, whether this one would pass or not, and is cut into just the
three components. -/
theorem key_determines :
    (∀ a : Identity, a.check = .ok () →
      (∀ b : Identity, a.key = b.key → a = b) ∧
        Text.split separator a.key.toList = [a.name.toList, a.vendor.toList, a.version.toList]) ∧
    ∀ a : Identity, (∀ b : Identity, a.key = b.key → a = b) ↔
      ∀ part, separator ∉ (a.component part).toList := by
  refine ⟨fun a h => ⟨fun b => eq_of_key_eq h, ?_⟩, fun a => ⟨?_, fun h b => eq_of_key_eq_of_not_mem h⟩⟩
  · rw [key, String.toList_ofList, split_keyChars_of_check h]
  · intro hone part hmem
    obtain ⟨b, hne, hk⟩ := exists_ne_of_mem_component hmem
    exact hne (hone b hk).symm

/-- No other identity has this key, which is cut into three components. -/
theorem key_determines_srl :
    let a : Identity := ⟨"srl", "nokia", "1"⟩
    a.key = "srl@nokia@1" ∧ a.check = .ok () ∧ (∀ b : Identity, a.key = b.key → a = b) ∧
      Text.split '@' a.key.toList = ["srl".toList, "nokia".toList, "1".toList] := by
  intro a
  have hcheck : a.check = .ok () := by decide
  exact ⟨by decide, hcheck, key_determines.1 a hcheck⟩

end SchemaCatalog.Identity
