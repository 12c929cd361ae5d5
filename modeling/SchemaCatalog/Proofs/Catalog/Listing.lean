import SchemaCatalog.Proofs.Identity.Order
import SchemaCatalog.Proofs.Rpc.LookUp
import SchemaCatalog.Proofs.Text.ByteOrder

/-!
# The order of a listing, and the order of keys

A catalog lists its identities component by component, and that is nearly the order of their keys, but
not quite. In a key the separator follows a component at once, and digits, among other characters, come
before the separator. So `srl` is listed before `srl2`, while the key `srl2@…` comes before `srl@…`: the
second identity `Undercuts` the first one.

This is all that can put two keys in the other order (`Identity.key_lt_iff`). A listing ascends by keys
just when no identity in it undercuts another one (`Catalog.list_order`).
-/

namespace SchemaCatalog

/-! ### Separators behind components -/

/-- Where `xs` ends, `ys` goes on with a character below the separator. -/
def GoesOnBelow (sep : Char) (xs ys : List Char) : Prop :=
  ∃ c rest, ys = xs ++ c :: rest ∧ c < sep

theorem goesOnBelow_iff {sep : Char} {xs ys : List Char} :
    GoesOnBelow sep xs ys ↔ ((Text.after? xs ys).bind List.head?).any (· < sep) = true := by
  simp only [GoesOnBelow, Option.any_eq_true, Option.bind_eq_some_iff, List.head?_eq_some_iff,
    Text.after?_eq_some_iff, decide_eq_true_eq]
  constructor
  · rintro ⟨c, rest, rfl, hc⟩
    exact ⟨c, ⟨c :: rest, rfl, rest, rfl⟩, hc⟩
  · rintro ⟨c, ⟨_, rfl, rest, rfl⟩, hc⟩
    exact ⟨c, rest, rfl, hc⟩

instance (sep : Char) (xs ys : List Char) : Decidable (GoesOnBelow sep xs ys) :=
  decidable_of_iff _ goesOnBelow_iff.symm

theorem GoesOnBelow.lt {sep : Char} {xs ys : List Char} (h : GoesOnBelow sep xs ys) : xs < ys := by
  obtain ⟨c, rest, rfl, -⟩ := h
  have hlt : xs ++ [] < xs ++ c :: rest := List.append_left_lt (List.nil_lt_cons c rest)
  rwa [List.append_nil] at hlt

theorem goesOnBelow_cons_iff {sep x y : Char} {xs ys : List Char} :
    GoesOnBelow sep (x :: xs) (y :: ys) ↔ x = y ∧ GoesOnBelow sep xs ys := by
  unfold GoesOnBelow
  constructor
  · rintro ⟨c, rest, heq, hc⟩
    rw [List.cons_append, List.cons.injEq] at heq
    exact ⟨heq.1.symm, c, rest, heq.2, hc⟩
  · rintro ⟨rfl, c, rest, rfl, hc⟩
    exact ⟨c, rest, rfl, hc⟩

/-- Separators behind two components keep their order, unless the greater one goes on below the
separator where the other one ends. -/
theorem append_separator_lt_iff {sep : Char} {xs ys : List Char} (more more' : List Char) (h : xs < ys)
    (hsep : sep ∉ ys) : xs ++ sep :: more < ys ++ sep :: more' ↔ ¬ GoesOnBelow sep xs ys := by
  induction xs generalizing ys with
  | nil =>
    cases ys with
    | nil => exact absurd h (List.lt_irrefl _)
    | cons y ys =>
      -- The separator meets `y`, which is another character.
      have hne : sep ≠ y := fun heq => hsep (heq ▸ List.mem_cons_self)
      have hbelow : GoesOnBelow sep [] (y :: ys) ↔ y < sep := by
        unfold GoesOnBelow
        simp
      rw [hbelow, not_lt, List.nil_append, List.cons_append, List.cons_lt_cons_iff]
      constructor
      · rintro (hlt | ⟨heq, -⟩)
        · exact hlt.le
        · exact absurd heq hne
      · intro hle
        exact .inl (lt_of_le_of_ne hle hne)
  | cons x xs ih =>
    cases ys with
    | nil => exact absurd h (List.not_lt_nil _)
    | cons y ys =>
      have hrest : sep ∉ ys := fun hmem => hsep (List.mem_cons_of_mem y hmem)
      rw [List.cons_append, List.cons_append, List.cons_lt_cons_iff, goesOnBelow_cons_iff]
      rcases List.cons_lt_cons_iff.mp h with hlt | ⟨rfl, hlt⟩
      · simp [hlt, hlt.ne]
      · simp [ih hlt hrest]

theorem append_lt_append_iff (xs : List Char) {ys zs : List Char} :
    xs ++ ys < xs ++ zs ↔ ys < zs := by
  induction xs with
  | nil => rfl
  | cons x xs ih => simp [ih]

namespace Identity

/-- The name of `b` goes on below the separator where that of `a` ends, or they have one name and
their vendors are like this. -/
def Undercuts (b a : Identity) : Prop :=
  GoesOnBelow separator a.name.toList b.name.toList ∨
    a.name = b.name ∧ GoesOnBelow separator a.vendor.toList b.vendor.toList

instance (b a : Identity) : Decidable (b.Undercuts a) :=
  inferInstanceAs (Decidable (_ ∨ _))

variable {a b : Identity}

/-- An identity is less than another one if its first component that differs is. -/
theorem compare_eq_lt_iff :
    compare a b = .lt ↔
      a.name.toList < b.name.toList ∨
        a.name = b.name ∧
          (a.vendor.toList < b.vendor.toList ∨
            a.vendor = b.vendor ∧ a.version.toList < b.version.toList) := by
  have hcompare : compare a b =
      ((compare a.name b.name).then (compare a.vendor b.vendor)).then (compare a.version b.version) :=
    rfl
  rw [hcompare]
  simp only [Ordering.then_eq_lt, Ordering.then_eq_eq, compare_lt_iff_lt, compare_eq_iff_eq,
    String.lt_iff_toList_lt]
  tauto

/-- An identity that undercuts another one is greater. -/
theorem Undercuts.compare_eq_lt (h : b.Undercuts a) : compare a b = .lt := by
  rw [compare_eq_lt_iff]
  rcases h with hname | ⟨hname, hvendor⟩
  · exact .inl hname.lt
  · exact .inr ⟨hname, .inl hvendor.lt⟩

/-- **Keys are in the order of their identities**, unless the greater identity undercuts the other. -/
theorem key_lt_iff (hb : b.check = .ok ()) (h : compare a b = .lt) :
    compare a.key b.key = .lt ↔ ¬ b.Undercuts a := by
  have hname : separator ∉ b.name.toList := (check_eq_ok_iff.mp hb .name).2
  have hvendor : separator ∉ b.vendor.toList := (check_eq_ok_iff.mp hb .vendor).2
  have hself : ∀ cs, ¬ GoesOnBelow separator cs cs := fun cs hbelow => List.lt_irrefl _ hbelow.lt
  rw [compare_lt_iff_lt, String.lt_iff_toList_lt, key, key, String.toList_ofList, String.toList_ofList,
    keyChars, keyChars, Undercuts]
  rcases compare_eq_lt_iff.mp h with hlt | ⟨hsame, hlt⟩
  · have hne : a.name ≠ b.name := fun hsame => List.lt_irrefl _ (hsame ▸ hlt)
    simp [append_separator_lt_iff _ _ hlt hname, hne]
  -- The names and the separators behind them are the same, and the next component decides.
  rw [hsame, append_lt_append_iff, List.cons_lt_cons_iff]
  rcases hlt with hlt | ⟨hsame', hlt⟩
  · simp [append_separator_lt_iff _ _ hlt hvendor, hself]
  · -- Nothing follows the version, so it decides as it is.
    rw [hsame', append_lt_append_iff, List.cons_lt_cons_iff]
    simp [hlt, hself]

end Identity

namespace Catalog

variable {c : Catalog} {m : IdentityMap}

theorem Represents.check_of_mem_list (h : c.Represents m) {id : Identity} (hid : id ∈ c.list) :
    id.check = .ok () := by
  obtain ⟨entry, hentry⟩ := Option.isSome_iff_exists.mp ((h.mem_list_iff id).mp hid)
  exact h.check_eq_ok id entry hentry

/-- Of two listed identities the first has the lesser key, unless the other one undercuts it. -/
theorem Represents.list_keys (h : c.Represents m) :
    c.list.Pairwise fun a b => compare a b = .lt ∧
      (Utf8.encode a.key < Utf8.encode b.key ↔ ¬ b.Undercuts a) := by
  refine h.list_ascending.imp_of_mem ?_
  intro a b _ hb hlt
  rw [Utf8.encode_lt_iff]
  exact ⟨hlt, Identity.key_lt_iff (h.check_of_mem_list hb) hlt⟩

/-- A listing ascends by keys just when none of its identities undercuts another one. -/
theorem Represents.keys_ascend_iff (h : c.Represents m) :
    (c.list.Pairwise fun a b => Utf8.encode a.key < Utf8.encode b.key) ↔
      ∀ a ∈ c.list, ∀ b ∈ c.list, ¬ b.Undercuts a := by
  have hkeys := h.list_keys
  constructor
  · intro hascend a ha b hb hundercuts
    have hlt : compare a b = .lt := hundercuts.compare_eq_lt
    obtain ⟨i, hi, rfl⟩ := List.getElem_of_mem ha
    obtain ⟨j, hj, rfl⟩ := List.getElem_of_mem hb
    -- The identity that undercuts is the greater one, so it can only stand behind the other one.
    rcases Nat.lt_trichotomy i j with hij | rfl | hji
    · have hkey := List.pairwise_iff_getElem.mp hascend i j hi hj hij
      exact (List.pairwise_iff_getElem.mp hkeys i j hi hj hij).2.mp hkey hundercuts
    · simp at hlt
    · have hback := (List.pairwise_iff_getElem.mp hkeys j i hj hi hji).1
      have hswap : compare c.list[j] c.list[i] = (compare c.list[i] c.list[j]).swap :=
        Std.OrientedCmp.eq_swap
      simp [hlt, hback] at hswap
  · intro hnone
    refine hkeys.imp_of_mem ?_
    intro a b ha hb hkey
    exact hkey.2.mpr (hnone a ha b hb)

/-- **The order of a listing.** From a start on, after every run of changes, the catalog lists its
identities component by component, and calls get them in this order. Of two that are listed the first
has the lesser key, byte by byte, unless the second one undercuts it; so the listing ascends by keys just
when no listed identity undercuts another one. -/
theorem list_order (start : Starts c m) (changes : List Change) :
    let ids := (c.run changes).1.list
    (ids.Pairwise fun a b => compare a b = .lt ∧
      (Utf8.encode a.key < Utf8.encode b.key ↔ ¬ b.Undercuts a)) ∧
    (∀ params, Rpc.lookUp (c.run changes).1 params .listSchemas =
      .ok ((Json.Codec.list Identity.codec).toValue ids)) ∧
    ((ids.Pairwise fun a b => Utf8.encode a.key < Utf8.encode b.key) ↔
      ∀ a ∈ ids, ∀ b ∈ ids, ¬ b.Undercuts a) := by
  intro ids
  have h : (c.run changes).1.Represents (m.run changes).1 := (start.mirrors.run changes).2.represents
  exact ⟨h.list_keys, fun params => Rpc.lookUp_listSchemas _ params, h.keys_ascend_iff⟩

/-- An entry of an identity, with a tree of its root only. -/
def bareEntry (id : Identity) : Entry := ⟨id, .new id.key, .empty⟩

/-- Where a name goes on above the separator, the keys ascend too, whatever the vendors are. -/
theorem list_order_above :
    let changes : List Change :=
      [.put (bareEntry ⟨"srl", "nokia2", "1"⟩), .put (bareEntry ⟨"srlx", "nokia", "1"⟩)]
    let ids := (Catalog.empty.run changes).1.list
    Starts .empty .empty ∧ ids = [⟨"srl", "nokia2", "1"⟩, ⟨"srlx", "nokia", "1"⟩] ∧
      ids.Pairwise fun a b => Utf8.encode a.key < Utf8.encode b.key := by
  intro changes ids
  have hids : ids = [⟨"srl", "nokia2", "1"⟩, ⟨"srlx", "nokia", "1"⟩] :=
    list_eq_of_perm (by decide +kernel) (by decide +kernel)
  have hnone : ∀ a ∈ ids, ∀ b ∈ ids, ¬ b.Undercuts a := by
    rw [hids]
    decide +kernel
  exact ⟨.empty, hids, (list_order .empty changes).2.2.mpr hnone⟩

/-- A name that goes on with a digit puts the keys of a listing in another order. -/
theorem list_keys_descend :
    let changes : List Change :=
      [.put (bareEntry ⟨"srl", "nokia", "1"⟩), .put (bareEntry ⟨"srl2", "nokia", "1"⟩)]
    let ids := (Catalog.empty.run changes).1.list
    Starts .empty .empty ∧ ids = [⟨"srl", "nokia", "1"⟩, ⟨"srl2", "nokia", "1"⟩] ∧
      ¬ ids.Pairwise fun a b => Utf8.encode a.key < Utf8.encode b.key := by
  intro changes ids
  have hids : ids = [⟨"srl", "nokia", "1"⟩, ⟨"srl2", "nokia", "1"⟩] :=
    list_eq_of_perm (by decide +kernel) (by decide +kernel)
  refine ⟨.empty, hids, ?_⟩
  rw [hids]
  decide +kernel

end Catalog

end SchemaCatalog
