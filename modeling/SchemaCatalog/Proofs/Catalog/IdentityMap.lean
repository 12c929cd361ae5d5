import SchemaCatalog.Catalog
import SchemaCatalog.Proofs.Except
import SchemaCatalog.Proofs.Identity.Key
import SchemaCatalog.Proofs.Values
import Mathlib.Data.List.Nodup
import Mathlib.Logic.Function.Basic

/-!
# A catalog is a map by identities

A catalog stores its entries under the joined keys of their identities, and looks up and removes by
the keys of identities that nobody has checked. It is a finite map by identities all the same: from
an empty catalog or a loaded one on, every run of changes is answered as the same changes to an
`IdentityMap` are, and the catalog `Represents` that map all the way (`run_represents`).

The invariant is `Mirrors c m`: every entry is stored under the key of its own identity, which passes
`check`, and what is stored under the key of any identity is what the map has for that identity. It
rests on `Identity.eq_of_key_eq`: the key of a checked identity is the key of no other one.
-/

namespace SchemaCatalog

/-! ### Changes -/

/-- A change to a catalog. -/
inductive Change where
  | put (entry : Entry)
  | remove (id : Identity)

/-- What the caller of a change is told. -/
inductive Change.Answer where
  | stored
  | refused (error : Error)
  | removed (present : Bool)
deriving DecidableEq

/-- A change of a catalog. An entry that is refused leaves it as it is. -/
def Catalog.change (c : Catalog) : Change → Catalog × Change.Answer
  | .put entry =>
    match c.put entry with
    | .ok c' => (c', .stored)
    | .error error => (c, .refused error)
  | .remove id => ((c.remove id).1, .removed (c.remove id).2)

/-- Changes of a catalog, one after the other. -/
def Catalog.run (c : Catalog) : List Change → Catalog × List Change.Answer
  | [] => (c, [])
  | change :: rest =>
    let (c, answer) := c.change change
    let (c, answers) := run c rest
    (c, answer :: answers)

/-- Entries by their identities. -/
abbrev IdentityMap : Type := Identity → Option Entry

namespace IdentityMap

/-- The map without entries. -/
def empty : IdentityMap := fun _ => none

/-- The map of entries; of two with one identity it has the first. -/
def ofEntries (entries : List Entry) : IdentityMap := fun id =>
  entries.find? fun entry => entry.identity = id

/-- A change of a map: an entry is set for its own identity if that passes, and an identity is
unset. -/
def change (m : IdentityMap) : Change → IdentityMap × Change.Answer
  | .put entry =>
    match entry.identity.check with
    | .ok () => (Function.update m entry.identity (some entry), .stored)
    | .error flaw => (m, .refused (.config (.identity flaw)))
  | .remove id => (Function.update m id none, .removed (m id).isSome)

/-- Changes of a map, one after the other. -/
def run (m : IdentityMap) : List Change → IdentityMap × List Change.Answer
  | [] => (m, [])
  | change :: rest =>
    let (m, answer) := m.change change
    let (m, answers) := run m rest
    (m, answer :: answers)

end IdentityMap

namespace Catalog

/-- A catalog answers as a map does: it gives for an identity, checked or not, the entry of the map
or the error that tells its key, and lists the identities of the map, each once. -/
structure Represents (c : Catalog) (m : IdentityMap) : Prop where
  get_eq : ∀ id, c.get id =
    match m id with
    | some entry => .ok entry
    | none => .error (.schemaNotFound id.key)
  /-- An entry is found for its own identity only. -/
  identity_eq : ∀ id entry, m id = some entry → entry.identity = id
  check_eq_ok : ∀ id entry, m id = some entry → id.check = .ok ()
  list_nodup : c.list.Nodup
  mem_list_iff : ∀ id, id ∈ c.list ↔ (m id).isSome = true
  size_eq : c.size = c.list.length

/-- The catalogs that changes start from, with their maps: the empty one, and those loaded from
sources. -/
inductive Starts : Catalog → IdentityMap → Prop where
  | empty : Starts .empty .empty
  | loaded {parse : Source → Except Error Tree} {sources : List Source} {built : List Entry}
      {c : Catalog} (builds : sources.mapM (buildEntry parse) = .ok built)
      (loads : load parse sources = .ok c) : Starts c (.ofEntries built)

/-! ### The invariant -/

/-- The entries of a catalog are those of a map, each under the key of its identity. -/
structure Mirrors (c : Catalog) (m : IdentityMap) : Prop where
  stored : ∀ (key : String) (entry : Entry), c.entries[key]? = some entry →
    key = entry.identity.key ∧ entry.identity.check = .ok ()
  lookup : ∀ id, c.entries[id.key]? = m id

theorem mirrors_empty : Mirrors empty .empty where
  stored key entry h := by
    rw [empty, Std.TreeMap.getElem?_emptyc] at h
    cases h
  lookup id := by
    rw [empty, Std.TreeMap.getElem?_emptyc]
    rfl

variable {c : Catalog} {m : IdentityMap}

/-- An entry under the key of an identity is the entry of that identity. -/
theorem Mirrors.identity_eq (h : c.Mirrors m) {id : Identity} {entry : Entry}
    (he : c.entries[id.key]? = some entry) : entry.identity = id := by
  obtain ⟨hkey, hcheck⟩ := h.stored id.key entry he
  exact Identity.eq_of_key_eq hcheck hkey.symm

/-- Storing an entry under the key of its checked identity sets it for this identity, and for no
other one. -/
theorem Mirrors.insert (h : c.Mirrors m) {entry : Entry} (hcheck : entry.identity.check = .ok ()) :
    Mirrors ⟨c.entries.insert entry.identity.key entry⟩
      (Function.update m entry.identity (some entry)) where
  stored key entry' he := by
    rw [Std.TreeMap.getElem?_insert] at he
    split_ifs at he with hkey
    · rw [← Option.some.inj he]
      exact ⟨(Std.LawfulEqCmp.eq_of_compare hkey).symm, hcheck⟩
    · exact h.stored key entry' he
  lookup id := by
    rw [Std.TreeMap.getElem?_insert, h.lookup id]
    by_cases hid : id = entry.identity
    · rw [hid, Function.update_self, if_pos Std.ReflCmp.compare_self]
    · rw [Function.update_of_ne hid, if_neg]
      intro hkey
      exact hid (Identity.eq_of_key_eq hcheck (Std.LawfulEqCmp.eq_of_compare hkey)).symm

/-- Erasing the key of an identity, checked or not, unsets this identity, and no other one. -/
theorem Mirrors.erase (h : c.Mirrors m) (id : Identity) :
    Mirrors ⟨c.entries.erase id.key⟩ (Function.update m id none) where
  stored key entry he := by
    rw [Std.TreeMap.getElem?_erase] at he
    split_ifs at he
    exact h.stored key entry he
  lookup id' := by
    rw [Std.TreeMap.getElem?_erase]
    by_cases hid : id' = id
    · rw [hid, Function.update_self, if_pos Std.ReflCmp.compare_self]
    · rw [Function.update_of_ne hid, ← h.lookup id']
      split_ifs with hkey
      · -- The two have one key, so it is the key of no entry.
        have hkey := Std.LawfulEqCmp.eq_of_compare hkey
        cases he : c.entries[id'.key]? with
        | none => rfl
        | some entry =>
          have h₁ := h.identity_eq he
          rw [← hkey] at he
          have h₂ := h.identity_eq he
          exact absurd (h₁.symm.trans h₂) hid
      · rfl

/-- A change of the catalog is answered as the change of the map is, and keeps the invariant. -/
theorem Mirrors.change (h : c.Mirrors m) (change : Change) :
    (c.change change).2 = (m.change change).2 ∧
      (c.change change).1.Mirrors (m.change change).1 := by
  cases change with
  | put entry =>
    rw [Catalog.change, IdentityMap.change, put]
    cases hcheck : entry.identity.check with
    | error flaw => exact ⟨rfl, h⟩
    | ok => exact ⟨rfl, h.insert hcheck⟩
  | remove id =>
    refine ⟨?_, h.erase id⟩
    show Change.Answer.removed (c.entries.contains id.key) = .removed (m id).isSome
    rw [Std.TreeMap.contains_eq_isSome_getElem?, h.lookup]

/-- Changes of the catalog are answered as those of the map are, and keep the invariant. -/
theorem Mirrors.run (changes : List Change) :
    ∀ {c : Catalog} {m : IdentityMap}, c.Mirrors m →
      (c.run changes).2 = (m.run changes).2 ∧ (c.run changes).1.Mirrors (m.run changes).1 := by
  induction changes with
  | nil =>
    intro c m h
    exact ⟨rfl, h⟩
  | cons change rest ih =>
    intro c m h
    obtain ⟨hanswer, hmirrors⟩ := h.change change
    obtain ⟨hanswers, hlast⟩ := ih hmirrors
    exact ⟨List.cons_eq_cons.mpr ⟨hanswer, hanswers⟩, hlast⟩

/-! ### Loading -/

/-- An entry that is built has a checked identity. -/
theorem check_of_buildEntry {parse : Source → Except Error Tree} {s : Source} {entry : Entry}
    (h : buildEntry parse s = .ok entry) : entry.identity.check = .ok () := by
  rw [buildEntry] at h
  cases hcheck : s.identity.check with
  | error flaw =>
    rw [hcheck] at h
    cases h
  | ok =>
    rw [hcheck] at h
    cases htree : parse s with
    | error error =>
      rw [htree] at h
      cases h
    | ok tree =>
      rw [htree] at h
      obtain ⟨index, _, rfl⟩ := map_eq_ok_iff.mp h
      exact hcheck

/-- A new entry behind others is found for its identity, and changes nothing for other ones. -/
theorem IdentityMap.ofEntries_append {before : List Entry} {entry : Entry}
    (hnew : IdentityMap.ofEntries before entry.identity = none) :
    IdentityMap.ofEntries (before ++ [entry]) =
      Function.update (IdentityMap.ofEntries before) entry.identity (some entry) := by
  funext id
  rw [IdentityMap.ofEntries, List.find?_append]
  by_cases hid : id = entry.identity
  · rw [hid, Function.update_self, ← IdentityMap.ofEntries, hnew]
    simp
  · rw [Function.update_of_ne hid]
    simp [IdentityMap.ofEntries, Ne.symm hid]

/-- Storing new entries one after the other mirrors the map of all of them. -/
theorem Mirrors.foldlM_putNew :
    ∀ (rest before : List Entry) {c c' : Catalog}, c.Mirrors (.ofEntries before) →
      (∀ entry ∈ rest, entry.identity.check = .ok ()) →
      rest.foldlM putNew c = .ok c' → c'.Mirrors (.ofEntries (before ++ rest)) := by
  intro rest
  induction rest with
  | nil =>
    intro before c c' h _ hfold
    rw [List.append_nil, ← Except.ok.inj hfold]
    exact h
  | cons entry rest ih =>
    intro before c c' h hchecks hfold
    rw [List.foldlM_cons, putNew] at hfold
    split_ifs at hfold with hcontains
    · cases hfold
    have hcheck := hchecks entry List.mem_cons_self
    -- No stored entry has the key, so none of those before has the identity.
    have hnone : IdentityMap.ofEntries before entry.identity = none := by
      rw [← h.lookup, ← Option.not_isSome_iff_eq_none, ← Std.TreeMap.contains_eq_isSome_getElem?]
      exact hcontains
    have hnext := h.insert hcheck
    rw [← IdentityMap.ofEntries_append hnone] at hnext
    have hlast := ih (before ++ [entry]) hnext
      (fun e he => hchecks e (List.mem_cons_of_mem entry he)) hfold
    rwa [List.append_assoc, List.singleton_append] at hlast

theorem Starts.mirrors (h : Starts c m) : c.Mirrors m := by
  cases h with
  | empty => exact mirrors_empty
  | @loaded parse sources built c builds loads =>
    have hchecks : ∀ entry ∈ built, entry.identity.check = .ok () := by
      intro entry hentry
      obtain ⟨s, _, hs⟩ := exists_mem_of_mapM builds hentry
      exact check_of_buildEntry hs
    rw [load, builds] at loads
    have hempty : Catalog.empty.Mirrors (.ofEntries []) := mirrors_empty
    exact hempty.foldlM_putNew built [] hchecks loads

/-! ### What the invariant gives -/

/-- The keys of a catalog are those of the identities of its entries. -/
theorem Mirrors.map_key_identities (h : c.Mirrors m) :
    (c.entries.values.map Entry.identity).map Identity.key = c.entries.keys := by
  rw [values_eq_map_toList, ← Std.TreeMap.map_fst_toList_eq_keys, List.map_map, List.map_map]
  refine List.map_congr_left fun pair hpair => ?_
  obtain ⟨key, entry⟩ := pair
  rw [Std.TreeMap.mem_toList_iff_getElem?_eq_some] at hpair
  exact (h.stored key entry hpair).1.symm

theorem list_perm (c : Catalog) : c.list.Perm (c.entries.values.map Entry.identity) :=
  List.mergeSort_perm _ _

/-- A catalog that mirrors a map represents it. -/
theorem Mirrors.represents (h : c.Mirrors m) : c.Represents m where
  get_eq id := by
    cases hid : m id with
    | none => rw [get, h.lookup, hid]
    | some entry => rw [get, h.lookup, hid]
  identity_eq id entry he := h.identity_eq (by rw [h.lookup, he])
  check_eq_ok id entry he := by
    rw [← h.lookup] at he
    rw [← h.identity_eq he]
    exact (h.stored id.key entry he).2
  list_nodup := by
    rw [c.list_perm.nodup_iff]
    apply List.Nodup.of_map Identity.key
    rw [h.map_key_identities]
    exact Std.TreeMap.nodup_keys
  mem_list_iff id := by
    rw [c.list_perm.mem_iff, values_eq_map_toList, List.map_map, List.mem_map, ← h.lookup,
      Option.isSome_iff_exists]
    constructor
    · rintro ⟨⟨key, entry⟩, hpair, rfl⟩
      rw [Std.TreeMap.mem_toList_iff_getElem?_eq_some] at hpair
      refine ⟨entry, ?_⟩
      rw [(h.stored key entry hpair).1] at hpair
      exact hpair
    · rintro ⟨entry, he⟩
      exact ⟨(id.key, entry), Std.TreeMap.mem_toList_iff_getElem?_eq_some.mpr he, h.identity_eq he⟩
  size_eq := by
    rw [c.list_perm.length_eq, ← List.length_map Identity.key, h.map_key_identities,
      Std.TreeMap.length_keys, size]

/-- **A catalog is a map by identities.** From a start on, every run of changes is answered as the
run of the same changes of the map, and the catalog represents the map after it. -/
theorem run_represents (start : Starts c m) (changes : List Change) :
    (c.run changes).2 = (m.run changes).2 ∧
      (c.run changes).1.Represents (m.run changes).1 := by
  obtain ⟨hanswers, hmirrors⟩ := start.mirrors.run changes
  exact ⟨hanswers, hmirrors.represents⟩

/-- A stored entry outlasts a refused one and the removal of an identity that looks like its own. -/
theorem run_represents_ambiguous :
    let changes : List Change :=
      [.put ⟨⟨"a", "b", "c"⟩, .new "a@b@c", .empty⟩, .put ⟨⟨"a@b", "c", ""⟩, .new "", .empty⟩,
        .remove ⟨"a@b", "c", ""⟩]
    Starts .empty .empty ∧
      (Catalog.empty.run changes).2 =
        [.stored, .refused (.config (.identity (.separator .name "a@b"))), .removed false] ∧
      (Catalog.empty.run changes).1.Represents (IdentityMap.empty.run changes).1 :=
  ⟨.empty, (run_represents .empty _).1, (run_represents .empty _).2⟩

end Catalog

end SchemaCatalog
