import SchemaCatalog.Proofs.Identity.Order
import SchemaCatalog.Proofs.Tree.Linked

/-!
# Loading a catalog

A source `Makes` an entry if its identity passes, it has a tree, and the tree has an index. Otherwise it
`FailsWith` the error of the first of these steps that fails. `Catalog.load_outcome` says what becomes of
a list of sources: they are loaded if each of them makes an entry and no identity is repeated. The catalog
`Holds` one entry for each source then, whatever the order of the sources is. If they are not loaded, the
first source that fails is told, and only if there is none the first repeated identity.

Entries are stored under their keys, and what is refused is a key that is there already. It stands for a
repeated identity because the keys of identities that pass tell these apart (`Mirrors`).
-/

namespace SchemaCatalog

variable {parse : Source → Except Error Tree}

/-! ### One source -/

/-- The entry that a source makes: that of its identity, which passes, with its tree and the index of this
tree. -/
structure Source.Makes (parse : Source → Except Error Tree) (s : Source) (entry : Entry) : Prop where
  passes : s.identity.check = .ok ()
  identity : entry.identity = s.identity
  tree : parse s = .ok entry.tree
  index : Index.build entry.tree = .ok entry.index

/-- How a source fails: its identity is refused, it has no tree, or this tree has no index. -/
inductive Source.FailsWith (parse : Source → Except Error Tree) (s : Source) : Error → Prop where
  | identity {flaw : Identity.Flaw} (refused : s.identity.check = .error flaw) :
      FailsWith parse s (.config (.identity flaw))
  | tree {e : Error} (passes : s.identity.check = .ok ()) (fails : parse s = .error e) :
      FailsWith parse s e
  | index {e : Error} {t : Tree} (passes : s.identity.check = .ok ()) (parses : parse s = .ok t)
      (fails : Index.build t = .error e) : FailsWith parse s e

/-- The first of identities that is an earlier one again. -/
def FirstRepeat (ids : List Identity) (id : Identity) : Prop :=
  ∃ before after, ids = before ++ id :: after ∧ before.Nodup ∧ id ∈ before

variable {s : Source}

/-- A source makes one entry only. -/
theorem Source.Makes.unique {entry entry' : Entry} (h : s.Makes parse entry)
    (h' : s.Makes parse entry') : entry = entry' := by
  obtain ⟨id, tree, index⟩ := entry
  obtain ⟨id', tree', index'⟩ := entry'
  obtain rfl : id = id' := h.identity.trans h'.identity.symm
  obtain rfl : tree = tree' := Except.ok.inj (h.tree.symm.trans h'.tree)
  obtain rfl : index = index' := Except.ok.inj (h.index.symm.trans h'.index)
  rfl

namespace Catalog

/-- Building the entry of a source, step by step. -/
theorem buildEntry_of_check (h : s.identity.check = .ok ()) :
    buildEntry parse s = parse s >>= Entry.build s.identity := by
  rw [buildEntry, h]

theorem buildEntry_of_refused {flaw : Identity.Flaw} (h : s.identity.check = .error flaw) :
    buildEntry parse s = .error (.config (.identity flaw)) := by
  rw [buildEntry, h]

theorem buildEntry_eq_ok_iff {entry : Entry} :
    buildEntry parse s = .ok entry ↔ s.Makes parse entry := by
  cases hcheck : s.identity.check with
  | error flaw =>
    rw [buildEntry_of_refused hcheck]
    constructor
    · intro h
      cases h
    · intro h
      simp [h.passes] at hcheck
  | ok =>
    rw [buildEntry_of_check hcheck, bind_eq_ok_iff]
    constructor
    · rintro ⟨tree, htree, h⟩
      obtain ⟨index, hindex, rfl⟩ := map_eq_ok_iff.mp h
      exact ⟨hcheck, rfl, htree, hindex⟩
    · intro h
      refine ⟨entry.tree, h.tree, map_eq_ok_iff.mpr ⟨entry.index, h.index, ?_⟩⟩
      rw [← h.identity]

theorem buildEntry_eq_error_iff {e : Error} :
    buildEntry parse s = .error e ↔ s.FailsWith parse e := by
  cases hcheck : s.identity.check with
  | error flaw =>
    rw [buildEntry_of_refused hcheck, Except.error.injEq]
    constructor
    · rintro rfl
      exact .identity hcheck
    · intro h
      cases h <;> simp_all
  | ok =>
    rw [buildEntry_of_check hcheck, bind_eq_error_iff]
    simp only [Entry.build, map_eq_error_iff]
    constructor
    · rintro (h | ⟨t, ht, h⟩)
      · exact .tree hcheck h
      · exact .index hcheck ht h
    · intro h
      cases h with
      | identity refused => simp [hcheck] at refused
      | tree _ fails => exact .inl fails
      | index _ parses fails => exact .inr ⟨_, parses, fails⟩

/-! ### Repeated identities -/

/-- Of two repeats of identities, none is first before the other one. -/
theorem firstRepeat_unique {ids : List Identity} {id id' : Identity} (h : FirstRepeat ids id)
    (h' : FirstRepeat ids id') : id = id' := by
  obtain ⟨before, after, rfl, hnodup, hmem⟩ := h
  obtain ⟨before', after', heq, hnodup', hmem'⟩ := h'
  -- The one that comes later has the other one and what it repeats before it, which cannot be.
  rcases List.append_eq_append_iff.mp heq with ⟨more, rfl, hmore⟩ | ⟨more, rfl, hmore⟩
  · cases more with
    | nil => exact (List.cons.inj hmore).1
    | cons x more =>
      obtain ⟨rfl, -⟩ := List.cons.inj hmore
      rw [List.nodup_append] at hnodup'
      exact absurd rfl (hnodup'.2.2 id hmem id List.mem_cons_self)
  · cases more with
    | nil => exact (List.cons.inj hmore).1.symm
    | cons x more =>
      obtain ⟨rfl, -⟩ := List.cons.inj hmore
      rw [List.nodup_append] at hnodup
      exact absurd rfl (hnodup.2.2 id' hmem' id' List.mem_cons_self)

theorem firstRepeat_not_nodup {ids : List Identity} {id : Identity} (h : FirstRepeat ids id) :
    ¬ ids.Nodup := by
  obtain ⟨before, after, rfl, _, hmem⟩ := h
  intro hnodup
  rw [List.nodup_append] at hnodup
  exact absurd rfl (hnodup.2.2 id hmem id List.mem_cons_self)

theorem isSome_ofEntries_iff {entries : List Entry} {id : Identity} :
    (IdentityMap.ofEntries entries id).isSome = true ↔ id ∈ entries.map Entry.identity := by
  rw [IdentityMap.ofEntries, List.find?_isSome, List.mem_map]
  simp

/-- Of entries with different identities, each is found for its own. -/
theorem ofEntries_eq_some {entries : List Entry} (hnodup : (entries.map Entry.identity).Nodup)
    {entry : Entry} (hentry : entry ∈ entries) :
    IdentityMap.ofEntries entries entry.identity = some entry := by
  have hsome := isSome_ofEntries_iff.mpr (List.mem_map_of_mem hentry)
  obtain ⟨found, hfound⟩ := Option.isSome_iff_exists.mp hsome
  have hid : found.identity = entry.identity := by simpa using List.find?_some hfound
  rw [hfound, List.inj_on_of_nodup_map hnodup (List.mem_of_find?_eq_some hfound) hentry hid]

/-- Storing entries behind others: they are all stored, or the first one that repeats an identity is
told. -/
theorem Mirrors.foldlM_putNew_cases :
    ∀ (rest before : List Entry) {c : Catalog}, c.Mirrors (.ofEntries before) →
      (before.map Entry.identity).Nodup → (∀ entry ∈ rest, entry.identity.check = .ok ()) →
      (((before ++ rest).map Entry.identity).Nodup ∧ ∃ c', rest.foldlM putNew c = .ok c') ∨
        ∃ id, FirstRepeat ((before ++ rest).map Entry.identity) id ∧
          rest.foldlM putNew c = .error (.config (.repeatedSchema id.key)) := by
  intro rest
  -- The entries stored grow at their end by what the rest loses at its start.
  induction rest with
  | nil =>
    intro before c _ hnodup _
    rw [List.append_nil]
    exact .inl ⟨hnodup, c, rfl⟩
  | cons entry rest ih =>
    intro before c h hnodup hchecks
    have hcheck := hchecks entry List.mem_cons_self
    have hcontains : c.entries.contains entry.identity.key = true ↔
        entry.identity ∈ before.map Entry.identity := by
      rw [Std.TreeMap.contains_eq_isSome_getElem?, h.lookup, isSome_ofEntries_iff]
    rw [List.foldlM_cons, putNew]
    by_cases hold : entry.identity ∈ before.map Entry.identity
    · refine .inr ⟨entry.identity, ?_, ?_⟩
      · exact ⟨before.map Entry.identity, rest.map Entry.identity, by simp, hnodup, hold⟩
      · rw [if_pos (hcontains.mpr hold)]
        rfl
    · have hnone : IdentityMap.ofEntries before entry.identity = none := by
        rw [← Option.not_isSome_iff_eq_none, isSome_ofEntries_iff]
        exact hold
      have hnext := h.insert hcheck
      rw [← IdentityMap.ofEntries_append hnone] at hnext
      have hnodup' : ((before ++ [entry]).map Entry.identity).Nodup := by
        rw [List.map_append, List.nodup_append_comm, List.map_singleton, List.singleton_append,
          List.nodup_cons]
        exact ⟨hold, hnodup⟩
      have hlast := ih (before ++ [entry]) hnext hnodup'
        (fun e he => hchecks e (List.mem_cons_of_mem entry he))
      rw [List.append_assoc, List.singleton_append] at hlast
      rw [if_neg (mt hcontains.mp hold), ok_bind]
      exact hlast

/-! ### All sources -/

variable {sources : List Source} {c : Catalog}

/-- The entries that sources make have the identities of these. -/
theorem map_identity_of_makes {built : List Entry}
    (h : List.Forall₂ (fun s entry => s.Makes parse entry) sources built) :
    built.map Entry.identity = sources.map Source.identity := by
  induction h with
  | nil => rfl
  | cons hfirst _ ih => rw [List.map_cons, List.map_cons, hfirst.identity, ih]

/-- What becomes of sources that all make an entry: they are loaded if no identity is repeated, or the
first repeated one is told. -/
theorem load_cases_of_makes (h : ∀ s ∈ sources, ∃ entry, s.Makes parse entry) :
    ((sources.map Source.identity).Nodup ∧ ∃ c, load parse sources = .ok c) ∨
      ∃ id, FirstRepeat (sources.map Source.identity) id ∧
        load parse sources = .error (.config (.repeatedSchema id.key)) := by
  simp only [← buildEntry_eq_ok_iff] at h
  obtain ⟨built, hbuilt⟩ := exists_mapM_iff.mpr h
  have hmakes := mapM_eq_ok_iff.mp hbuilt
  simp only [buildEntry_eq_ok_iff] at hmakes
  have hchecks : ∀ entry ∈ built, entry.identity.check = .ok () := by
    intro entry hentry
    obtain ⟨s, _, hs⟩ := exists_mem_of_mapM hbuilt hentry
    exact check_of_buildEntry hs
  have hempty : Catalog.empty.Mirrors (.ofEntries []) := mirrors_empty
  have hcases := hempty.foldlM_putNew_cases built [] List.nodup_nil hchecks
  rw [List.nil_append, map_identity_of_makes hmakes] at hcases
  rw [load, hbuilt, ok_bind]
  exact hcases

/-- A catalog has one entry for each source, under the identity of this source, and no others. -/
structure Holds (c : Catalog) (parse : Source → Except Error Tree) (sources : List Source) : Prop where
  get_source : ∀ s ∈ sources, ∃ entry, s.Makes parse entry ∧ c.get s.identity = .ok entry
  get_other : ∀ id, id ∉ sources.map Source.identity → c.get id = .error (.schemaNotFound id.key)
  list_perm : c.list.Perm (sources.map Source.identity)
  size_eq : c.size = sources.length

/-- The catalog of sources holds them, if they have different identities. -/
theorem holds_of_load (h : load parse sources = .ok c) (hnodup : (sources.map Source.identity).Nodup) :
    c.Holds parse sources := by
  obtain ⟨built, hbuilt, _⟩ := bind_eq_ok_iff.mp h
  have hrep : c.Represents (.ofEntries built) := (Starts.loaded hbuilt h).mirrors.represents
  have hids : built.map Entry.identity = sources.map Source.identity := by
    have hmakes : List.Forall₂ (fun s entry => s.Makes parse entry) sources built := by
      simpa only [buildEntry_eq_ok_iff] using mapM_eq_ok_iff.mp hbuilt
    exact map_identity_of_makes hmakes
  have hperm : c.list.Perm (sources.map Source.identity) := by
    rw [List.perm_ext_iff_of_nodup hrep.list_nodup hnodup]
    intro id
    rw [hrep.mem_list_iff, isSome_ofEntries_iff, hids]
  constructor
  · intro s hs
    obtain ⟨entry, hentry, hs⟩ := exists_result_of_mem hbuilt hs
    have hmakes := buildEntry_eq_ok_iff.mp hs
    have hfind := ofEntries_eq_some (hids ▸ hnodup) hentry
    refine ⟨entry, hmakes, ?_⟩
    rw [← hmakes.identity, hrep.get_eq, hfind]
  · intro id hid
    have hnone : IdentityMap.ofEntries built id = none := by
      rw [← Option.not_isSome_iff_eq_none, isSome_ofEntries_iff, hids]
      exact hid
    rw [hrep.get_eq, hnone]
  · exact hperm
  · rw [hrep.size_eq, hperm.length_eq, List.length_map]

/-- Sources that are loaded all make an entry, and have different identities. -/
theorem makes_of_load (h : load parse sources = .ok c) :
    (∀ s ∈ sources, ∃ entry, s.Makes parse entry) ∧ (sources.map Source.identity).Nodup := by
  have hmakes : ∀ s ∈ sources, ∃ entry, s.Makes parse entry := by
    simp only [← buildEntry_eq_ok_iff]
    obtain ⟨built, hbuilt, _⟩ := bind_eq_ok_iff.mp h
    exact exists_mapM_iff.mp ⟨built, hbuilt⟩
  refine ⟨hmakes, ?_⟩
  rcases load_cases_of_makes hmakes with ⟨hnodup, _⟩ | ⟨id, _, herror⟩
  · exact hnodup
  · rw [h] at herror
    cases herror

theorem exists_load_iff :
    (∃ c, load parse sources = .ok c) ↔
      (∀ s ∈ sources, ∃ entry, s.Makes parse entry) ∧ (sources.map Source.identity).Nodup := by
  constructor
  · rintro ⟨c, h⟩
    exact makes_of_load h
  · rintro ⟨hmakes, hnodup⟩
    rcases load_cases_of_makes hmakes with ⟨_, hok⟩ | ⟨id, hrepeat, _⟩
    · exact hok
    · exact absurd hnodup (firstRepeat_not_nodup hrepeat)

/-- The error of sources is that of the first one that fails. If none does, it tells the first identity
that is repeated. -/
theorem load_eq_error_iff {e : Error} :
    load parse sources = .error e ↔
      (∃ before s after, sources = before ++ s :: after ∧
        (∀ s' ∈ before, ∃ entry, s'.Makes parse entry) ∧ s.FailsWith parse e) ∨
      (∀ s ∈ sources, ∃ entry, s.Makes parse entry) ∧
        ∃ id, FirstRepeat (sources.map Source.identity) id ∧ e = .config (.repeatedSchema id.key) := by
  have hfirst : sources.mapM (buildEntry parse) = .error e ↔
      ∃ before s after, sources = before ++ s :: after ∧
        (∀ s' ∈ before, ∃ entry, s'.Makes parse entry) ∧ s.FailsWith parse e := by
    simp only [mapM_eq_error_iff, buildEntry_eq_ok_iff, buildEntry_eq_error_iff]
  rw [← hfirst]
  constructor
  · intro h
    rcases bind_eq_error_iff.mp h with h | ⟨built, hbuilt, _⟩
    · exact .inl h
    · have hmakes : ∀ s ∈ sources, ∃ entry, s.Makes parse entry := by
        simpa only [buildEntry_eq_ok_iff] using exists_mapM_iff.mp ⟨built, hbuilt⟩
      refine .inr ⟨hmakes, ?_⟩
      rcases load_cases_of_makes hmakes with ⟨_, c, hok⟩ | ⟨id, hrepeat, herror⟩
      · rw [h] at hok
        cases hok
      · rw [h] at herror
        exact ⟨id, hrepeat, Except.error.inj herror⟩
  · rintro (h | ⟨hmakes, id, hrepeat, rfl⟩)
    · exact bind_eq_error_iff.mpr (.inl h)
    · rcases load_cases_of_makes hmakes with ⟨hnodup, _⟩ | ⟨id', hrepeat', herror⟩
      · exact absurd hnodup (firstRepeat_not_nodup hrepeat)
      · rw [herror, firstRepeat_unique hrepeat hrepeat']

/-- Two catalogs that hold the same sources in any order give the same answers. -/
theorem Holds.agree {c' : Catalog} {sources' : List Source} (h : c.Holds parse sources)
    (h' : c'.Holds parse sources') (hperm : sources'.Perm sources) :
    (∀ id, c'.get id = c.get id) ∧ c'.list = c.list ∧ c'.size = c.size := by
  have hids : (sources'.map Source.identity).Perm (sources.map Source.identity) := hperm.map _
  refine ⟨?_, ?_, ?_⟩
  · intro id
    by_cases hid : id ∈ sources.map Source.identity
    · obtain ⟨s, hs, rfl⟩ := List.mem_map.mp hid
      obtain ⟨entry, hmakes, hget⟩ := h.get_source s hs
      obtain ⟨entry', hmakes', hget'⟩ := h'.get_source s (hperm.mem_iff.mpr hs)
      rw [hget, hget', hmakes'.unique hmakes]
    · rw [h.get_other id hid, h'.get_other id (mt hids.mem_iff.mp hid)]
  · -- Both are the one order in which these identities can be listed.
    refine List.Perm.eq_of_pairwise ?_ c'.list_pairwise_isLE c.list_pairwise_isLE
      (h'.list_perm.trans (hids.trans h.list_perm.symm))
    intro a b _ _ hab hba
    exact Std.LawfulEqCmp.eq_of_compare (Std.OrientedCmp.isLE_antisymm hab hba)
  · rw [h.size_eq, h'.size_eq, hperm.length_eq]

/-- **What becomes of sources.** They are loaded if each of them makes an entry and their identities
differ. The catalog holds just them then, and any order of them gives the same answers. Otherwise the error
is that of the first source that fails, and only if none does it tells the first repeated identity. -/
theorem load_outcome (parse : Source → Except Error Tree) (sources : List Source) :
    ((∃ c, load parse sources = .ok c) ↔
      (∀ s ∈ sources, ∃ entry, s.Makes parse entry) ∧ (sources.map Source.identity).Nodup) ∧
    (∀ c, load parse sources = .ok c → c.Holds parse sources ∧
      ∀ sources', sources'.Perm sources → ∃ c', load parse sources' = .ok c' ∧
        (∀ id, c'.get id = c.get id) ∧ c'.list = c.list ∧ c'.size = c.size) ∧
    ∀ e, load parse sources = .error e ↔
      (∃ before s after, sources = before ++ s :: after ∧
        (∀ s' ∈ before, ∃ entry, s'.Makes parse entry) ∧ s.FailsWith parse e) ∨
      (∀ s ∈ sources, ∃ entry, s.Makes parse entry) ∧
        ∃ id, FirstRepeat (sources.map Source.identity) id ∧ e = .config (.repeatedSchema id.key) := by
  refine ⟨exists_load_iff, ?_, ?_⟩
  · intro c h
    obtain ⟨hmakes, hnodup⟩ := makes_of_load h
    have hholds := holds_of_load h hnodup
    refine ⟨hholds, ?_⟩
    intro sources' hperm
    have hnodup' : (sources'.map Source.identity).Nodup := (hperm.map _).nodup_iff.mpr hnodup
    obtain ⟨c', h'⟩ := exists_load_iff.mpr ⟨fun s hs => hmakes s (hperm.mem_iff.mp hs), hnodup'⟩
    exact ⟨c', h', hholds.agree (holds_of_load h' hnodup') hperm⟩
  · intro e
    exact load_eq_error_iff

/-- A source that fails is told even if an identity is repeated before it. Without it the repeated one is
told, and without that the sources are loaded. -/
theorem load_outcome_broken :
    let parse : Source → Except Error Tree := fun s =>
      if s.name = "broken" then .error (.build s.identity.key (.rootDeclared "r")) else .ok .interfaces
    let a : Source := ⟨"a", "x", "1", ["a.json"]⟩
    let b : Source := ⟨"b", "x", "1", ["b.json"]⟩
    let broken : Source := ⟨"broken", "x", "1", ["c.json"]⟩
    load parse [a, a, broken] = .error (.build "broken@x@1" (.rootDeclared "r")) ∧
      load parse [a, b, a] = .error (.config (.repeatedSchema "a@x@1")) ∧
      ∃ c, load parse [b, a] = .ok c ∧ c.size = 2 := by
  intro parse a b broken
  have hparse : parse a = .ok .interfaces ∧ parse b = .ok .interfaces := by decide +kernel
  obtain ⟨index, hindex⟩ : ∃ index, Index.build .interfaces = .ok index := exists_ok_of_isSome rfl
  have ha : ∃ entry, a.Makes parse entry :=
    ⟨⟨a.identity, .interfaces, index⟩, by decide +kernel, rfl, hparse.1, hindex⟩
  have hb : ∃ entry, b.Makes parse entry :=
    ⟨⟨b.identity, .interfaces, index⟩, by decide +kernel, rfl, hparse.2, hindex⟩
  refine ⟨?_, ?_, ?_⟩
  · apply ((load_outcome parse _).2.2 _).mpr
    exact .inl ⟨[a, a], broken, [], rfl, by simp [ha], .tree (by decide +kernel) (by decide +kernel)⟩
  · apply ((load_outcome parse _).2.2 _).mpr
    have hrepeat : FirstRepeat [a.identity, b.identity, a.identity] a.identity :=
      ⟨[a.identity, b.identity], [], rfl, by decide, by simp⟩
    exact .inr ⟨by simp [ha, hb], a.identity, hrepeat, by decide +kernel⟩
  · obtain ⟨c, hc⟩ := (load_outcome parse [b, a]).1.mpr ⟨by simp [ha, hb], by decide⟩
    exact ⟨c, hc, ((load_outcome parse [b, a]).2.1 c hc).1.size_eq⟩

end Catalog

end SchemaCatalog
