import SchemaCatalog.Proofs.Catalog.Loading
import SchemaCatalog.Proofs.Document.Layout
import SchemaCatalog.Proofs.Index.Contents

/-!
# Sources with their files

A source is `Loadable` from files if these hold modules that make a tree with an index. One that is not
fails with an error that names its schema, wherever on the way it arises (`parse_carries`). So sources
whose identities pass and differ are loaded, or the first one of them that is not loadable is told, by its
key (`Catalog.load_cases_of_files`).
-/

namespace SchemaCatalog

/-- A source can be loaded from files: these can be read and hold module files, the modules can be
merged to a tree, and the tree has an index. -/
def Source.Loadable (files : Files) (s : Source) : Prop :=
  ∃ documents tree index,
    List.Forall₂ (fun path d =>
      ∃ text, files.readText path = .ok text ∧ Document.codec.parse text = .ok d) s.files documents ∧
    Document.mergeAll (.new s.identity.key) documents = .ok tree ∧ Index.build tree = .ok index

/-! ### Errors name the schema -/

/-- A result that is about the schema `key`: a tree of this name, or an error that names it. -/
def Carries (key : String) : Except Error Tree → Prop
  | .ok t => t.uniqueName = key
  | .error e => ∃ problem, e = .build key problem

namespace Item

mutual

theorem insert_carries (t : Tree) (parent : Nat) :
    ∀ i : Item, Carries t.uniqueName (insert t parent i)
  | mk name kind typeName description keys items => by
    rw [insert]
    split_ifs with hroot
    · exact ⟨_, rfl⟩
    cases hadd : t.addChild parent { name, kind, typeName, description, keys } with
    | error flaw => exact ⟨_, rfl⟩
    | ok added =>
      obtain ⟨t₁, place⟩ := added
      obtain ⟨_, _, rfl, rfl⟩ := Tree.addChild_eq_ok_iff.mp hadd
      exact insertAll_carries (t.linkChild parent { name, kind, typeName, description, keys }) t.size items

theorem insertAll_carries (t : Tree) (parent : Nat) :
    ∀ items : List Item, Carries t.uniqueName (insertAll t parent items)
  | [] => rfl
  | i :: rest => by
    have hfirst := insert_carries t parent i
    rw [insertAll]
    cases hi : insert t parent i with
    | error e =>
      rw [hi] at hfirst
      exact hfirst
    | ok t₁ =>
      rw [hi] at hfirst
      have hname : t₁.uniqueName = t.uniqueName := hfirst
      rw [← hname]
      exact insertAll_carries t₁ parent rest

end

end Item

namespace Document

variable {files : Files} {key : String}

theorem read_eq_ok_iff {path : String} {d : Document} :
    read files key path = .ok d ↔ ∃ text, files.readText path = .ok text ∧ codec.parse text = .ok d := by
  rw [read]
  cases htext : files.readText path with
  | error e => simp
  | ok text => cases hparse : codec.parse text <;> simp [hparse]

theorem read_error {path : String} {e : Error} (h : read files key path = .error e) :
    ∃ problem, e = .build key problem := by
  rw [read] at h
  cases htext : files.readText path with
  | error e' =>
    rw [htext] at h
    exact ⟨_, (Except.error.inj h).symm⟩
  | ok text =>
    rw [htext] at h
    cases hparse : codec.parse text with
    | error e' =>
      simp only [hparse] at h
      exact ⟨_, (Except.error.inj h).symm⟩
    | ok d =>
      simp only [hparse] at h
      cases h

theorem mergeFiles_carries (paths : List String) :
    ∀ {t : Tree}, t.uniqueName = key → Carries key (mergeFiles files key t paths) := by
  induction paths with
  | nil =>
    intro t ht
    exact ht
  | cons path rest ih =>
    intro t ht
    rw [mergeFiles]
    cases hread : read files key path with
    | error e => exact read_error hread
    | ok d =>
      have hitems := Item.insertAll_carries t Tree.root d.items
      rw [ht] at hitems
      dsimp only
      cases hinsert : Item.insertAll t Tree.root d.items with
      | error e =>
        rw [hinsert] at hitems
        exact hitems
      | ok t₁ =>
        rw [hinsert] at hitems
        exact ih hitems

end Document

/-! ### One source -/

namespace Source

variable {files : Files} {s : Source} {e : Error} {t : Tree}

/-- What parsing a source gives is about its schema. -/
theorem parse_carries (files : Files) (s : Source) : Carries s.identity.key (s.parse files) := by
  unfold parse
  exact Document.mergeFiles_carries s.files rfl

theorem parse_eq_ok_iff :
    s.parse files = .ok t ↔
      ∃ documents, List.Forall₂ (fun path d =>
          ∃ text, files.readText path = .ok text ∧ Document.codec.parse text = .ok d)
        s.files documents ∧ Document.mergeAll (.new s.identity.key) documents = .ok t := by
  rw [parse, Document.mergeFiles_eq_ok_iff]
  simp only [Document.read_eq_ok_iff]

/-- A source whose identity passes makes an entry from files if it is loadable from them. -/
theorem exists_makes_iff (passes : s.identity.check = .ok ()) :
    (∃ entry, s.Makes (parse files) entry) ↔ s.Loadable files := by
  unfold Loadable
  constructor
  · rintro ⟨entry, hmakes⟩
    obtain ⟨documents, hread, hmerge⟩ := parse_eq_ok_iff.mp hmakes.tree
    exact ⟨documents, entry.tree, entry.index, hread, hmerge, hmakes.index⟩
  · rintro ⟨documents, t, index, hread, hmerge, hindex⟩
    have hparse : s.parse files = .ok t := parse_eq_ok_iff.mpr ⟨documents, hread, hmerge⟩
    exact ⟨⟨s.identity, t, index⟩, passes, rfl, hparse, hindex⟩

/-- A source whose identity passes fails with an error that names its schema. -/
theorem FailsWith.names (h : s.FailsWith (parse files) e) (passes : s.identity.check = .ok ()) :
    ∃ problem, e = .build s.identity.key problem := by
  cases h with
  | identity refused =>
    rw [passes] at refused
    cases refused
  | tree _ fails =>
    have hcarries := parse_carries files s
    rw [fails] at hcarries
    exact hcarries
  | @index _ t _ parses fails =>
    have hname := parse_carries files s
    rw [parses] at hname
    have hname : t.uniqueName = s.identity.key := hname
    -- The index of a tree that was made names this tree.
    obtain ⟨documents, _, hmerge⟩ := parse_eq_ok_iff.mp parses
    have hlinked := (Document.reachable_mergeAll hmerge).linked
    obtain ⟨_, _, m, _, p, _, _, _, _, _, herror⟩ := Index.repeated_of_build_error hlinked fails
    rw [hname] at herror
    exact ⟨.duplicatePath p.text m.kind m.name, herror⟩

/-- A source that fails makes no entry. -/
theorem FailsWith.not_makes {parse : Source → Except Error Tree} (h : s.FailsWith parse e) :
    ¬ ∃ entry, s.Makes parse entry := by
  rintro ⟨entry, hmakes⟩
  have herror := Catalog.buildEntry_eq_error_iff.mpr h
  rw [Catalog.buildEntry_eq_ok_iff.mpr hmakes] at herror
  cases herror

end Source

/-! ### All sources -/

namespace Catalog

variable {files : Files} {sources : List Source}

/-- What becomes of sources whose identities pass and differ: the first one that is not loadable is told,
or all are loaded. -/
theorem load_cases_of_files (passes : ∀ s ∈ sources, s.identity.check = .ok ())
    (differ : (sources.map Source.identity).Nodup) :
    (∃ before s after problem, sources = before ++ s :: after ∧
      (∀ s' ∈ before, s'.Loadable files) ∧ ¬ s.Loadable files ∧
      load (Source.parse files) sources = .error (.build s.identity.key problem)) ∨
    ∃ c, load (Source.parse files) sources = .ok c ∧ (∀ s ∈ sources, s.Loadable files) ∧
      c.list.Perm (sources.map Source.identity) := by
  cases hload : load (Source.parse files) sources with
  | error e =>
    rcases load_eq_error_iff.mp hload with ⟨before, s, after, rfl, hbefore, hfails⟩ | ⟨_, id, hrepeat, _⟩
    · have hs : s.identity.check = .ok () := passes s (by simp)
      obtain ⟨problem, rfl⟩ := hfails.names hs
      have hnot : ¬ s.Loadable files := by
        rw [← Source.exists_makes_iff hs]
        exact hfails.not_makes
      refine .inl ⟨before, s, after, problem, rfl, ?_, hnot, rfl⟩
      intro s' hs'
      exact (Source.exists_makes_iff (passes s' (List.mem_append_left _ hs'))).mp (hbefore s' hs')
    · exact absurd differ (firstRepeat_not_nodup hrepeat)
  | ok c =>
    obtain ⟨hmakes, _⟩ := makes_of_load hload
    refine .inr ⟨c, rfl, ?_, (holds_of_load hload differ).list_perm⟩
    intro s hs
    exact (Source.exists_makes_iff (passes s hs)).mp (hmakes s hs)

end Catalog

end SchemaCatalog
