import SchemaCatalog.Proofs.Document.Sources
import SchemaCatalog.Proofs.Index.Counts
import SchemaCatalog.Proofs.Rpc.Contents
import SchemaCatalog.Proofs.Rpc.LookUp

/-!
# The details of a schema

The details of an entry are read off its index: how many elements there are, and which paths have one segment.
The tree of a source is made of children only (`Source.planted_of_parse`), so that what is read off is what the
tree says. `lookUp_getDetails_exact` puts this together for all sources that are loaded.
-/

namespace SchemaCatalog

/-! ### Trees of sources -/

/-- The tree of merged module files is made of children only. -/
theorem Document.planted_mergeAll {key : String} {documents : List Document} {t : Tree}
    (h : mergeAll (.new key) documents = .ok t) : t.Planted := by
  rw [mergeAll_eq_insertAll] at h
  exact Item.insertAll_keeps (fun parent node made added => made.addChild parent node added) (.new key) _ h

theorem Source.planted_of_parse {files : Files} {s : Source} {t : Tree} (h : s.parse files = .ok t) :
    t.Planted := by
  obtain ⟨documents, _, hmerge⟩ := parse_eq_ok_iff.mp h
  exact Document.planted_mergeAll hmerge

/-! ### Paths of one segment -/

theorem DataPath.text_join_singleton (name : String) : (join [name]).text = name :=
  String.ofList_toList

namespace Details

variable {entry : Entry}

/-- **The paths of one segment are the names of what data shows below the root.** -/
theorem mem_rootChildren_iff (made : entry.tree.Planted) (plain : entry.tree.Segmented)
    (hindex : Index.build entry.tree = .ok entry.index) {name : String} :
    name ∈ (ofEntry entry).rootChildren ↔
      ∃ place node, entry.tree.ShowsBelow Tree.root place node ∧ node.name = name := by
  have h := made.reachable.linked
  show name ∈ List.map _ _ ↔ _
  simp only [List.mem_map, List.mem_filter, decide_eq_true_iff, Index.mem_paths_iff h hindex]
  constructor
  · rintro ⟨path, ⟨⟨place, node, hs⟩, hlength⟩, rfl⟩
    -- The names of the path are its segments, and the last of them is that of the node.
    have hpath := hs.eq_dataPath h
    rw [hpath, Tree.dataPath_eq_join, DataPath.segments_join plain.isSegment] at hlength
    have hnames : entry.tree.pathNames place = [node.name] := by
      rcases made.root_or_below hs.node? hs.not_wrapper with ⟨_, hnil⟩ | ⟨_, _, _, _, _, _, hconcat⟩
      · simp [hnil] at hlength
      · rw [hconcat, List.length_append, List.length_singleton, Nat.add_eq_right,
          List.length_eq_zero_iff] at hlength
        rw [hconcat, hlength, List.nil_append]
    refine ⟨place, node, made.showsBelow_root_iff.mpr ⟨hs.node?, hs.not_wrapper, hnames⟩, ?_⟩
    rw [hpath, Tree.dataPath_eq_join, hnames, DataPath.text_join_singleton]
  · rintro ⟨place, node, hbelow, rfl⟩
    obtain ⟨hn, hplain, hnames⟩ := made.showsBelow_root_iff.mp hbelow
    have hs := Index.shows_of_pathNames h plain hn hplain (by simp [hnames])
    refine ⟨entry.tree.dataPath place, ⟨⟨place, node, hs⟩, ?_⟩, ?_⟩
    · rw [Tree.dataPath_eq_join, DataPath.segments_join plain.isSegment, hnames, List.length_singleton]
    · rw [Tree.dataPath_eq_join, hnames, DataPath.text_join_singleton]

end Details

namespace Rpc

open Json (Value)

/-- **The details of a schema are exact.** Whatever sources are loaded, a call for the details of one of them
is answered from its tree, if all names in it are segments. The root children are the names of the nodes that
data shows right below the root, behind any number of wrappers; no two of these nodes share a name, and each
name comes once, in the order of the bytes. There are as many elements as nodes that are neither root nor
wrapper, and the nodes are these, the wrappers, and the root. -/
theorem lookUp_getDetails_exact {files : Files} {sources : List Source} {c : Catalog}
    (loaded : Catalog.load (Source.parse files) sources = .ok c) {s : Source} (hs : s ∈ sources) :
    ∃ t, s.parse files = .ok t ∧ (t.Segmented → ∀ params, identityParam params = .ok s.identity →
      ∃ d : Details, lookUp c params .getDetails = .ok (Details.codec.toValue d) ∧
        d.identity = s.identity ∧
        d.rootChildren.Pairwise (fun a b => Utf8.encode a < Utf8.encode b) ∧
        (∀ name, name ∈ d.rootChildren ↔
          ∃ place node, t.ShowsBelow Tree.root place node ∧ node.name = name) ∧
        t.DistinctBelow Tree.root ∧
        d.elementCount = t.countKinds (· ∉ [.root, .choice, .case]) ∧
        d.nodeCount = d.elementCount + t.countKinds (· ∈ [.choice, .case]) + 1) := by
  obtain ⟨_, hnodup⟩ := Catalog.makes_of_load loaded
  obtain ⟨entry, hmakes, hget⟩ := (Catalog.holds_of_load loaded hnodup).get_source s hs
  have made := Source.planted_of_parse hmakes.tree
  refine ⟨entry.tree, hmakes.tree, ?_⟩
  intro plain params hid
  have hsize := Index.size_of_build_planted made plain hmakes.index
  refine ⟨.ofEntry entry, ?_, hmakes.identity, Details.rootChildren_ascending entry, ?_, ?_, hsize, ?_⟩
  · rw [lookUp_getDetails c hid, hget]
    rfl
  · intro name
    exact Details.mem_rootChildren_iff made plain hmakes.index
  · exact Index.distinctBelow_root made plain hmakes.index
  · show entry.tree.size = entry.index.size + _ + 1
    rw [hsize]
    exact made.size_eq

/-- The leaf in a case of a choice at the top is a root child, and the choice and its case are counted as
nodes only. -/
theorem lookUp_getDetails_exact_choice :
    let files : Files := .ofReads [("a.json", .ok (Utf8.encode
      ("\x7b\"module\":\"m\",\"children\":[\x7b\"name\":\"system\",\"kind\":\"container\"," ++
        "\"children\":[\x7b\"name\":\"mtu\",\"kind\":\"leaf\"\x7d]\x7d," ++
        "\x7b\"name\":\"mode\",\"kind\":\"choice\",\"children\":[\x7b\"name\":\"fast\"," ++
        "\"kind\":\"case\",\"children\":[\x7b\"name\":\"rate\",\"kind\":\"leaf\"\x7d]\x7d]\x7d]\x7d")))]
    let s : Source := ⟨"s", "x", "1", ["a.json"]⟩
    let params : Value :=
      .object [("name", .string "s"), ("vendor", .string "x"), ("version", .string "1")]
    ∃ c t d, Catalog.load (Source.parse files) [s] = .ok c ∧ s.parse files = .ok t ∧ t.Segmented ∧
      identityParam params = .ok s.identity ∧
      lookUp c params .getDetails = .ok (Details.codec.toValue d) ∧
      "rate" ∈ d.rootChildren ∧ d.elementCount = 3 ∧ d.nodeCount = 6 := by
  intro files s params
  let tree : Tree := ⟨"s@x@1", #[
    { name := "root", kind := .root, children := #[1, 3] },
    { name := "system", kind := .container, parent := some 0, children := #[2] },
    { name := "mtu", kind := .leaf, parent := some 1 },
    { name := "mode", kind := .choice, parent := some 0, children := #[4] },
    { name := "fast", kind := .case, parent := some 3, children := #[5] },
    { name := "rate", kind := .leaf, parent := some 4 }]⟩
  have hparse : s.parse files = .ok tree := by decide +kernel
  obtain ⟨index, hindex⟩ := exists_ok_of_isSome (x := Index.build tree) (by decide +kernel)
  have hmakes : s.Makes (Source.parse files) ⟨s.identity, tree, index⟩ :=
    ⟨by decide +kernel, rfl, hparse, hindex⟩
  obtain ⟨c, loaded⟩ : ∃ c, Catalog.load (Source.parse files) [s] = .ok c :=
    Catalog.exists_load_iff.mpr ⟨by simpa using ⟨_, hmakes⟩, List.nodup_singleton _⟩
  obtain ⟨t, ht, hexact⟩ := lookUp_getDetails_exact loaded List.mem_cons_self
  obtain rfl : t = tree := Except.ok.inj (ht.symm.trans hparse)
  have plain : Tree.Segmented tree := Tree.segmented_of_forall (by decide +kernel)
  obtain ⟨d, hlook, _, _, hchildren, _, helements, hnodes⟩ := hexact plain params rfl
  have hmode : Tree.Through tree Tree.root 3 := .child rfl (by decide +kernel)
  have hfast : Tree.Through tree Tree.root 4 := .inside hmode rfl rfl (by decide +kernel)
  have hrate : Tree.Through tree Tree.root 5 := .inside hfast rfl rfl (by decide +kernel)
  have hcount : Tree.countKinds tree (· ∉ [.root, .choice, .case]) = 3 ∧
      Tree.countKinds tree (· ∈ [.choice, .case]) = 2 := by decide +kernel
  refine ⟨c, tree, d, loaded, ht, plain, rfl, hlook, ?_, ?_, ?_⟩
  · exact (hchildren "rate").mpr ⟨5, _, ⟨hrate, rfl, rfl⟩, rfl⟩
  · rw [helements, hcount.1]
  · rw [hnodes, helements, hcount.1, hcount.2]

end Rpc

end SchemaCatalog
