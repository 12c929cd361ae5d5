import SchemaCatalog.Proofs.Index.Subtree
import SchemaCatalog.Proofs.Rpc.Protocol

/-!
# Asking for the paths below another one

The call for the paths below another one looks first whether there is an element under that path, and then
lists what starts with it. The first look is exact if the names of the tree are segments. An index has every
beginning of its paths then, as that is the path of a node further up (`Index.mem_paths_of_prefix`), so that
a text that any path starts with is itself a path of the index (`Index.expand_ne_nil_iff`).
-/

namespace SchemaCatalog

namespace Index

variable {t : Tree} {index : Index} {path : DataPath}

/-- **An index has every beginning of its paths.** -/
theorem mem_paths_of_prefix (h : t.Linked) (plain : t.Segmented) (hindex : build t = .ok index)
    (hmem : path ∈ index.paths) {lead : List String} (hne : lead ≠ [])
    (hbegin : lead <+: path.segments) : DataPath.join lead ∈ index.paths := by
  obtain ⟨place, node, hs⟩ := (mem_paths_iff h hindex).mp hmem
  rw [hs.eq_dataPath h, Tree.dataPath_eq_join, DataPath.segments_join plain.isSegment] at hbegin
  obtain ⟨top, upper, _, hupper, hwrapper, hnames⟩ := h.exists_ancestor hs.node? hne hbegin
  have htop := shows_of_pathNames h plain hupper hwrapper (hnames ▸ hne)
  rw [Tree.dataPath_eq_join, hnames] at htop
  exact (mem_paths_iff h hindex).mpr ⟨top, upper, htop⟩

/-- Something is listed under a text if the path that it names is in the index, unless it has separators
only. -/
theorem expand_ne_nil_iff (h : t.Linked) (plain : t.Segmented) (hindex : build t = .ok index)
    {s : String} (more : ∃ c ∈ s.toList, c ≠ '/') :
    index.expand s ≠ [] ↔ DataPath.ofText s ∈ index.paths := by
  constructor
  · intro hne
    obtain ⟨path, hmem⟩ := List.exists_mem_of_ne_nil _ hne
    obtain ⟨hpath, hstart⟩ := List.mem_filter.mp hmem
    obtain ⟨place, node, hs⟩ := (mem_paths_iff h hindex).mp hpath
    obtain rfl := hs.eq_dataPath h
    have hnames := plain.text_dataPath_ne_empty.mp hs.text_ne_empty
    have htrim := DataPath.trim_ne_empty_iff.mpr more
    obtain ⟨lead, hlead, hbegin, heq⟩ :=
      DataPath.exists_prefix_of_startsWith plain.isSegment hnames htrim hstart
    rw [heq]
    refine mem_paths_of_prefix h plain hindex hpath hlead ?_
    rw [Tree.dataPath_eq_join, DataPath.segments_join plain.isSegment]
    exact hbegin
  · intro hmem
    exact List.ne_nil_of_mem (List.mem_filter.mpr ⟨hmem, DataPath.startsWith_ofText s⟩)

end Index

namespace Rpc

open Json (Codec Value)

/-- **The check for a path is exact.** If the names of the tree of an entry are segments, the index of the
tree has every beginning of its paths. So something is listed below a text that is more than slashes if the
path that it names is in the index. Asked for the paths below such a text, a call about the entry fails to
find the path if nothing is listed there. Otherwise it gives what is listed, in ascending order of the bytes,
and the text without outer slashes is among that. -/
theorem expandPath_exact {entry : Entry} (made : entry.tree.Reachable) (plain : entry.tree.Segmented)
    (hindex : Index.build entry.tree = .ok entry.index) :
    (∀ path ∈ entry.index.paths, ∀ lead, lead ≠ [] → lead <+: path.segments →
      DataPath.join lead ∈ entry.index.paths) ∧
    ∀ c id params s, identityParam params = .ok id → c.get id = .ok entry →
      textParam? params "path" = some s → (∃ ch ∈ s.toList, ch ≠ '/') →
      (entry.index.expand s ≠ [] ↔ DataPath.ofText s ∈ entry.index.paths) ∧
      (lookUp c params .expandPath = .error (.pathNotFound entry.identity.key s) ↔
        entry.index.expand s = []) ∧
      (entry.index.expand s ≠ [] →
        lookUp c params .expandPath =
          .ok ((Codec.list DataPath.codec).toValue (entry.index.expand s)) ∧
        (entry.index.expand s).Pairwise (fun p q => Utf8.encode p.text < Utf8.encode q.text) ∧
        DataPath.ofText s ∈ entry.index.expand s) := by
  have h := made.linked
  refine ⟨fun path hmem lead => Index.mem_paths_of_prefix h plain hindex hmem, ?_⟩
  intro c id params s hid hget hpath more
  have hiff := Index.expand_ne_nil_iff h plain hindex more
  have hlook : lookUp c params .expandPath =
      (expandEntry entry s).map (Codec.list DataPath.codec).toValue := by
    rw [lookUp_expandPath c hid, hget, hpath, ok_bind, Option.getD_some]
  have hfound : entry.index.expand s ≠ [] → lookUp c params .expandPath =
      .ok ((Codec.list DataPath.codec).toValue (entry.index.expand s)) := by
    intro hne
    rw [hlook, expandEntry_of_mem fun _ => hiff.mp hne]
    rfl
  refine ⟨hiff, ⟨?_, ?_⟩, fun hne => ⟨hfound hne, ?_, ?_⟩⟩
  · intro herror
    by_contra hne
    rw [hfound hne] at herror
    cases herror
  · intro hnil
    rw [hlook, expandEntry_of_not_mem more fun hmem => hiff.mpr hmem hnil]
    rfl
  · exact (Index.paths_ascending entry.index).filter _
  · exact List.mem_filter.mpr ⟨hiff.mp hne, DataPath.startsWith_ofText s⟩

/-- The path of the container, with slashes around it, is answered with a list that has it; the path that
the choice would have is not found. -/
theorem expandPath_exact_interfaces :
    Tree.interfaces.Reachable ∧ Tree.interfaces.Segmented ∧
      ∃ index, Index.build Tree.interfaces = .ok index ∧
        let id : Identity := ⟨"test", "x", "1"⟩
        let entry : Entry := ⟨id, Tree.interfaces, index⟩
        let c : Catalog := ⟨Catalog.empty.entries.insert id.key entry⟩
        lookUp c (Client.identityParams id (some "/interfaces/")) .expandPath =
            .ok ((Codec.list DataPath.codec).toValue (index.expand "/interfaces/")) ∧
          ⟨"interfaces"⟩ ∈ index.expand "/interfaces/" ∧
          lookUp c (Client.identityParams id (some "interfaces/type")) .expandPath =
            .error (.pathNotFound id.key "interfaces/type") := by
  obtain ⟨index, hindex⟩ := exists_ok_of_isSome (x := Index.build Tree.interfaces) rfl
  refine ⟨Tree.interfaces_reachable, Tree.interfaces_segmented, index, hindex, ?_⟩
  intro id entry c
  have hget : c.get id = .ok entry := by
    simp [Catalog.get, c]
  have hexpand : ∀ s paths, (Index.build Tree.interfaces).toOption.map (·.expand s) = some paths →
      index.expand s = paths := by
    intro s paths heq
    rw [hindex] at heq
    exact Option.some.inj heq
  have made : entry.tree.Reachable := Tree.interfaces_reachable
  have plain : entry.tree.Segmented := Tree.interfaces_segmented
  have hbuild : Index.build entry.tree = .ok entry.index := hindex
  obtain ⟨_, hexact⟩ := expandPath_exact made plain hbuild
  have hask : ∀ s, identityParam (Client.identityParams id (some s)) = .ok id := fun s =>
    Client.Query.identityParam_identityParams id (some s)
  obtain ⟨_, _, hfound⟩ := hexact c id _ "/interfaces/" (hask "/interfaces/") hget rfl
    ⟨'i', by decide, by decide⟩
  obtain ⟨_, hmissing, _⟩ := hexact c id _ "interfaces/type" (hask "interfaces/type") hget rfl
    ⟨'i', by decide, by decide⟩
  have hlisted : index.expand "/interfaces/" =
      [⟨"interfaces"⟩, ⟨"interfaces/mtu"⟩, ⟨"interfaces/name"⟩] := hexpand _ _ (by decide +kernel)
  obtain ⟨hlook, _, hmem⟩ := hfound (by rw [hlisted]; exact List.cons_ne_nil _ _)
  exact ⟨hlook, hmem, hmissing.mpr (hexpand _ _ (by decide +kernel))⟩

end Rpc

end SchemaCatalog
