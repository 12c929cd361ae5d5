import SchemaCatalog.DataPath
import SchemaCatalog.Proofs.Text.Split

/-!
# Paths and their segments

A path is `Bare` if it has no separator at either end; `trim` changes no other texts than those that are
not (`trim_eq_self_iff`).

Names without separators are found again as the segments of the path that is joined from them
(`segments_join`).

A path starts with another one if the pieces of that one are its first pieces (`startsWith_iff`). For
paths that are joined from names without separators, these pieces are the names (`startsWith_join_iff`).
-/

namespace SchemaCatalog.DataPath

/-! ### Separators at the ends -/

/-- There is no separator at either end of a path. -/
structure Bare (p : DataPath) : Prop where
  head?_ne : p.text.toList.head? ≠ some separator
  getLast?_ne : p.text.toList.getLast? ≠ some separator

theorem trim_eq_self_iff {p : DataPath} : trim p.text = p.text ↔ p.Bare := by
  rw [trim, ← String.toList_inj, String.toList_ofList, Text.trim_eq_self_iff]
  exact ⟨fun h => ⟨h.1, h.2⟩, fun h => ⟨h.head?_ne, h.getLast?_ne⟩⟩

/-- Nothing is left of separators only. -/
theorem trim_eq_empty_iff {s : String} : trim s = "" ↔ ∀ c ∈ s.toList, c = separator := by
  rw [trim, ← String.toList_inj, String.toList_ofList, ← Text.trim_eq_nil_iff]
  rfl

/-- Something is left of more than separators. -/
theorem trim_ne_empty_iff {s : String} : trim s ≠ "" ↔ ∃ c ∈ s.toList, c ≠ separator := by
  rw [Ne, trim_eq_empty_iff]
  push Not
  rfl

/-- The path that a text names is bare. -/
theorem bare_ofText (s : String) : (ofText s).Bare := by
  rw [← trim_eq_self_iff, ofText, trim, trim, String.toList_ofList, Text.trim_trim]

/-! ### Names as segments -/

/-- A name is one segment of a path: it is not empty, and holds no separator. -/
structure IsSegment (name : String) : Prop where
  ne_empty : name ≠ ""
  not_mem : separator ∉ name.toList

variable {names leads : List String}

theorem toList_join (names : List String) :
    (join names).text.toList = Text.join separator (names.map String.toList) :=
  String.toList_ofList

/-- One more name stands behind a separator, whatever it is. -/
theorem text_join_concat (hne : names ≠ []) (name : String) :
    (join (names ++ [name])).text = (join names).text ++ "/" ++ name := by
  have hjoin : Text.join separator (names.map String.toList ++ [name.toList]) =
      Text.join separator (names.map String.toList) ++ separator :: name.toList :=
    Text.join_append (by simpa using hne) (List.cons_ne_nil _ _)
  rw [← String.toList_inj, toList_join, List.map_append, List.map_singleton, hjoin, String.toList_append,
    String.toList_append, toList_join, List.append_assoc]
  rfl

/-- The pieces of a path that is joined from segments are these segments. -/
theorem split_join (h : ∀ name ∈ names, IsSegment name) (hne : names ≠ []) :
    Text.split separator (join names).text.toList = names.map String.toList := by
  rw [toList_join]
  apply Text.split_join
  · simpa using hne
  · intro piece hpiece
    obtain ⟨name, hname, rfl⟩ := List.mem_map.mp hpiece
    exact (h name hname).not_mem

/-- A path that is joined from segments has a text, unless there are none. -/
theorem text_join_ne_empty (h : ∀ name ∈ names, IsSegment name) (hne : names ≠ []) :
    (join names).text ≠ "" := by
  intro hempty
  have hsplit := split_join h hne
  obtain ⟨name, rest, rfl⟩ := List.exists_cons_of_ne_nil hne
  rw [hempty] at hsplit
  have hname : name = "" := by simp_all [Text.split]
  exact (h name List.mem_cons_self).ne_empty hname

/-- The segments of a path are those that it is joined from. -/
theorem segments_join (h : ∀ name ∈ names, IsSegment name) : (join names).segments = names := by
  by_cases hne : names = []
  · rw [hne]
    rfl
  · have hfilter : (names.map String.toList).filter (!·.isEmpty) = names.map String.toList := by
      rw [List.filter_eq_self]
      intro piece hpiece
      obtain ⟨name, hname, rfl⟩ := List.mem_map.mp hpiece
      simpa using (h name hname).ne_empty
    rw [segments, split_join h hne, hfilter, List.map_map]
    simp [Function.comp_def]

/-- A path is joined from one list of segments only. -/
theorem join_inj (h : ∀ name ∈ names, IsSegment name) (hleads : ∀ name ∈ leads, IsSegment name)
    (heq : join names = join leads) : names = leads := by
  rw [← segments_join h, heq, segments_join hleads]

/-- A path that is joined from segments is bare. -/
theorem bare_join (h : ∀ name ∈ names, IsSegment name) : (join names).Bare := by
  have hpieces : ∀ piece ∈ names.map String.toList, piece ≠ [] ∧ separator ∉ piece := by
    intro piece hpiece
    obtain ⟨name, hname, rfl⟩ := List.mem_map.mp hpiece
    refine ⟨?_, (h name hname).not_mem⟩
    simpa using (h name hname).ne_empty
  constructor
  · rw [toList_join, Text.head?_join fun piece hp => (hpieces piece hp).1]
    intro hhead
    obtain ⟨piece, hpiece, hsep⟩ := Option.bind_eq_some_iff.mp hhead
    exact (hpieces piece (List.mem_of_mem_head? hpiece)).2 (List.mem_of_mem_head? hsep)
  · rw [toList_join, Text.getLast?_join fun piece hp => (hpieces piece hp).1]
    intro hlast
    obtain ⟨piece, hpiece, hsep⟩ := Option.bind_eq_some_iff.mp hlast
    exact (hpieces piece (List.mem_of_getLast? hpiece)).2 (List.mem_of_getLast? hsep)

/-! ### Starting with a path -/

/-- A path starts with a text if that has separators only, or has the first pieces of the path once
its outer separators are off. -/
theorem startsWith_iff (p : DataPath) (lead : String) :
    p.startsWith lead = true ↔
      trim lead = "" ∨
        Text.split separator (trim lead).toList <+: Text.split separator p.text.toList := by
  rw [Text.isPrefix_split_iff]
  unfold startsWith trim
  cases htrim : Text.trim separator lead.toList with
  | nil => simp
  | cons c cs =>
    rw [String.toList_ofList]
    dsimp only
    cases hafter : Text.after? (c :: cs) p.text.toList with
    | none =>
      have hnot : ∀ rest, p.text.toList ≠ c :: cs ++ rest := by
        intro rest hrest
        rw [Text.after?_eq_some_iff.mpr hrest] at hafter
        cases hafter
      have hself := hnot []
      simp_all
    | some rest =>
      -- What is left is nothing, or it has to begin with a separator.
      rw [Text.after?_eq_some_iff.mp hafter]
      cases rest with
      | nil => simp
      | cons d rest => simp

/-- A path starts with every text of separators only. -/
theorem startsWith_empty (p : DataPath) : p.startsWith "" = true :=
  rfl

/-- A path starts with a text that names it. -/
theorem startsWith_ofText (s : String) : (ofText s).startsWith s = true :=
  (startsWith_iff _ s).mpr (.inr (List.prefix_refl _))

/-- A text that a path of segments starts with names the path of the first ones of these, unless it has
separators only. -/
theorem exists_prefix_of_startsWith (h : ∀ name ∈ names, IsSegment name)
    (hne : names ≠ []) {s : String} (hs : trim s ≠ "") (hstart : (join names).startsWith s = true) :
    ∃ lead, lead ≠ [] ∧ lead <+: names ∧ ofText s = join lead := by
  rw [startsWith_iff, split_join h hne] at hstart
  -- The pieces of the text are those of the first names, and joining them gives the text back.
  obtain ⟨rest, hrest⟩ := hstart.resolve_left hs
  obtain ⟨lead, more, rfl, hlead, _⟩ := List.map_eq_append_iff.mp hrest.symm
  refine ⟨lead, ?_, List.prefix_append lead more, ?_⟩
  · intro hnil
    rw [hnil] at hlead
    exact Text.split_ne_nil _ _ hlead.symm
  · rw [join, hlead, Text.join_split, String.ofList_toList, ofText]

/-- A path of segments starts with another one if the segments of that one come first. -/
theorem startsWith_join_iff (h : ∀ name ∈ names, IsSegment name)
    (hleads : ∀ name ∈ leads, IsSegment name) (hne : names ≠ []) (hne' : leads ≠ []) :
    (join names).startsWith (join leads).text = true ↔ leads <+: names := by
  rw [startsWith_iff, trim_eq_self_iff.mpr (bare_join hleads), split_join h hne,
    split_join hleads hne', List.prefix_map_iff_of_injective fun _ _ => String.toList_injective]
  simp [text_join_ne_empty hleads hne']

end SchemaCatalog.DataPath
