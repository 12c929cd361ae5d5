import SchemaCatalog.Proofs.Index.Subtree

/-!
# Listing by segments

A text `Leads` a path if its pieces between slashes, outer slashes aside, are the first pieces of the path.
This is what the test of a path for a beginning comes to (`DataPath.startsWith_iff_leads`), whatever the path
and the text are made of. So `expand` lists the keys that a text leads. What a text leads, every text leads
that leads it (`DataPath.Leads.trans`), so that less is listed below a text that goes on with more segments
(`Index.expand_by_segments`).
-/

namespace SchemaCatalog

namespace DataPath

/-- The pieces of a text without its outer separators are the first ones of a path. A text of separators
only leads every path. -/
def Leads (lead : String) (p : DataPath) : Prop :=
  (∀ c ∈ lead.toList, c = separator) ∨
    Text.split separator (trim lead).toList <+: Text.split separator p.text.toList

variable {p : DataPath} {lead s : String}

/-- **A path starts with the texts that lead it.** -/
theorem startsWith_iff_leads : p.startsWith lead = true ↔ Leads lead p := by
  rw [startsWith_iff, trim_eq_empty_iff, Leads]

/-- What leads a text leads whatever that text leads. -/
theorem Leads.trans (hlead : Leads lead (ofText s)) (hs : Leads s p) : Leads lead p := by
  rcases hlead with hall | hpieces
  · exact .inl hall
  rcases hs with hall | hmore
  · -- Nothing is left of separators, so that nothing may be left of what leads them.
    rw [ofText, trim_eq_empty_iff.mpr hall] at hpieces
    rcases Text.isPrefix_split_iff.mp hpieces with hnil | ⟨rest, hrest⟩
    · exact .inl (trim_eq_empty_iff.mp (String.toList_injective hnil.symm))
    · simp at hrest
  · exact .inr (hpieces.trans hmore)

/-- A text leads what is made of it by adding more behind a separator. -/
theorem leads_append (lead more : String) : Leads lead (ofText (lead ++ "/" ++ more)) := by
  by_cases hall : ∀ c ∈ lead.toList, c = separator
  · exact .inl hall
  · refine .inr (Text.isPrefix_split_iff.mpr ?_)
    have hne : Text.trim separator lead.toList ≠ [] := mt Text.trim_eq_nil_iff.mp hall
    have hchars : (lead ++ "/" ++ more).toList = lead.toList ++ separator :: more.toList := by
      rw [String.toList_append, String.toList_append, List.append_assoc]
      rfl
    rw [ofText, trim, trim, String.toList_ofList, String.toList_ofList, hchars]
    exact Text.trim_append_cons hne more.toList

end DataPath

namespace Index

open DataPath (Leads)

variable {index : Index} {p : DataPath} {lead s : String}

theorem mem_paths_iff_mem_elements : p ∈ index.paths ↔ p.text ∈ index.elements := by
  rw [paths, List.mem_map, ← Std.TreeMap.mem_keys]
  constructor
  · rintro ⟨key, hkey, rfl⟩
    exact hkey
  · intro hkey
    exact ⟨p.text, hkey, rfl⟩

/-- What is listed are the keys that the text leads. -/
theorem mem_expand_iff_leads :
    p ∈ index.expand lead ↔ p.text ∈ index.elements ∧ Leads lead p := by
  rw [expand, List.mem_filter, mem_paths_iff_mem_elements, DataPath.startsWith_iff_leads]

/-- Less is listed below a text that another one leads. -/
theorem expand_sublist_of_leads (h : Leads lead (.ofText s)) :
    (index.expand s).Sublist (index.expand lead) := by
  refine List.monotone_filter_right _ ?_
  intro p hp
  exact DataPath.startsWith_iff_leads.mpr (h.trans (DataPath.startsWith_iff_leads.mp hp))

/-- **Paths are compared by segments.** A path starts with a text if this has slashes only, or if its pieces
between slashes, once the outer slashes are off, are the first pieces of the path. In every index, what is
listed below a text are the keys that start with it, in ascending order of their bytes. What is listed below
one that goes on with more segments is among that, in particular if it is made by adding more behind a
slash. -/
theorem expand_by_segments :
    (∀ (p : DataPath) (lead : String), p.startsWith lead = true ↔
      (∀ c ∈ lead.toList, c = '/') ∨
        Text.split '/' (DataPath.trim lead).toList <+: Text.split '/' p.text.toList) ∧
    ∀ (index : Index) (lead : String),
      (index.expand lead).Pairwise (fun p q => Utf8.encode p.text < Utf8.encode q.text) ∧
      (∀ p, p ∈ index.expand lead ↔ p.text ∈ index.elements ∧ Leads lead p) ∧
      (∀ s, Leads lead (.ofText s) → (index.expand s).Sublist (index.expand lead)) ∧
      ∀ more, (index.expand (lead ++ "/" ++ more)).Sublist (index.expand lead) := by
  refine ⟨fun p lead => DataPath.startsWith_iff_leads, fun index lead => ⟨?_, ?_, ?_, ?_⟩⟩
  · exact index.paths_ascending.filter _
  · intro p
    exact mem_expand_iff_leads
  · intro s h
    exact expand_sublist_of_leads h
  · intro more
    exact expand_sublist_of_leads (DataPath.leads_append lead more)

/-- The container leads the leaf in it, so that what is listed for the leaf is listed for the container; a
beginning of its name does not. -/
theorem expand_by_segments_interfaces :
    (DataPath.mk "interfaces/mtu").startsWith "interfaces//" = true ∧
      (DataPath.mk "interfaces/mtu").startsWith "interface" = false ∧
      ∃ index, build Tree.interfaces = .ok index ∧
        Leads "interfaces//" (.ofText "/interfaces/mtu/") ∧
        ⟨"interfaces/mtu"⟩ ∈ index.expand "/interfaces/mtu/" ∧
        ⟨"interfaces/mtu"⟩ ∈ index.expand "interfaces//" := by
  obtain ⟨index, hindex⟩ := exists_ok_of_isSome (x := build Tree.interfaces) rfl
  have hleads : Leads "interfaces//" (.ofText "/interfaces/mtu/") :=
    DataPath.startsWith_iff_leads.mp (by decide)
  have hlisted : index.expand "/interfaces/mtu/" = [⟨"interfaces/mtu"⟩] := by
    have heval : (build Tree.interfaces).toOption.map (·.expand "/interfaces/mtu/") =
        some [⟨"interfaces/mtu"⟩] := by decide +kernel
    rw [hindex] at heval
    exact Option.some.inj heval
  have hmem : ⟨"interfaces/mtu"⟩ ∈ index.expand "/interfaces/mtu/" := hlisted ▸ List.mem_cons_self
  have hsub := (expand_by_segments.2 index "interfaces//").2.2.1 _ hleads
  exact ⟨by decide, by decide, index, hindex, hleads, hmem, hsub.subset hmem⟩

end Index

end SchemaCatalog
