import SchemaCatalog.Proofs.Except
import SchemaCatalog.Proofs.Identity.Key
import SchemaCatalog.Settings
import Mathlib.Data.List.Nodup

/-!
# Settings that pass

The sources of settings that pass have identities that pass too, and that differ (`sources_of_check`). The
check compares keys: it keeps those that it has seen, and refuses a source whose key is among them
(`checkSources_eq_ok_iff`).
-/

namespace SchemaCatalog.Settings

variable {settings : Settings} {files : Files}

/-- Sources pass if each of them has a valid identity and lists a file, and if their keys differ from each
other and from those seen before. -/
theorem checkSources_eq_ok_iff {sources : List Source} :
    ∀ {seen : List String}, checkSources seen sources = .ok () ↔
      (∀ s ∈ sources, s.identity.check = .ok () ∧ s.files ≠ [] ∧ s.identity.key ∉ seen) ∧
        (sources.map fun s => s.identity.key).Nodup := by
  induction sources with
  | nil =>
    intro seen
    simp [checkSources]
  | cons s rest ih =>
    intro seen
    rw [checkSources, List.forall_mem_cons, List.map_cons, List.nodup_cons]
    cases hcheck : s.identity.check with
    | error flaw => simp
    | ok =>
      dsimp only
      split_ifs with hfiles hseen
      · simp [List.isEmpty_iff.mp hfiles]
      · simp [List.contains_iff_mem.mp hseen]
      · rw [List.contains_iff_mem] at hseen
        rw [List.isEmpty_iff] at hfiles
        rw [ih]
        constructor
        · rintro ⟨hrest, hnodup⟩
          have hnew : s.identity.key ∉ rest.map fun s => s.identity.key := by
            intro hmem
            obtain ⟨s', hs', hkey⟩ := List.mem_map.mp hmem
            exact (hrest s' hs').2.2 (by rw [hkey]; exact List.mem_cons_self)
          refine ⟨⟨⟨rfl, hfiles, hseen⟩, ?_⟩, hnew, hnodup⟩
          intro s' hs'
          obtain ⟨hcheck', hfiles', hseen'⟩ := hrest s' hs'
          exact ⟨hcheck', hfiles', fun hmem => hseen' (List.mem_cons_of_mem _ hmem)⟩
        · rintro ⟨⟨_, hrest⟩, hnew, hnodup⟩
          refine ⟨?_, hnodup⟩
          intro s' hs'
          obtain ⟨hcheck', hfiles', hseen'⟩ := hrest s' hs'
          refine ⟨hcheck', hfiles', ?_⟩
          rw [List.mem_cons, not_or]
          exact ⟨fun hkey => hnew (List.mem_map.mpr ⟨s', hs', hkey⟩), hseen'⟩

/-- The check of settings ends with that of their sources. -/
theorem checkSources_of_check (h : settings.check files = .ok ()) :
    checkSources [] settings.schemas = .ok () := by
  unfold check at h
  obtain ⟨_, _, h⟩ := bind_eq_ok_iff.mp h
  cases hmetrics : settings.metrics with
  | none =>
    rw [hmetrics] at h
    exact h
  | some metrics =>
    rw [hmetrics] at h
    obtain ⟨_, _, h⟩ := bind_eq_ok_iff.mp h
    exact h

/-- The identities of sources in settings that pass do so themselves, and differ. -/
theorem sources_of_check (h : settings.check files = .ok ()) :
    (∀ s ∈ settings.schemas, s.identity.check = .ok ()) ∧
      (settings.schemas.map Source.identity).Nodup := by
  obtain ⟨hsources, hnodup⟩ := checkSources_eq_ok_iff.mp (checkSources_of_check h)
  have hkeys : ((settings.schemas.map Source.identity).map Identity.key).Nodup := by
    rw [List.map_map]
    exact hnodup
  exact ⟨fun s hs => (hsources s hs).1, List.Nodup.of_map _ hkeys⟩

/-- Settings that are loaded have passed. -/
theorem check_of_load {path : String} (h : load files path = .ok settings) :
    settings.check files = .ok () := by
  unfold load at h
  obtain ⟨read, _, h⟩ := bind_eq_ok_iff.mp h
  obtain ⟨_, hcheck, h⟩ := bind_eq_ok_iff.mp h
  obtain rfl : read = settings := Except.ok.inj h
  exact hcheck

end SchemaCatalog.Settings
