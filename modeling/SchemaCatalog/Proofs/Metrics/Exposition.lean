import SchemaCatalog.Metrics.Exposition
import SchemaCatalog.Proofs.Binary64.Whole

/-!
# The number of schemas in the text

Whatever families the system adds, the text has three lines that belong together: the help and the type of the
number of schemas, and the number that was looked at last, in its own digits (`exposition_setSchemas`). The
families are put in order, which keeps the lines of each one together (`exists_lines_eq`).
-/

namespace SchemaCatalog.Metrics

variable {n : Nat}

/-- A natural number below `2 ^ 53` is shown with its digits. -/
theorem numberText_ofNat (hlt : n < 2 ^ 53) : numberText (Binary64.ofNat n) = toString n := by
  rw [numberText, layout, Binary64.text_ofNat hlt]
  exact Nat.repr_eq_ofList_toDigits.symm

/-- The number of schemas is shown with its digits. -/
theorem schemasText_setSchemas (m : Metrics) (hlt : n < 2 ^ 53) :
    (m.setSchemas n).schemasText = toString n := by
  have hint : (m.setSchemas n).schemas.toInt = (n : Int) := Int64.toInt_ofNat_of_lt (by omega)
  have hpositive : (Binary64.ofNat n).negative = false := by
    by_cases hn : n = 0
    · subst hn
      rfl
    · rw [Binary64.ofNat_eq_whole hn hlt]
      rfl
  unfold schemasText
  rw [hint]
  dsimp only
  rw [Int.natAbs_natCast, decide_eq_false (by omega), ← hpositive, ← numberText_ofNat hlt]

/-- The lines of the number of schemas, where there are `n`. -/
def schemasLines (n : Nat) : List String :=
  ["# HELP schema_registry_schemas Schemas currently registered",
    "# TYPE schema_registry_schemas gauge", "schema_registry_schemas " ++ toString n]

theorem lines_schemasFamily (m : Metrics) (hlt : n < 2 ^ 53) :
    (m.setSchemas n).schemasFamily.lines = schemasLines n := by
  have hhelp : "# HELP " ++ "schema_registry_schemas" ++ " " ++ "Schemas currently registered" =
      "# HELP schema_registry_schemas Schemas currently registered" := by decide +kernel
  have htype : "# TYPE " ++ "schema_registry_schemas" ++ " " ++ "gauge" =
      "# TYPE schema_registry_schemas gauge" := by decide +kernel
  have hname : "schema_registry_schemas" ++ " " = "schema_registry_schemas " := by decide +kernel
  show ["# HELP " ++ "schema_registry_schemas" ++ " " ++ "Schemas currently registered",
    "# TYPE " ++ "schema_registry_schemas" ++ " " ++ "gauge",
    "schema_registry_schemas" ++ " " ++ (m.setSchemas n).schemasText] = _
  rw [hhelp, htype, hname, schemasText_setSchemas m hlt, schemasLines]

/-- The lines of each family that is shown stand together. -/
theorem exists_lines_eq (process : List Family) (m : Metrics) {f : Family}
    (hf : f ∈ process ++ [m.schemasFamily, m.latencyFamily, m.requestsFamily]) :
    ∃ before rest, m.lines process = before ++ f.lines ++ rest := by
  have hsorted := (List.mergeSort_perm _ fun a b => decide (a.name ≤ b.name)).mem_iff.mpr hf
  obtain ⟨before, rest, hsplit⟩ := List.append_of_mem hsorted
  refine ⟨before.flatMap Family.lines, rest.flatMap Family.lines, ?_⟩
  rw [lines, hsplit, List.flatMap_append, List.flatMap_cons, List.append_assoc]

/-- **The text has the lines of the number of schemas**, whatever the system tells about the process. -/
theorem exposition_setSchemas (process : List Family) (m : Metrics) (hlt : n < 2 ^ 53) :
    ∃ before rest, (m.setSchemas n).exposition process = ofLines (before ++ schemasLines n ++ rest) := by
  obtain ⟨before, rest, hlines⟩ := (m.setSchemas n).exists_lines_eq process
    (List.mem_append_right process List.mem_cons_self)
  rw [lines_schemasFamily m hlt] at hlines
  exact ⟨before, rest, congrArg ofLines hlines⟩

end SchemaCatalog.Metrics
