import SchemaCatalog.Json.Scan
import SchemaCatalog.Proofs.Text.Utf8

/-!
# String literals are read back

The literal of a text is scanned as that text, whatever comes after it (`scanString_literal`). The
scanner goes from byte to byte; `Stage.run` is what it does with bytes that do not end the literal, and
the bytes of each escaped character take it from `plain` back to `plain` with the bytes of the
character itself added (`run_escapeChar`).
-/

namespace SchemaCatalog.Json

open Utf8 (encodeChars)

/-- What bytes inside a literal add to it, and the stage after them; nothing if they end it or are
faulty. -/
def Stage.run (stage : Stage) : Bytes → Option (Stage × Bytes)
  | [] => some (stage, [])
  | b :: rest =>
    if stage = .plain ∧ b = quote then none
    else
      match stage.step b with
      | .error _ => none
      | .ok (next, added) => (run next rest).map fun r => (r.1, added ++ r.2)

theorem scanBytes_run {bytes : Bytes} :
    ∀ {stage last : Stage} {added : Bytes}, stage.run bytes = some (last, added) →
      ∀ read rest, scanBytes stage read (bytes ++ rest) = scanBytes last (added.reverse ++ read) rest := by
  induction bytes with
  | nil =>
    intro stage last added h read rest
    rw [Stage.run, Option.some.injEq, Prod.mk.injEq] at h
    obtain ⟨rfl, rfl⟩ := h
    rfl
  | cons b bytes ih =>
    intro stage last added h read rest
    rw [Stage.run] at h
    split_ifs at h with hend
    cases hstep : stage.step b with
    | error reason =>
      rw [hstep] at h
      cases h
    | ok result =>
      obtain ⟨next, first⟩ := result
      rw [hstep] at h
      obtain ⟨⟨last', more⟩, hrun, heq⟩ := Option.map_eq_some_iff.mp h
      obtain ⟨rfl, rfl⟩ := Prod.mk.inj heq
      rw [List.cons_append, scanBytes, if_neg hend, hstep]
      dsimp only
      rw [ih hrun, List.reverse_append, List.append_assoc]

/-- Bytes of characters that are not escaped stand for themselves. -/
theorem run_plain {bytes : Bytes}
    (h : ∀ b ∈ bytes, 0x20 ≤ b ∧ b ≠ quote ∧ b ≠ backslash) :
    Stage.plain.run bytes = some (.plain, bytes) := by
  induction bytes with
  | nil => rfl
  | cons b bytes ih =>
    obtain ⟨hcontrol, hquote, hbackslash⟩ := h b List.mem_cons_self
    have hrest := ih fun b' hb' => h b' (List.mem_cons_of_mem b hb')
    have hstep : Stage.plain.step b = .ok (.plain, [b]) := by
      rw [Stage.step, if_neg hbackslash, if_neg (UInt8.not_lt.mpr hcontrol)]
    rw [Stage.run, if_neg (fun hend => hquote hend.2), hstep]
    dsimp only
    rw [hrest]
    rfl

/-- The escapes of controls. -/
theorem run_control : ∀ n < 0x20,
    Stage.plain.run (encodeChars (Value.escapeChar (Char.ofNat n))) =
      some (.plain, String.utf8EncodeChar (Char.ofNat n)) := by
  decide

/-- A character that is no control, quote or backslash stands for itself. -/
theorem escapeChar_eq_self {c : Char} (hcontrol : ¬ c.toNat < 0x20) (hquote : c ≠ '"')
    (hbackslash : c ≠ '\\') : Value.escapeChar c = [c] := by
  have hcode : ∀ d : Char, d.toNat < 0x20 → c ≠ d := by
    rintro d hd rfl
    exact hcontrol hd
  rw [Value.escapeChar, if_neg hquote, if_neg hbackslash, if_neg (hcode '\n' (by decide)),
    if_neg (hcode '\r' (by decide)), if_neg (hcode '\t' (by decide)), if_neg (by omega),
    if_neg (by omega), if_neg (by omega), if_neg hcontrol]

/-- No byte of such a character is a control, a quote or a backslash. -/
theorem plain_utf8EncodeChar {c : Char} (hcontrol : ¬ c.toNat < 0x20) (hquote : c ≠ '"')
    (hbackslash : c ≠ '\\') :
    ∀ b ∈ String.utf8EncodeChar c, 0x20 ≤ b ∧ b ≠ quote ∧ b ≠ backslash := by
  intro b hb
  by_cases hascii : c.toNat < 0x80
  · rw [Utf8.utf8EncodeChar_of_lt hascii, List.mem_singleton] at hb
    have hbyte : b.toNat = c.toNat := by rw [hb, Utf8.toNat_byte (by omega)]
    refine ⟨?_, ?_, ?_⟩
    · rw [UInt8.le_iff_toNat_le, hbyte]
      exact Nat.not_lt.mp hcontrol
    · rintro rfl
      exact hquote (Char.toNat_inj.mp hbyte.symm)
    · rintro rfl
      exact hbackslash (Char.toNat_inj.mp hbyte.symm)
  · -- All bytes of the others lie above those of ASCII.
    have hle := Utf8.le_of_mem_utf8EncodeChar (Nat.not_lt.mp hascii) hb
    refine ⟨UInt8.le_trans (by decide) hle, ?_, ?_⟩
    · rintro rfl
      exact absurd hle (by decide)
    · rintro rfl
      exact absurd hle (by decide)

/-- What stands for a character adds the bytes of the character. -/
theorem run_escapeChar (c : Char) :
    Stage.plain.run (encodeChars (Value.escapeChar c)) =
      some (.plain, String.utf8EncodeChar c) := by
  by_cases hcontrol : c.toNat < 0x20
  · have h := run_control c.toNat hcontrol
    rwa [Char.ofNat_toNat] at h
  by_cases hquote : c = '"'
  · rw [hquote]
    decide
  by_cases hbackslash : c = '\\'
  · rw [hbackslash]
    decide
  rw [escapeChar_eq_self hcontrol hquote hbackslash, Utf8.encodeChars_cons]
  show Stage.plain.run (String.utf8EncodeChar c ++ []) = _
  rw [List.append_nil]
  exact run_plain (plain_utf8EncodeChar hcontrol hquote hbackslash)

/-- Escaped characters up to the closing quote are scanned as the bytes of the characters. -/
theorem scanBytes_literal (cs : List Char) (read rest : Bytes) :
    scanBytes .plain read (encodeChars (cs.flatMap Value.escapeChar) ++ quote :: rest) =
      .ok (read.reverse ++ encodeChars cs, rest) := by
  induction cs generalizing read with
  | nil =>
    show scanBytes .plain read (quote :: rest) = _
    rw [scanBytes, if_pos ⟨rfl, rfl⟩]
    show Except.ok (read.reverse, rest) = .ok (read.reverse ++ [], rest)
    rw [List.append_nil]
  | cons c cs ih =>
    rw [List.flatMap_cons, Utf8.encodeChars_append, List.append_assoc,
      scanBytes_run (run_escapeChar c), ih, List.reverse_append, List.reverse_reverse,
      List.append_assoc, Utf8.encodeChars_cons]

/-- **The literal of a text is read back**, from behind its opening quote. -/
theorem scanString_literal (s : String) (rest : Bytes) :
    scanString (encodeChars (s.toList.flatMap Value.escapeChar ++ ['"']) ++ rest) = .ok (s, rest) := by
  have hquote : encodeChars ['"'] = [quote] := by decide
  rw [scanString, Utf8.encodeChars_append, hquote, List.append_assoc, List.singleton_append,
    scanBytes_literal]
  dsimp only
  rw [List.reverse_nil, List.nil_append, Utf8.split_encodeChars]
  show Except.ok (String.ofList s.toList, rest) = _
  rw [String.ofList_toList]

end SchemaCatalog.Json
