import SchemaCatalog.Json.Scan
import SchemaCatalog.Proofs.Text.Utf8

/-!
# Integers are read back

The digits of a natural number below `2 ^ 64` are scanned as that number, and behind a minus sign as
its opposite if that is an integer of 64 bits (`scanNumber_natural`, `scanNumber_opposite`), as long
as no byte after them goes on with the number (`Ends`).
-/

namespace SchemaCatalog.Json

open Utf8 (encodeChars)

/-- The bytes after a number do not go on with it. -/
def Ends (rest : Bytes) : Prop :=
  ∀ b ∈ rest.head?, isDigit b = false ∧ b ≠ point ∧ b ≠ letterE ∧ b ≠ letterCapitalE

theorem ends_nil : Ends [] := by
  intro b hb
  cases hb

theorem ends_cons {b : UInt8} (h : isDigit b = false ∧ b ≠ point ∧ b ≠ letterE ∧ b ≠ letterCapitalE)
    (rest : Bytes) : Ends (b :: rest) := by
  intro b' hb'
  rw [← Option.mem_some.mp hb']
  exact h

/-! ### Digits -/

/-- The byte of a digit has the value of the digit. -/
theorem digit_byte {c : Char} (h : c.isDigit = true) :
    ∃ b, String.utf8EncodeChar c = [b] ∧ isDigit b = true ∧
      digitValue b = c.toNat - '0'.toNat ∧ (c ≠ '0' → b ≠ 0x30) := by
  rw [Char.isDigit, Bool.and_eq_true, decide_eq_true_eq, decide_eq_true_eq] at h
  have hlow : 48 ≤ c.toNat := h.1
  have hhigh : c.toNat ≤ 57 := h.2
  have hbyte := Utf8.toNat_byte (show c.toNat < 256 by omega)
  refine ⟨UInt8.ofNat c.toNat, Utf8.utf8EncodeChar_of_lt (by omega), ?_, ?_, ?_⟩
  · rw [isDigit, Bool.and_eq_true, decide_eq_true_eq, decide_eq_true_eq, UInt8.le_iff_toNat_le,
      UInt8.le_iff_toNat_le, hbyte]
    exact ⟨hlow, hhigh⟩
  · rw [digitValue, hbyte]
    rfl
  · intro hne heq
    rw [heq] at hbyte
    exact hne (Char.toNat_inj.mp hbyte.symm)

/-- The digits of a positive number do not start with a zero. -/
theorem toDigits_eq_cons {n : Nat} (hn : 0 < n) :
    ∃ d ds, Nat.toDigits 10 n = d :: ds ∧ d ≠ '0' := by
  induction n using Nat.strongRecOn with
  | ind n ih =>
    by_cases hlt : n < 10
    · refine ⟨n.digitChar, [], Nat.toDigits_of_lt_base hlt, ?_⟩
      intro hzero
      have hvalue := Nat.toNat_digitChar_of_lt_ten hlt
      rw [hzero] at hvalue
      have : 48 = 48 + n := hvalue
      omega
    · obtain ⟨d, ds, hdigits, hd⟩ := ih (n / 10) (by omega) (by omega)
      refine ⟨d, ds ++ [(n % 10).digitChar], ?_, hd⟩
      rw [Nat.toDigits_of_base_le (by decide) (by omega), hdigits, List.cons_append]

/-- Reading on makes a number no smaller. -/
theorem le_ofDigitChars (ds : List Char) (n : Nat) : n ≤ Nat.ofDigitChars 10 ds n := by
  induction ds generalizing n with
  | nil => exact Nat.le_refl n
  | cons d ds ih =>
    rw [Nat.ofDigitChars_cons]
    exact Nat.le_trans (by omega) (ih _)

/-- Digits are gathered into the number that they stand for, if that stays below the limit. -/
theorem gatherDigits_digits {rest : Bytes} (hrest : ∀ b ∈ rest.head?, isDigit b = false)
    {ds : List Char} (hds : ∀ d ∈ ds, d.isDigit = true) :
    ∀ {n : Nat} (count : Nat), Nat.ofDigitChars 10 ds n < significandLimit →
      gatherDigits n count (encodeChars ds ++ rest) =
        (Nat.ofDigitChars 10 ds n, count + ds.length, rest) := by
  induction ds with
  | nil =>
    intro n count _
    show gatherDigits n count rest = _
    cases rest with
    | nil => rfl
    | cons b rest =>
      rw [gatherDigits, hrest b rfl]
      rfl
  | cons d ds ih =>
    intro n count hlt
    obtain ⟨b, hb, hdigit, hvalue, _⟩ := digit_byte (hds d List.mem_cons_self)
    have hnext : n * 10 + digitValue b = 10 * n + (d.toNat - '0'.toNat) := by
      rw [hvalue, Nat.mul_comm]
    rw [Nat.ofDigitChars_cons] at hlt
    have hstep : n * 10 + digitValue b < significandLimit := by
      rw [hnext]
      exact Nat.lt_of_le_of_lt (le_ofDigitChars ds _) hlt
    rw [Utf8.encodeChars_cons, hb, List.singleton_append, List.cons_append, gatherDigits, hdigit,
      decide_eq_true hstep, Bool.and_self, if_pos rfl, hnext,
      ih (fun d' hd' => hds d' (List.mem_cons_of_mem d hd')) (count + 1) hlt,
      Nat.ofDigitChars_cons, List.length_cons, Nat.add_assoc, Nat.add_comm 1]

/-! ### Numbers -/

/-- A number ends where nothing goes on with it. -/
theorem scanAfterWhole_ends {rest : Bytes} (hrest : Ends rest) (negative : Bool) (n : Nat) :
    scanAfterWhole negative n 0 rest = .ok (.ofDigits negative n, rest) := by
  cases rest with
  | nil => rfl
  | cons b rest =>
    obtain ⟨_, hpoint, he, hcapital⟩ := hrest b rfl
    rw [scanAfterWhole, if_neg hpoint]
    simp [he, hcapital]

/-- No digit follows where a number ends. -/
theorem takeWhile_isDigit_ends {rest : Bytes} (hrest : Ends rest) : rest.takeWhile isDigit = [] := by
  cases rest with
  | nil => rfl
  | cons b rest => rw [List.takeWhile_cons, (hrest b rfl).1, if_neg Bool.false_ne_true]

/-- Zero is a single digit. -/
theorem scanNumber_zero {rest : Bytes} (hrest : Ends rest) (negative : Bool) :
    scanNumber negative (0x30 :: rest) = .ok (.ofDigits negative 0, rest) := by
  rw [scanNumber.eq_def]
  dsimp only
  rw [if_pos rfl]
  cases rest with
  | nil => rfl
  | cons b rest =>
    dsimp only
    rw [(hrest b rfl).1, if_neg Bool.false_ne_true]
    exact scanAfterWhole_ends hrest negative 0

/-- The digits of a number are scanned as the number. -/
theorem scanNumber_digits {rest : Bytes} (hrest : Ends rest) (negative : Bool) {n : Nat}
    (hn : n < significandLimit) :
    scanNumber negative (encodeChars (Nat.toDigits 10 n) ++ rest) =
      .ok (.ofDigits negative n, rest) := by
  have hdigits : ∀ d ∈ Nat.toDigits 10 n, d.isDigit = true := by
    intro d hd
    exact Nat.isDigit_of_mem_toDigits (by decide) (by decide) hd
  have hvalue : Nat.ofDigitChars 10 (Nat.toDigits 10 n) 0 = n := Nat.ofDigitChars_ten_toDigits
  rcases Nat.eq_zero_or_pos n with rfl | hpos
  · exact scanNumber_zero hrest negative
  · -- The first digit is no zero; the others are gathered behind it.
    obtain ⟨d, ds, hcons, hd⟩ := toDigits_eq_cons hpos
    rw [hcons] at hdigits hvalue
    obtain ⟨b, hb, hdigit, hfirst, hne⟩ := digit_byte (hdigits d List.mem_cons_self)
    have hstart : 10 * 0 + (d.toNat - '0'.toNat) = digitValue b := by omega
    rw [Nat.ofDigitChars_cons, hstart] at hvalue
    have hgather := gatherDigits_digits (fun c hc => (hrest c hc).1)
      (fun d' hd' => hdigits d' (List.mem_cons_of_mem d hd')) 0 (hvalue ▸ hn)
    rw [hcons, Utf8.encodeChars_cons, hb, List.singleton_append, List.cons_append,
      scanNumber.eq_def]
    dsimp only
    rw [if_neg (hne hd), hdigit, if_pos rfl, hgather]
    simp only [hvalue, takeWhile_isDigit_ends hrest, List.length_nil, List.drop_zero]
    exact scanAfterWhole_ends hrest negative n

/-- **A natural number is read back.** -/
theorem scanNumber_natural {rest : Bytes} (hrest : Ends rest) {n : Nat}
    (hn : n < significandLimit) :
    scanNumber false (encodeChars (Nat.toDigits 10 n) ++ rest) = .ok (.integer n, rest) :=
  scanNumber_digits hrest false hn

/-- **The opposite of a positive number is read back** from behind its sign. -/
theorem scanNumber_opposite {rest : Bytes} (hrest : Ends rest) {n : Nat} (hpos : 0 < n)
    (hn : n ≤ Nat.pow 2 63) :
    scanNumber true (encodeChars (Nat.toDigits 10 n) ++ rest) = .ok (.integer (-n), rest) := by
  have hlt : n < significandLimit := Nat.lt_of_le_of_lt hn (by decide)
  rw [scanNumber_digits hrest true hlt, Number.ofDigits, decide_eq_true hpos, decide_eq_true hn]
  rfl

/-- The digits of a number start with a digit. -/
theorem encodeChars_toDigits (n : Nat) :
    ∃ b bytes, encodeChars (Nat.toDigits 10 n) = b :: bytes ∧ isDigit b = true := by
  cases hcons : Nat.toDigits 10 n with
  | nil => exact absurd hcons Nat.toDigits_ne_nil
  | cons d ds =>
    have hd : d.isDigit = true :=
      Nat.isDigit_of_mem_toDigits (by decide) (by decide) (hcons ▸ List.mem_cons_self)
    obtain ⟨b, hb, hdigit, _⟩ := digit_byte hd
    refine ⟨b, encodeChars ds, ?_, hdigit⟩
    rw [Utf8.encodeChars_cons, hb, List.singleton_append]

end SchemaCatalog.Json
