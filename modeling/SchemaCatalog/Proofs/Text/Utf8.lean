import SchemaCatalog.Text.Utf8
import Mathlib.Tactic.Common

/-!
# Text as bytes and back

Characters that are laid out in bytes are read back (`split_encodeChars`), and no byte of a character
beyond ASCII is an ASCII byte (`le_of_mem_utf8EncodeChar`), so that scanners of bytes never take a part
of one character for another one. The bytes of a text are those of its characters
(`toList_toUTF8`).
-/

namespace SchemaCatalog.Utf8

open String (utf8EncodeChar)

theorem toNat_byte {n : Nat} (h : n < 256) : (UInt8.ofNat n).toNat = n :=
  UInt8.toNat_ofNat_of_lt' h

/-! ### Bytes of one character -/

/-- A byte that carries six bits of a character continues it. -/
theorem isContinuation_byte {n : Nat} (h : n < 0x40) :
    isContinuation (UInt8.ofNat (n + 0x80)) = true := by
  rw [isContinuation, Bool.and_eq_true, decide_eq_true_eq, decide_eq_true_eq,
    UInt8.le_iff_toNat_le, UInt8.le_iff_toNat_le, toNat_byte (by omega)]
  exact ⟨Nat.le_add_left 128 n, show n + 128 ≤ 191 by omega⟩

theorem le_byte_iff {a n : Nat} (ha : a < 256) (hn : n < 256) :
    UInt8.ofNat a ≤ UInt8.ofNat n ↔ a ≤ n := by
  rw [UInt8.le_iff_toNat_le, toNat_byte ha, toNat_byte hn]

theorem byte_lt_iff {a n : Nat} (ha : a < 256) (hn : n < 256) :
    UInt8.ofNat n < UInt8.ofNat a ↔ n < a := by
  rw [UInt8.lt_iff_toNat_lt, toNat_byte ha, toNat_byte hn]

theorem ofTwo?_encode {v : Nat} (h1 : 0x7F < v) (h2 : v ≤ 0x7FF) :
    ofTwo? (UInt8.ofNat (v / 64 % 0x20 + 0xC0)) (UInt8.ofNat (v % 0x40 + 0x80)) =
      some (Char.ofNat v) := by
  have hb := isContinuation_byte (Nat.mod_lt v (show 0 < 0x40 by decide))
  have hlow : (0xC2 : UInt8) ≤ UInt8.ofNat (v / 64 % 0x20 + 0xC0) :=
    show UInt8.ofNat 0xC2 ≤ _ from (le_byte_iff (by decide) (by omega)).mpr (by omega)
  have hhigh : UInt8.ofNat (v / 64 % 0x20 + 0xC0) ≤ (0xDF : UInt8) :=
    show _ ≤ UInt8.ofNat 0xDF from (le_byte_iff (by omega) (by decide)).mpr (by omega)
  have hv : (v / 64 % 0x20 + 0xC0 - 0xC0) * 64 + (v % 0x40 + 0x80 - 0x80) = v := by omega
  rw [ofTwo?, hb, decide_eq_true hlow, decide_eq_true hhigh, toNat_byte (by omega),
    toNat_byte (by omega), hv]
  rfl

theorem ofThree?_encode {v : Nat} (h1 : 0x7FF < v) (h2 : v ≤ 0xFFFF)
    (hsurrogate : ¬ (0xD800 ≤ v ∧ v ≤ 0xDFFF)) :
    ofThree? (UInt8.ofNat (v / 4096 % 0x10 + 0xE0)) (UInt8.ofNat (v / 64 % 0x40 + 0x80))
      (UInt8.ofNat (v % 0x40 + 0x80)) = some (Char.ofNat v) := by
  have hb := isContinuation_byte (Nat.mod_lt (v / 64) (show 0 < 0x40 by decide))
  have hc := isContinuation_byte (Nat.mod_lt v (show 0 < 0x40 by decide))
  have hlow : (0xE0 : UInt8) ≤ UInt8.ofNat (v / 4096 % 0x10 + 0xE0) :=
    show UInt8.ofNat 0xE0 ≤ _ from (le_byte_iff (by decide) (by omega)).mpr (by omega)
  have hhigh : UInt8.ofNat (v / 4096 % 0x10 + 0xE0) ≤ (0xEF : UInt8) :=
    show _ ≤ UInt8.ofNat 0xEF from (le_byte_iff (by omega) (by decide)).mpr (by omega)
  have hv : (v / 4096 % 0x10 + 0xE0 - 0xE0) * 4096 + (v / 64 % 0x40 + 0x80 - 0x80) * 64 +
      (v % 0x40 + 0x80 - 0x80) = v := by omega
  have hchar : (0x800 ≤ v && !(0xD800 ≤ v && v ≤ 0xDFFF)) = true := by
    simp only [Bool.and_eq_true, decide_eq_true_eq, Bool.not_eq_true', ← Bool.not_eq_true]
    exact ⟨by omega, hsurrogate⟩
  rw [ofThree?, hb, hc, decide_eq_true hlow, decide_eq_true hhigh, toNat_byte (by omega),
    toNat_byte (by omega), toNat_byte (by omega), hv]
  simp only [Bool.true_and, hchar, if_true]

theorem ofFour?_encode {v : Nat} (h1 : 0xFFFF < v) (h2 : v ≤ 0x10FFFF) :
    ofFour? (UInt8.ofNat (v / 262144 % 0x08 + 0xF0)) (UInt8.ofNat (v / 4096 % 0x40 + 0x80))
      (UInt8.ofNat (v / 64 % 0x40 + 0x80)) (UInt8.ofNat (v % 0x40 + 0x80)) =
      some (Char.ofNat v) := by
  have hb := isContinuation_byte (Nat.mod_lt (v / 4096) (show 0 < 0x40 by decide))
  have hc := isContinuation_byte (Nat.mod_lt (v / 64) (show 0 < 0x40 by decide))
  have hd := isContinuation_byte (Nat.mod_lt v (show 0 < 0x40 by decide))
  have hlow : (0xF0 : UInt8) ≤ UInt8.ofNat (v / 262144 % 0x08 + 0xF0) :=
    show UInt8.ofNat 0xF0 ≤ _ from (le_byte_iff (by decide) (by omega)).mpr (by omega)
  have hhigh : UInt8.ofNat (v / 262144 % 0x08 + 0xF0) ≤ (0xF4 : UInt8) :=
    show _ ≤ UInt8.ofNat 0xF4 from (le_byte_iff (by omega) (by decide)).mpr (by omega)
  have hv : (v / 262144 % 0x08 + 0xF0 - 0xF0) * 262144 + (v / 4096 % 0x40 + 0x80 - 0x80) * 4096 +
      (v / 64 % 0x40 + 0x80 - 0x80) * 64 + (v % 0x40 + 0x80 - 0x80) = v := by omega
  have hchar : (0x10000 ≤ v && v ≤ 0x10FFFF) = true := by
    simp only [Bool.and_eq_true, decide_eq_true_eq]
    omega
  rw [ofFour?, hb, hc, hd, decide_eq_true hlow, decide_eq_true hhigh, toNat_byte (by omega),
    toNat_byte (by omega), toNat_byte (by omega), toNat_byte (by omega), hv]
  simp only [Bool.true_and, hchar, if_true]

/-- A code point is no surrogate, and at most `0x10FFFF`. -/
theorem toNat_bounds (c : Char) :
    ¬ (0xD800 ≤ c.toNat ∧ c.toNat ≤ 0xDFFF) ∧ c.toNat ≤ 0x10FFFF := by
  have h : c.toNat.isValidChar := c.valid
  rcases h with h | ⟨h, h'⟩ <;> omega

theorem splitFrom_ascii (read : List Char) {b : UInt8} (h : b < 0x80) (rest : Bytes) :
    splitFrom read (b :: rest) = splitFrom (Char.ofNat b.toNat :: read) rest := by
  rw [splitFrom.eq_def]
  exact if_pos h

/-- The bytes of a character are read back. -/
theorem splitFrom_encodeChar (read : List Char) (c : Char) (rest : Bytes) :
    splitFrom read (utf8EncodeChar c ++ rest) = splitFrom (c :: read) rest := by
  have hc : Char.ofNat c.toNat = c := Char.ofNat_toNat c
  obtain ⟨hsurrogate, hmax⟩ := toNat_bounds c
  have hval : c.val.toNat = c.toNat := rfl
  rw [utf8EncodeChar, hval]
  -- The first byte alone tells how many there are.
  split_ifs with h1 h2 h3
  · have hlt : UInt8.ofNat c.toNat < 0x80 :=
      show _ < UInt8.ofNat 0x80 from (byte_lt_iff (by decide) (by omega)).mpr (by omega)
    rw [List.singleton_append, splitFrom_ascii read hlt, toNat_byte (by omega), hc]
  · have hge : ¬ UInt8.ofNat (c.toNat / 64 % 0x20 + 0xC0) < 0x80 := by
      rw [show (0x80 : UInt8) = UInt8.ofNat 0x80 from rfl, byte_lt_iff (by decide) (by omega)]
      omega
    have hlt : UInt8.ofNat (c.toNat / 64 % 0x20 + 0xC0) < 0xE0 :=
      show _ < UInt8.ofNat 0xE0 from (byte_lt_iff (by decide) (by omega)).mpr (by omega)
    rw [List.cons_append, List.singleton_append, splitFrom, if_neg hge, if_pos hlt]
    simp only [ofTwo?_encode (Nat.not_le.mp h1) h2, hc]
  · have hge : ¬ UInt8.ofNat (c.toNat / 4096 % 0x10 + 0xE0) < 0x80 := by
      rw [show (0x80 : UInt8) = UInt8.ofNat 0x80 from rfl, byte_lt_iff (by decide) (by omega)]
      omega
    have hge' : ¬ UInt8.ofNat (c.toNat / 4096 % 0x10 + 0xE0) < 0xE0 := by
      rw [show (0xE0 : UInt8) = UInt8.ofNat 0xE0 from rfl, byte_lt_iff (by decide) (by omega)]
      omega
    have hlt : UInt8.ofNat (c.toNat / 4096 % 0x10 + 0xE0) < 0xF0 :=
      show _ < UInt8.ofNat 0xF0 from (byte_lt_iff (by decide) (by omega)).mpr (by omega)
    rw [List.cons_append, List.cons_append, List.singleton_append, splitFrom, if_neg hge,
      if_neg hge', if_pos hlt]
    simp only [ofThree?_encode (Nat.not_le.mp h2) h3 hsurrogate, hc]
  · have hge : ¬ UInt8.ofNat (c.toNat / 262144 % 0x08 + 0xF0) < 0x80 := by
      rw [show (0x80 : UInt8) = UInt8.ofNat 0x80 from rfl, byte_lt_iff (by decide) (by omega)]
      omega
    have hge' : ¬ UInt8.ofNat (c.toNat / 262144 % 0x08 + 0xF0) < 0xE0 := by
      rw [show (0xE0 : UInt8) = UInt8.ofNat 0xE0 from rfl, byte_lt_iff (by decide) (by omega)]
      omega
    have hge'' : ¬ UInt8.ofNat (c.toNat / 262144 % 0x08 + 0xF0) < 0xF0 := by
      rw [show (0xF0 : UInt8) = UInt8.ofNat 0xF0 from rfl, byte_lt_iff (by decide) (by omega)]
      omega
    rw [List.cons_append, List.cons_append, List.cons_append, List.singleton_append, splitFrom,
      if_neg hge, if_neg hge', if_neg hge'']
    simp only [ofFour?_encode (Nat.not_le.mp h3) hmax, hc]

/-- The only byte of an ASCII character is its code. -/
theorem utf8EncodeChar_of_lt {c : Char} (h : c.toNat < 0x80) :
    utf8EncodeChar c = [UInt8.ofNat c.toNat] := by
  rw [utf8EncodeChar]
  exact if_pos (Nat.le_of_lt_succ h)

/-- No byte of another character is an ASCII byte. -/
theorem le_of_mem_utf8EncodeChar {c : Char} (h : 0x80 ≤ c.toNat) {b : UInt8}
    (hb : b ∈ utf8EncodeChar c) : 0x80 ≤ b := by
  have hval : c.val.toNat = c.toNat := rfl
  have hbyte : ∀ n, 0x80 ≤ n → n < 256 → (0x80 : UInt8) ≤ UInt8.ofNat n := by
    intro n hle hlt
    exact (le_byte_iff (by decide) hlt).mpr hle
  rw [utf8EncodeChar, hval] at hb
  split_ifs at hb with h1 h2 h3
  · omega
  all_goals
    simp only [List.mem_cons, List.not_mem_nil, or_false] at hb
  · rcases hb with rfl | rfl <;> exact hbyte _ (by omega) (by omega)
  · rcases hb with rfl | rfl | rfl <;> exact hbyte _ (by omega) (by omega)
  · rcases hb with rfl | rfl | rfl | rfl <;> exact hbyte _ (by omega) (by omega)

/-! ### Bytes of a text -/

theorem splitFrom_encodeChars (cs read : List Char) :
    splitFrom read (encodeChars cs) = (read.reverse ++ cs, []) := by
  induction cs generalizing read with
  | nil => rw [encodeChars, List.flatMap_nil, splitFrom, List.append_nil]
  | cons c cs ih =>
    rw [encodeChars, List.flatMap_cons, splitFrom_encodeChar]
    show splitFrom (c :: read) (encodeChars cs) = _
    rw [ih, List.reverse_cons, List.append_assoc, List.singleton_append]

/-- **Characters that are laid out in bytes are read back.** -/
theorem split_encodeChars (cs : List Char) : split (encodeChars cs) = (cs, []) :=
  splitFrom_encodeChars cs []

theorem encodeChars_cons (c : Char) (cs : List Char) :
    encodeChars (c :: cs) = utf8EncodeChar c ++ encodeChars cs :=
  List.flatMap_cons

theorem encodeChars_append (cs cs' : List Char) :
    encodeChars (cs ++ cs') = encodeChars cs ++ encodeChars cs' :=
  List.flatMap_append

/-- Taking the bytes of an array from a place on. -/
theorem toList_loop (bytes : ByteArray) (left : Nat) :
    ∀ (i : Nat) (read : Bytes), bytes.size = i + left →
      ByteArray.toList.loop bytes i read = read.reverse ++ bytes.data.toList.drop i := by
  induction left with
  | zero =>
    intro i read h
    have hend : bytes.data.toList.length ≤ i := Nat.le_of_eq h
    rw [ByteArray.toList.loop, if_neg (by omega), List.drop_eq_nil_of_le hend, List.append_nil]
  | succ left ih =>
    intro i read h
    have hlt : i < bytes.data.toList.length := by
      show i < bytes.size
      omega
    have hbyte : bytes.get! i = bytes.data.toList[i] := getElem!_pos bytes.data i hlt
    rw [ByteArray.toList.loop, if_pos (by omega), ih (i + 1) _ (by omega),
      List.drop_eq_getElem_cons hlt, hbyte, List.reverse_cons, List.append_assoc,
      List.singleton_append]

/-- The bytes of a text are those of its characters. -/
theorem toList_toUTF8 (cs : List Char) : (String.ofList cs).toUTF8.toList = encodeChars cs := by
  show (cs.flatMap utf8EncodeChar).toByteArray.toList = _
  rw [ByteArray.toList, toList_loop _ _ 0 [] (Nat.zero_add _).symm, List.drop_zero,
    List.toList_data_toByteArray]
  rfl

end SchemaCatalog.Utf8
