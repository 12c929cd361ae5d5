import SchemaCatalog.Proofs.Text.Utf8
import Mathlib.Data.String.Basic

/-!
# The order of texts is that of their bytes

Texts are compared character by character. Their bytes are in the same order (`encode_lt_iff`), because the
first byte in which two characters differ tells them apart in the right way, whatever follows them
(`precedes_utf8EncodeChar`).
-/

namespace SchemaCatalog.Utf8

open String (utf8EncodeChar)

/-- One run of bytes comes before another one, whatever follows either. -/
def Precedes (xs ys : Bytes) : Prop := ∀ more more', xs ++ more < ys ++ more'

theorem precedes_of_lt {x y : UInt8} (h : x < y) (xs ys : Bytes) : Precedes (x :: xs) (y :: ys) := by
  intro more more'
  rw [List.cons_append, List.cons_append, List.cons_lt_cons_iff]
  exact .inl h

theorem Precedes.cons {xs ys : Bytes} (h : Precedes xs ys) (x : UInt8) :
    Precedes (x :: xs) (x :: ys) := by
  intro more more'
  rw [List.cons_append, List.cons_append, List.cons_lt_cons_iff]
  exact .inr ⟨rfl, h more more'⟩

/-- Bytes that begin with the smaller number come first, and those that begin with the same number if
what follows it does. -/
theorem precedes_ofNat {a b : Nat} {xs ys : Bytes} (ha : a < 256) (hb : b < 256) (hle : a ≤ b)
    (h : a = b → Precedes xs ys) : Precedes (UInt8.ofNat a :: xs) (UInt8.ofNat b :: ys) := by
  rcases Nat.lt_or_eq_of_le hle with hlt | rfl
  · exact precedes_of_lt ((byte_lt_iff hb ha).mpr hlt) xs ys
  · exact (h rfl).cons _

/-- The bytes of a character come before those of every later one. -/
theorem precedes_utf8EncodeChar {c d : Char} (h : c < d) :
    Precedes (utf8EncodeChar c) (utf8EncodeChar d) := by
  have hlt : c.val.toNat < d.val.toNat := h
  have hmax : d.val.toNat ≤ 0x10FFFF := (toNat_bounds d).2
  unfold utf8EncodeChar
  generalize c.val.toNat = v at hlt
  generalize d.val.toNat = w at hlt hmax
  dsimp only
  -- A byte is a digit of the code point, with a mark that grows with the number of bytes. Each round
  -- compares one byte; after the last one the code points would be the same.
  split_ifs
  all_goals
    repeat first
      | omega
      | refine precedes_ofNat (by omega) (by omega) (by omega) fun _ => ?_

/-- A character has bytes. -/
theorem utf8EncodeChar_ne_nil (c : Char) : utf8EncodeChar c ≠ [] := by
  unfold utf8EncodeChar
  dsimp only
  split_ifs <;> exact List.cons_ne_nil _ _

/-- Characters in ascending order have bytes in ascending order. -/
theorem encodeChars_lt {cs ds : List Char} (h : cs < ds) : encodeChars cs < encodeChars ds := by
  induction cs generalizing ds with
  | nil =>
    cases ds with
    | nil => exact absurd h (List.lt_irrefl _)
    | cons d ds =>
      obtain ⟨b, bs, hb⟩ := List.exists_cons_of_ne_nil (utf8EncodeChar_ne_nil d)
      rw [encodeChars_cons, hb]
      exact List.nil_lt_cons b _
  | cons c cs ih =>
    cases ds with
    | nil => exact absurd h (List.not_lt_nil _)
    | cons d ds =>
      rw [encodeChars_cons, encodeChars_cons]
      rcases List.cons_lt_cons_iff.mp h with hlt | ⟨rfl, hlt⟩
      · exact precedes_utf8EncodeChar hlt _ _
      · exact List.append_left_lt (ih hlt)

/-- **Texts are in the order of their bytes.** -/
theorem encode_lt_iff {a b : String} : encode a < encode b ↔ compare a b = .lt := by
  rw [compare_lt_iff_lt]
  constructor
  · intro h
    rcases lt_trichotomy a b with hlt | rfl | hgt
    · exact hlt
    · exact absurd h (List.lt_irrefl _)
    · exact absurd (List.lt_trans h (encodeChars_lt hgt)) (List.lt_irrefl _)
  · intro h
    exact encodeChars_lt h

end SchemaCatalog.Utf8
