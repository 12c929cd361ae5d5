import SchemaCatalog.Json.Variant
import SchemaCatalog.Proofs.Except
import SchemaCatalog.Proofs.Json.Sorted
import Mathlib.Data.List.Forall2

/-!
# Values are taken back from documents

`c.AcceptsBack x` says that the codec `c` takes `x` from the document that it writes `x` as, with the
members of all objects in it sorted. The codecs of single values do so for every value in their range,
lists if their items do.
-/

namespace SchemaCatalog.Json.Codec

variable {α β : Type} {c : Codec α} {x : α}

/-- A codec takes a value from the sorted document that it writes it as. -/
def AcceptsBack (c : Codec α) (x : α) : Prop := c.accept (c.toValue x) = .ok x

theorem AcceptsBack.fromValue (h : c.AcceptsBack x) : c.fromValue (c.toValue x) = .ok x := by
  rw [Codec.fromValue, h]

theorem acceptsBack_text (expected s : String) : (text expected).AcceptsBack s := by
  rw [AcceptsBack, toValue]
  rfl

theorem acceptsBack_integer (expected : String) {low high n : Int} (hlow : low ≤ n)
    (hhigh : n ≤ high) : (integer expected low high).AcceptsBack n := by
  show checkInteger expected low high (.integer n) = _
  rw [checkInteger, decide_eq_true hlow, decide_eq_true hhigh]
  rfl

/-- Another type is taken back through the codec that it is written by. -/
theorem AcceptsBack.imap {forth : α → β} {back : β → α} {y : β} (h : c.AcceptsBack (back y))
    (hy : forth (back y) = y) : (c.imap forth back).AcceptsBack y := by
  show (c.accept (c.toValue (back y))).map forth = _
  rw [h]
  exact congrArg Except.ok hy

theorem acceptsBack_natural (expected : String) {n : Nat} (h : (n : Int) ≤ Number.maxInteger) :
    (natural expected).AcceptsBack n :=
  (acceptsBack_integer expected (Int.natCast_nonneg n) h).imap rfl

theorem acceptsBack_variant {known : List (String × α)} {nameOf : α → String}
    (h : chooseVariant known (nameOf x) = .ok x) : (variant known nameOf).AcceptsBack x := by
  rw [AcceptsBack, toValue]
  exact h

theorem sorted_ne_null {v : Value} (h : v ≠ .null) : v.sorted ≠ .null := by
  cases v with
  | null => exact absurd rfl h
  | bool b => exact h
  | number n => exact h
  | string s => exact h
  | array items =>
    intro heq
    cases heq
  | object members =>
    intro heq
    cases heq

/-- A value is taken back if it is not written as `null`. -/
theorem AcceptsBack.some (h : c.AcceptsBack x) (hx : c.write x ≠ .null) :
    c.optional.AcceptsBack (some x) := by
  have hne := sorted_ne_null hx
  have haccept : c.accept (c.write x).sorted = .ok x := h
  show c.optional.accept (c.write x).sorted = _
  cases hv : (c.write x).sorted with
  | null => exact absurd hv hne
  | _ =>
    rw [hv] at haccept
    dsimp only [optional]
    rw [haccept]
    rfl

/-- A list is taken back if its items are. -/
theorem AcceptsBack.list {xs : List α} (h : ∀ x ∈ xs, c.AcceptsBack x) :
    (Codec.list c).AcceptsBack xs := by
  show (Value.sortedItems (xs.map c.write)).mapM c.accept = _
  rw [Value.sortedItems_eq_map, List.map_map, mapM_eq_ok_iff, List.forall₂_map_left_iff,
    List.forall₂_same]
  exact h

theorem plain_list {depth : Nat} {xs : List α} (h : ∀ x ∈ xs, (c.write x).Plain depth) :
    ((Codec.list c).write xs).Plain (depth + 1) := by
  show (Value.array (xs.map c.write)).Plain (depth + 1)
  rw [Value.Plain, Value.plainItems_iff]
  refine ⟨Nat.succ_pos depth, ?_⟩
  intro v hv
  obtain ⟨x, hx, rfl⟩ := List.mem_map.mp hv
  exact h x hx

end SchemaCatalog.Json.Codec
