import SchemaCatalog.Binary64.Shortest
import Mathlib.Tactic.Common
import Mathlib.Tactic.Ring

/-!
# Whole numbers are shown as they are

A natural number below `2 ^ 53` is a floating-point number itself (`ofNat_eq_whole`), and the text of this
one, if it has a plain point and whole numbers have none, is that of the natural number (`text_ofNat`).

The values that read back as it are less than 1 away from it, so that no other whole number is among them
(`readsBack_whole_iff`). As decimals are tried from the coarsest grid on, the grid of whole numbers is
reached, and whatever is found before it is this number with zeros left out.
-/

namespace SchemaCatalog.Binary64

/-- A natural number with bits behind the point. -/
def whole (places n : Nat) : Binary64 := ⟨false, n * 2 ^ places, -(places : Int)⟩

variable {places n : Nat}

/-! ### Natural numbers as values -/

theorem powerOfTwo_neg (k : Nat) : powerOfTwo (-(k : Int)) = (1, 2 ^ k) := by
  simp [powerOfTwo]

theorem ratio_whole (places n : Nat) : (whole places n).ratio = (n * 2 ^ places, 2 ^ places) := by
  simp [ratio, whole, powerOfTwo_neg]

/-- A natural number below `2 ^ 53` is kept, with as many bits behind the point as there is room for. -/
theorem ofNat_eq_whole (hn : n ≠ 0) (hlt : n < 2 ^ 53) : ofNat n = whole (52 - n.log2) n := by
  have hlog : n.log2 < 53 := (Nat.log2_lt hn).mpr hlt
  obtain ⟨p, hp⟩ : ∃ p, 52 = n.log2 + p := ⟨52 - n.log2, by omega⟩
  have hlow : 2 ^ 52 ≤ n * 2 ^ p := by
    rw [hp, pow_add]
    exact Nat.mul_le_mul_right _ (Nat.log2_self_le hn)
  have hhigh : n * 2 ^ p < 2 ^ 53 := by
    have hself : n < 2 ^ (n.log2 + 1) := Nat.lt_log2_self
    have hpow : 2 ^ 53 = 2 ^ (n.log2 + 1) * 2 ^ p := by
      rw [← pow_add]
      congr 1
      omega
    rw [hpow]
    exact Nat.mul_lt_mul_of_pos_right hself (Nat.two_pow_pos p)
  -- The quotient has 53 bits with `p` of them behind the point, and nothing is rounded away.
  have hexponent : exponentOf n 1 = -(p : Int) := by
    have hestimate : (n.log2 : Int) - ((Nat.log2 1 : Nat) : Int) - 52 = -(p : Int) := by
      have hone : Nat.log2 1 = 0 := by decide
      rw [hone]
      omega
    have hbit : ¬ n * 2 ^ p < Nat.pow 2 52 * (1 * 1) := by simpa using hlow
    have hmin : ¬ -(p : Int) < minExponent := by
      unfold minExponent
      omega
    unfold exponentOf
    simp only [hestimate, powerOfTwo_neg]
    rw [if_neg hbit, if_neg hmin]
  have hround : roundToEven (n * 2 ^ p) (1 * 1) = n * 2 ^ p := by
    simp [roundToEven, Nat.mod_one]
  have hplaces : 52 - n.log2 = p := by omega
  have hmax : ¬ maxExponent < -(p : Int) := by
    unfold maxExponent
    omega
  have hbits : n * 2 ^ p ≠ Nat.pow 2 53 := Nat.ne_of_lt hhigh
  unfold ofNat ofRatio
  simp only [hexponent, powerOfTwo_neg, hround, if_neg hn]
  rw [if_neg hbits, if_neg hmax, Option.getD_some, hplaces]
  rfl

/-! ### What reads back -/

theorem gapBelow_pos (x : Binary64) : 0 < x.gapBelow ∧ x.gapBelow ≤ 2 := by
  unfold gapBelow
  split_ifs <;> decide

/-- Comparing whole decimals with quotients. -/
theorem leScaled_whole {a b d e : Nat} :
    leScaled a b 0 d 1 (e : Int) = decide (a ≤ d * 10 ^ e * b) ∧
      leScaled d 1 (e : Int) a b 0 = decide (d * 10 ^ e * b ≤ a) := by
  simp [leScaled]

/-- Of whole decimals, only the number itself reads back. -/
theorem readsBack_whole_iff (hn : n ≠ 0) {d e : Nat} :
    (whole places n).readsBack ⟨d, (e : Int)⟩ = true ↔ d * 10 ^ e = n := by
  obtain ⟨hgap, hgap'⟩ := (whole places n).gapBelow_pos
  have hexponent : (whole places n).exponent - 2 = -((places + 2 : Nat) : Int) := by
    show -(places : Int) - 2 = _
    push_cast
    ring
  have hscale : 4 * (whole places n).significand = n * 2 ^ (places + 2) := by
    show 4 * (n * 2 ^ places) = _
    ring
  have hunit : 4 ≤ 2 ^ (places + 2) := by
    rw [pow_add]
    exact Nat.le_mul_of_pos_left 4 (Nat.two_pow_pos places)
  unfold readsBack
  simp only [hexponent, powerOfTwo_neg, hscale, mul_one, leScaled_whole]
  generalize (whole places n).gapBelow = gap at hgap hgap'
  generalize 2 ^ (places + 2) = unit at hunit
  generalize d * 10 ^ e = m
  have hpos : unit ≤ n * unit := Nat.le_mul_of_pos_left unit (Nat.pos_of_ne_zero hn)
  constructor
  · intro h
    -- The ends of the interval are less than one whole away from the number.
    have hnear : n * unit < m * unit + unit ∧ m * unit < n * unit + unit := by
      split_ifs at h
      · simp only [Bool.and_eq_true, decide_eq_true_eq] at h
        omega
      · simp only [Bool.and_eq_true, Bool.not_eq_true', decide_eq_false_iff_not] at h
        omega
    -- Whole numbers that are less than one unit apart are equal.
    rw [← Nat.succ_mul, ← Nat.succ_mul] at hnear
    have hle : n < m + 1 := Nat.lt_of_mul_lt_mul_right hnear.1
    have hge : m < n + 1 := Nat.lt_of_mul_lt_mul_right hnear.2
    omega
  · rintro rfl
    split_ifs
    · simp only [Bool.and_eq_true, decide_eq_true_eq]
      omega
    · simp only [Bool.and_eq_true, Bool.not_eq_true', decide_eq_false_iff_not]
      omega

/-! ### The decimals that are tried -/

/-- A decimal that is tried on a grid reads back, and is on that grid. -/
theorem readsBack_of_mem_gridCandidates {x : Binary64} {e : Int} {d : Decimal}
    (h : d ∈ x.gridCandidates e) : x.readsBack d = true ∧ d.exponent = e := by
  unfold gridCandidates at h
  obtain ⟨hmem, hreads⟩ := List.mem_filter.mp h
  obtain ⟨digits, _, rfl⟩ := List.mem_map.mp hmem
  exact ⟨hreads, rfl⟩

/-- A natural number is found on the grid of whole numbers. -/
theorem mem_gridCandidates_whole (hn : n ≠ 0) : ⟨n, 0⟩ ∈ (whole places n).gridCandidates 0 := by
  have hreads : (whole places n).readsBack ⟨n, 0⟩ = true := by
    have hself : n * 10 ^ 0 = n := by rw [pow_zero, mul_one]
    exact (readsBack_whole_iff (e := 0) hn).mpr hself
  have hbelow : n * 2 ^ places / 2 ^ places = n := Nat.mul_div_cancel n (Nat.two_pow_pos places)
  unfold gridCandidates
  simp only [ratio_whole, Int.neg_zero, Int.toNat_zero, Nat.pow_eq, pow_zero, mul_one, hbelow]
  rw [List.mem_filter]
  refine ⟨?_, hreads⟩
  split_ifs <;> simp

/-- The search for the order of a number stops at the first power of ten that does not exceed it. -/
theorem descend_spec {num den : Nat} {least : Int} (hleast : leScaled 1 1 least num den 0 = true) :
    ∀ (steps : Nat) (k : Int), least ≤ k → k ≤ least + steps →
      least ≤ decimalOrder.descend num den steps k ∧
        leScaled 1 1 (decimalOrder.descend num den steps k) num den 0 = true := by
  intro steps
  induction steps with
  | zero =>
    intro k hlow hhigh
    obtain rfl : k = least := by omega
    rw [decimalOrder.descend]
    exact ⟨hlow, hleast⟩
  | succ steps ih =>
    intro k hlow hhigh
    rw [decimalOrder.descend]
    split_ifs with hk
    · exact ⟨hlow, hk⟩
    · have hne : k ≠ least := by
        rintro rfl
        exact hk hleast
      exact ih (k - 1) (by omega) (by push_cast at hhigh; omega)

theorem leScaled_order_iff {k : Nat} :
    leScaled 1 1 (k : Int) (n * 2 ^ places) (2 ^ places) 0 = true ↔ 10 ^ k ≤ n := by
  have hpos : 0 < 2 ^ places := Nat.two_pow_pos places
  simp [leScaled, hpos]

/-- A natural number below `2 ^ 53` has at most sixteen digits. -/
theorem decimalOrder_whole (hn : n ≠ 0) (hlt : n < 2 ^ 53) (places : Nat) :
    ∃ k : Nat, k ≤ 15 ∧ decimalOrder (n * 2 ^ places) (2 ^ places) = (k : Int) := by
  have hlog : n.log2 < 53 := (Nat.log2_lt hn).mpr hlt
  have hestimate : ((n * 2 ^ places).log2 : Int) - ((2 ^ places).log2 : Int) = (n.log2 : Int) := by
    have hlog2 : (n * 2 ^ places).log2 = n.log2 + places := by
      rw [Nat.log2_eq_iff (Nat.mul_ne_zero hn (Nat.two_pow_pos places).ne')]
      constructor
      · rw [pow_add]
        exact Nat.mul_le_mul_right _ (Nat.log2_self_le hn)
      · rw [Nat.add_right_comm, pow_add]
        exact Nat.mul_lt_mul_of_pos_right Nat.lt_log2_self (Nat.two_pow_pos places)
    rw [hlog2, Nat.log2_two_pow]
    omega
  -- The estimate is at most two too high, and so the search gets down to a power that fits.
  have hleast : ∀ l < 53, 10 ^ (l * 30103 / 100000) ≤ 2 ^ l := by decide
  have hfits : 10 ^ (n.log2 * 30103 / 100000) ≤ n :=
    (hleast _ hlog).trans (Nat.log2_self_le hn)
  have hscaled : leScaled 1 1 ((n.log2 * 30103 / 100000 : Nat) : Int) (n * 2 ^ places) (2 ^ places) 0 =
      true := leScaled_order_iff.mpr hfits
  obtain ⟨hlow, horder⟩ := descend_spec hscaled 8 ((n.log2 : Int) * 30103 / 100000 + 2)
    (by push_cast; omega) (by push_cast; omega)
  have hdecimal : decimalOrder (n * 2 ^ places) (2 ^ places) =
      decimalOrder.descend (n * 2 ^ places) (2 ^ places) 8 ((n.log2 : Int) * 30103 / 100000 + 2) := by
    unfold decimalOrder
    rw [hestimate]
  rw [hdecimal]
  generalize decimalOrder.descend _ _ _ _ = order at hlow horder
  obtain ⟨k, rfl⟩ : ∃ k : Nat, order = k := ⟨order.toNat, by push_cast at hlow; omega⟩
  refine ⟨k, ?_, rfl⟩
  have hk : 10 ^ k ≤ n := leScaled_order_iff.mp horder
  by_contra hgt
  have hpow : 10 ^ 16 ≤ 10 ^ k := Nat.pow_le_pow_right (by decide) (by omega)
  omega

/-- The shortest decimal of a natural number below `2 ^ 53` is this number, perhaps without zeros at its
end. -/
theorem shortest_whole (hn : n ≠ 0) (hlt : n < 2 ^ 53) (places : Nat) :
    ∃ d e : Nat, (whole places n).shortest = ⟨d, (e : Int)⟩ ∧ d * 10 ^ e = n := by
  obtain ⟨k, hk, horder⟩ := decimalOrder_whole hn hlt places
  let attempt (i : Nat) : Option Decimal := ((whole places n).gridCandidates ((k : Int) - i)).head?
  have hsplit : List.range 17 = List.range (k + 1) ++ (List.range (16 - k)).map (k + 1 + ·) := by
    rw [← List.range_add]
    congr 1
    omega
  -- At the latest the grid of whole numbers gives a decimal.
  have hlast : (attempt k).isSome = true := by
    have hgrid : (k : Int) - (k : Int) = 0 := Int.sub_self k
    have hmem : ⟨n, 0⟩ ∈ (whole places n).gridCandidates 0 := mem_gridCandidates_whole hn
    show ((whole places n).gridCandidates ((k : Int) - k)).head?.isSome = true
    rw [hgrid, List.isSome_head?]
    exact List.ne_nil_of_mem hmem
  have hsome : ((List.range (k + 1)).findSome? attempt).isSome = true := by
    rw [List.findSome?_isSome_iff]
    exact ⟨k, List.mem_range.mpr (Nat.lt_succ_self k), hlast⟩
  obtain ⟨found, hfound⟩ := Option.isSome_iff_exists.mp hsome
  obtain ⟨i, hi, htry⟩ := List.exists_of_findSome?_eq_some hfound
  obtain ⟨hreads, hexponent⟩ := readsBack_of_mem_gridCandidates (List.mem_of_head? htry)
  have hshortest : (whole places n).shortest = found := by
    unfold shortest
    simp only [ratio_whole, horder]
    show ((List.range 17).findSome? attempt).getD ⟨0, 0⟩ = found
    rw [hsplit, List.findSome?_append, hfound, Option.some_or, Option.getD_some]
  have hi : i ≤ k := Nat.lt_succ_iff.mp (List.mem_range.mp hi)
  obtain ⟨d, e⟩ := found
  have hexponent : e = (k : Int) - i := hexponent
  obtain rfl : e = ((k - i : Nat) : Int) := by omega
  exact ⟨d, k - i, hshortest, (readsBack_whole_iff hn).mp hreads⟩

/-! ### The text -/

/-- Leaving zeros out does not change a decimal. -/
theorem trim_go_spec : ∀ (steps n e : Nat), n ≠ 0 →
    ∃ n' e' : Nat, Decimal.trim.go steps n (e : Int) = ⟨n', (e' : Int)⟩ ∧ n' ≠ 0 ∧
      n' * 10 ^ e' = n * 10 ^ e := by
  intro steps
  induction steps with
  | zero =>
    intro n e hn
    exact ⟨n, e, rfl, hn, rfl⟩
  | succ steps ih =>
    intro n e hn
    rw [Decimal.trim.go]
    by_cases hzero : n % 10 = 0
    · have hten : n / 10 * 10 = n := Nat.div_mul_cancel (Nat.dvd_of_mod_eq_zero hzero)
      obtain ⟨n', e', hgo, hn', heq⟩ := ih (n / 10) (e + 1) (by omega)
      refine ⟨n', e', ?_, hn', ?_⟩
      · rw [if_pos (by simp [hzero, hn])]
        exact hgo
      · rw [heq, pow_succ', ← mul_assoc, hten]
    · refine ⟨n, e, ?_, hn, rfl⟩
      rw [if_neg (by simp [hzero])]

/-- Zeros at the end of digits stand for powers of ten. -/
theorem toDigits_mul_pow (hn : n ≠ 0) (e : Nat) :
    Nat.toDigits 10 (n * 10 ^ e) = Nat.toDigits 10 n ++ List.replicate e '0' := by
  induction e with
  | zero => simp
  | succ e ih =>
    have hpos : 0 < n * 10 ^ e := Nat.mul_pos (Nat.pos_of_ne_zero hn) (Nat.pow_pos (by decide))
    have hstep := Nat.toDigits_append_toDigits (b := 10) (d := 0) (by decide) hpos (by decide)
    rw [pow_succ, ← mul_assoc, mul_comm _ 10, ← Nat.add_zero (10 * _), ← hstep, ih,
      List.append_assoc, List.replicate_succ']
    rfl

/-- Whole decimals are set without a point. -/
theorem set_whole (hn : n ≠ 0) (e : Nat) (plus : Bool) :
    (⟨n, (e : Int)⟩ : Decimal).set ⟨none, none, false, plus⟩ = Nat.toDigits 10 (n * 10 ^ e) := by
  have hlength : 0 < (Nat.toDigits 10 n).length := List.length_pos_iff.mpr Nat.toDigits_ne_nil
  rw [toDigits_mul_pow hn]
  unfold Decimal.set withPoint
  simp only [Option.all_none, Bool.and_self, if_true, Bool.false_eq_true, if_false, List.append_nil]
  rw [if_neg (by omega), if_neg (by omega)]
  congr 2
  omega

/-- **Whole numbers are shown as they are**, if a plain point is asked for and whole numbers have none. -/
theorem text_ofNat (hlt : n < 2 ^ 53) (plus : Bool) :
    (ofNat n).text ⟨none, none, false, plus⟩ = Nat.toDigits 10 n := by
  by_cases hn : n = 0
  · subst hn
    rw [Nat.toDigits_zero]
    rfl
  · rw [ofNat_eq_whole hn hlt]
    generalize 52 - n.log2 = places
    obtain ⟨d, e, hshortest, heq⟩ := shortest_whole hn hlt places
    have hd : d ≠ 0 := by
      rintro rfl
      rw [zero_mul] at heq
      exact hn heq.symm
    obtain ⟨d', e', htrim, hd', heq'⟩ := trim_go_spec 20 d e hd
    have hzero : (whole places n).isZero = false := by
      simpa [isZero, whole] using hn
    have htext : (whole places n).shortest.trim = ⟨d', (e' : Int)⟩ := by
      rw [hshortest]
      exact htrim
    unfold text
    rw [hzero, htext, set_whole hd', heq', heq]
    rfl

end SchemaCatalog.Binary64
