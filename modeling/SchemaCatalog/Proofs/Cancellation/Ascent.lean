import Mathlib.Logic.Relation
import Mathlib.Tactic.Common

/-!
# Going up by parents

`up` gives the parent of a place, if it has one. A place `Ascends` to those that are reached from it by going
up any number of times. Where parents stand before their children (`Falls`), this hangs on no parents but those
of the place and of what stands before it (`ascends_congr`), so that a place that is added behind all others
changes nothing for them (`ascends_push_iff`).

A place can be taken out by giving its children to its parent: whatever else was reached by going up is reached
as before (`ascends_bypass_iff`).
-/

namespace SchemaCatalog

/-- A place is reached from another one by going up. -/
def Ascends (up : Nat → Option Nat) : Nat → Nat → Prop :=
  Relation.ReflTransGen fun place above => up place = some above

/-- Parents stand before their children. -/
def Falls (up : Nat → Option Nat) : Prop := ∀ {place above}, up place = some above → above < place

variable {up up' : Nat → Option Nat} {place above last middle : Nat}

/-- What is reached is the place itself, or is reached from its parent. -/
theorem ascends_iff : Ascends up place above ↔
    above = place ∨ ∃ parent, up place = some parent ∧ Ascends up parent above :=
  Relation.ReflTransGen.cases_head_iff.trans (or_congr_left eq_comm)

theorem ascends_of_top (h : up place = none) : Ascends up place above ↔ above = place := by
  rw [ascends_iff, h]
  simp

theorem ascends_of_parent {parent : Nat} (h : up place = some parent) :
    Ascends up place above ↔ above = place ∨ Ascends up parent above := by
  rw [ascends_iff, h]
  simp

theorem Ascends.le (h : Ascends up place above) (falls : Falls up) : above ≤ place := by
  induction h with
  | refl => exact Nat.le_refl _
  | tail _ hparent ih => exact Nat.le_of_lt (Nat.lt_of_lt_of_le (falls hparent) ih)

/-- What is reached from a place hangs on the parents up to there only. -/
theorem ascends_congr (falls : Falls up) (same : ∀ i ≤ place, up' i = up i) :
    Ascends up' place above ↔ Ascends up place above := by
  induction place using Nat.strongRecOn with
  | ind place ih =>
    have hplace := same place (Nat.le_refl _)
    cases hup : up place with
    | none => rw [ascends_of_top hup, ascends_of_top (hplace.trans hup)]
    | some parent =>
      have hlt := falls hup
      rw [ascends_of_parent hup, ascends_of_parent (hplace.trans hup),
        ih parent hlt fun i hi => same i (Nat.le_trans hi (Nat.le_of_lt hlt))]

/-! ### A place behind all others -/

section Push

variable {parent? : Option Nat} (falls : Falls up) (tops : ∀ i, last ≤ i → up i = none)
  (push : ∀ i, up' i = if i = last then parent? else up i) (before : ∀ p, parent? = some p → p < last)

include falls push before in
theorem falls_push : Falls up' := by
  intro place above habove
  rw [push] at habove
  split_ifs at habove with hlast
  · exact hlast ▸ before above habove
  · exact falls habove

include falls tops push before

/-- From the new place the parent is reached and what that reaches; for all others nothing changes. -/
theorem ascends_push_iff (hne : above ≠ last) : Ascends up' place above ↔
    if place = last then ∃ p, parent? = some p ∧ Ascends up p above else Ascends up place above := by
  have hbefore : ∀ {i}, i < last → (Ascends up' i above ↔ Ascends up i above) := by
    intro i hi
    refine ascends_congr falls ?_
    intro j hj
    rw [push, if_neg (Nat.ne_of_lt (Nat.lt_of_le_of_lt hj hi))]
  have hplace := push place
  split_ifs with hlast
  · rw [if_pos hlast] at hplace
    cases hp : parent? with
    | none =>
      rw [ascends_of_top (hplace.trans hp), hlast]
      simp [hne]
    | some p =>
      rw [ascends_of_parent (hplace.trans hp), hlast, or_iff_right hne, hbefore (before p hp)]
      simp
  · rw [if_neg hlast] at hplace
    rcases Nat.lt_or_gt_of_ne hlast with hlt | hgt
    · exact hbefore hlt
    · have htop := tops place (Nat.le_of_lt hgt)
      rw [ascends_of_top htop, ascends_of_top (hplace.trans htop)]

/-- The new place is reached from itself only. -/
theorem ascends_push_last_iff : Ascends up' place last ↔ place = last := by
  constructor
  · intro h
    have hle := h.le (falls_push falls push before)
    by_contra hne
    have htop := push place
    rw [if_neg hne, tops place hle] at htop
    exact hne ((ascends_of_top htop).mp h).symm
  · rintro rfl
    exact .refl

end Push

/-! ### A place that is taken out -/

section Bypass

variable (falls : Falls up) (bypass : ∀ i, up' i = if up i = some middle then up middle else up i)

include falls bypass

theorem falls_bypass : Falls up' := by
  intro place above habove
  rw [bypass] at habove
  split_ifs at habove with hmiddle
  · exact Nat.lt_trans (falls habove) (falls hmiddle)
  · exact falls habove

/-- **A place that gives its children to its parent is passed by.** -/
theorem ascends_bypass_iff (hne : above ≠ middle) :
    Ascends up' place above ↔ Ascends up place above := by
  induction place using Nat.strongRecOn with
  | ind place ih =>
    have hplace := bypass place
    cases hup : up place with
    | none =>
      rw [hup, if_neg (Option.some_ne_none middle).symm] at hplace
      rw [ascends_of_top hup, ascends_of_top hplace]
    | some parent =>
      have hlt := falls hup
      rw [hup] at hplace
      rw [ascends_of_parent hup]
      by_cases hmiddle : parent = middle
      · -- The place now has the parent of the one that is taken out.
        rw [hmiddle, if_pos rfl] at hplace
        rw [hmiddle] at hlt ⊢
        cases htop : up middle with
        | none => rw [ascends_of_top (hplace.trans htop), ascends_of_top htop, or_iff_left hne]
        | some next =>
          rw [ascends_of_parent (hplace.trans htop), ascends_of_parent htop, or_iff_right hne,
            ih next (Nat.lt_trans (falls htop) hlt)]
      · rw [if_neg (mt Option.some.inj hmiddle)] at hplace
        rw [ascends_of_parent hplace, ih parent hlt]

end Bypass

end SchemaCatalog
