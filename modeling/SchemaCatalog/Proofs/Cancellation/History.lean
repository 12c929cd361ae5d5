import SchemaCatalog.Cancellation
import SchemaCatalog.Proofs.Cancellation.Ascent

/-!
# What was done with tokens

A `History` only records: which token each one was made as a child of, which token a name is on, and which
tokens were asked to be cancelled. It marks nothing, and forgets nothing when a name is dropped. A token is
`Ended` if it, or one that it descends from, was asked to be cancelled at any time.

Tokens are made from earlier ones (`Ordered`), so that no token descends from one that descends from it, nor
from one with the same parent (`Ordered.not_descends_of_beside`). What is ended stays so (`Ended.step`).
-/

namespace SchemaCatalog

/-- What was done with tokens. -/
structure History where
  /-- The tokens in the order they were made, each with the one it was made as a child of. -/
  origins : List (Option Nat)
  /-- The token that a name is on. -/
  names : String → Option Nat
  /-- The tokens that some handle was used to cancel. -/
  called : List Nat

namespace History

open Forest (Step)

/-- Nothing was done. -/
def empty : History := ⟨[], fun _ => none, []⟩

/-- A name is put on a token, or on none. -/
def name (h : History) (name : String) (token? : Option Nat) : History :=
  { h with names := fun other => if other = name then token? else h.names other }

/-- A token is made, without a name. -/
def make (h : History) (origin? : Option Nat) : History := { h with origins := h.origins ++ [origin?] }

/-- A token is asked to be cancelled. -/
def call (h : History) (token : Nat) : History := { h with called := token :: h.called }

/-- What is recorded of a step. A step from or on a name that is on no token does nothing. -/
def step (h : History) : Step → History
  | .new name => (h.make none).name name (some h.origins.length)
  | .clone name source =>
    match h.names source with
    | some token => h.name name (some token)
    | none => h
  | .child name source =>
    match h.names source with
    | some token => (h.make (some token)).name name (some h.origins.length)
    | none => h
  | .cancel name =>
    match h.names name with
    | some token => h.call token
    | none => h
  | .drop name => h.name name none

/-- The history of steps. -/
def ofSteps (steps : List Step) : History := steps.foldl step empty

/-- The token that one was made as a child of. -/
def origin? (h : History) (token : Nat) : Option Nat := h.origins[token]?.join

/-- A token is another one, or was made as a child of it or of one that descends from it. -/
def Descends (h : History) : Nat → Nat → Prop := Ascends h.origin?

/-- A token was asked to be cancelled, or one that it descends from was. -/
def Ended (h : History) (token : Nat) : Prop := ∃ above ∈ h.called, h.Descends token above

/-- Somebody has a handle on a token. -/
def Live (h : History) (token : Nat) : Prop := ∃ name, h.names name = some token

/-- Another token is one that a token descends from, or was made as a child of the same one. -/
def Beside (h : History) (token other : Nat) : Prop :=
  other ≠ token ∧ (h.Descends token other ∨ h.origin? other = h.origin? token)

variable {h : History} {token above other : Nat}

theorem origin?_make (h : History) (origin? : Option Nat) (token : Nat) :
    (h.make origin?).origin? token =
      if token = h.origins.length then origin? else h.origin? token := by
  rw [History.origin?, make, List.getElem?_append]
  split_ifs <;> grind [History.origin?]

theorem origin?_of_length_le (hle : h.origins.length ≤ token) : h.origin? token = none := by
  rw [origin?, List.getElem?_eq_none hle]
  rfl

/-- A name that is put on a token leaves no other token with a handle that had none. -/
theorem live_name {name : String} (hlive : (h.name name (some token)).Live other) :
    h.Live other ∨ other = token := by
  obtain ⟨name', hname'⟩ := hlive
  simp only [History.name] at hname'
  split_ifs at hname'
  · exact .inr (Option.some.inj hname').symm
  · exact .inl ⟨name', hname'⟩

theorem live_of_name_none {name : String} (hlive : (h.name name none).Live other) : h.Live other := by
  obtain ⟨name', hname'⟩ := hlive
  simp only [History.name] at hname'
  split_ifs at hname'
  exact ⟨name', hname'⟩

theorem ended_call_iff : (h.call token).Ended other ↔ h.Descends other token ∨ h.Ended other := by
  simp only [Ended, call, List.mem_cons, exists_eq_or_imp]
  rfl

/-- Tokens are made from earlier ones, and are there when they are asked to be cancelled. -/
structure Ordered (h : History) : Prop where
  falls : Falls h.origin?
  called_lt : ∀ token ∈ h.called, token < h.origins.length

theorem ordered_empty : empty.Ordered where
  falls horigin := by cases horigin
  called_lt _ hcalled := by cases hcalled

/-- No token descends from one beside which it stands. -/
theorem Ordered.not_descends_of_beside (ordered : h.Ordered) (hbeside : h.Beside token other) :
    ¬ h.Descends other token := by
  obtain ⟨hne, hbeside⟩ := hbeside
  intro hdescends
  have hle := hdescends.le ordered.falls
  rcases hbeside with habove | horigin
  · have := habove.le ordered.falls
    omega
  · rcases ascends_iff.mp hdescends with heq | ⟨parent, hparent, hbelow⟩
    · exact hne heq.symm
    · -- The parent of both would descend from one of them.
      have := hbelow.le ordered.falls
      have := ordered.falls (horigin ▸ hparent)
      omega

section Make

variable {origin? : Option Nat} (ordered : h.Ordered)
  (before : ∀ parent, origin? = some parent → parent < h.origins.length)

include ordered before

theorem Ordered.make : (h.make origin?).Ordered where
  falls := falls_push ordered.falls (h.origin?_make origin?) before
  called_lt token htoken := by
    rw [History.make, List.length_append]
    exact Nat.lt_add_right _ (ordered.called_lt token htoken)

/-- A new token descends from what its parent descends from, and nothing changes for all others. -/
theorem Ordered.descends_make_iff (hne : above ≠ h.origins.length) :
    (h.make origin?).Descends token above ↔
      if token = h.origins.length then ∃ parent, origin? = some parent ∧ h.Descends parent above
      else h.Descends token above :=
  ascends_push_iff ordered.falls (fun _ => origin?_of_length_le) (h.origin?_make origin?) before hne

/-- Nothing but itself descends from a new token. -/
theorem Ordered.descends_make_last_iff :
    (h.make origin?).Descends token h.origins.length ↔ token = h.origins.length :=
  ascends_push_last_iff ordered.falls (fun _ => origin?_of_length_le) (h.origin?_make origin?) before

/-- A new token is ended if its parent is. -/
theorem Ordered.ended_make_iff : (h.make origin?).Ended token ↔
    if token = h.origins.length then ∃ parent, origin? = some parent ∧ h.Ended parent
    else h.Ended token := by
  -- The new token is none of those that were asked to be cancelled.
  have hdescends : ∀ above ∈ h.called, ((h.make origin?).Descends token above ↔ _) :=
    fun above hcalled => ordered.descends_make_iff before (Nat.ne_of_lt (ordered.called_lt above hcalled))
  have hended : (h.make origin?).Ended token ↔
      ∃ above ∈ h.called, (h.make origin?).Descends token above := Iff.rfl
  rw [hended, exists_congr fun above => and_congr_right (hdescends above)]
  split_ifs
  · constructor
    · rintro ⟨above, hcalled, parent, hparent, habove⟩
      exact ⟨parent, hparent, above, hcalled, habove⟩
    · rintro ⟨parent, hparent, above, hcalled, habove⟩
      exact ⟨above, hcalled, parent, hparent, habove⟩
  · rfl

end Make

/-! ### Nothing is taken back -/

theorem Descends.make (hdescends : h.Descends token above) (origin? : Option Nat) :
    (h.make origin?).Descends token above := by
  refine Relation.ReflTransGen.mono ?_ _ _ hdescends
  intro place parent hparent
  rw [origin?_make, if_neg ?_]
  · exact hparent
  · intro hlast
    rw [origin?_of_length_le (Nat.le_of_eq hlast.symm)] at hparent
    cases hparent

theorem Ended.make (hended : h.Ended token) (origin? : Option Nat) : (h.make origin?).Ended token := by
  obtain ⟨above, hcalled, hdescends⟩ := hended
  exact ⟨above, hcalled, hdescends.make origin?⟩

/-- A token that is ended stays so. -/
theorem Ended.step (hended : h.Ended token) (step : Step) : (h.step step).Ended token := by
  cases step with
  | new name => exact hended.make none
  | clone name source =>
    rw [History.step]
    cases h.names source with
    | none => exact hended
    | some token => exact hended
  | child name source =>
    rw [History.step]
    cases h.names source with
    | none => exact hended
    | some token => exact hended.make (some token)
  | cancel name =>
    rw [History.step]
    cases h.names name with
    | none => exact hended
    | some token => exact ended_call_iff.mpr (.inr hended)
  | drop name => exact hended

end History

end SchemaCatalog
