import SchemaCatalog.Proofs.Json.ReadBack

/-!
# What readers give

`Gives P p` says that `p` is a fault, or a result with the property `P`. Readers of items and of members
give what each single item and member has (`gives_readItems`, `gives_readMembers`).

The integers among the numbers that are scanned have 64 bits (`gives_scanNumber`), and the names of members
that are read are put in order. So any document that is read can be read back, provided that no number in
it is a floating-point number, that it is `Whole` (`gives_readAny`). In the codecs here it is the property
of the value that goes from the inside to the outside: of integers it is their range, of an optional value
that it is none or has the property of a value.
-/

namespace SchemaCatalog.Json

/-- A result, if there is one, has a property. -/
def Gives {α : Type} (P : α → Prop) (p : Parsed α) : Prop := ∀ x rest, p = .ok (x, rest) → P x

section

variable {α β : Type} {P Q : α → Prop} {p : Parsed α}

theorem gives_error (f : Fault) : Gives P (.error f) := by
  intro x rest h
  cases h

theorem gives_ok {x : α} (h : P x) (rest : Bytes) : Gives P (.ok (x, rest)) := by
  rintro y rest' heq
  cases heq
  exact h

theorem gives_true (p : Parsed α) : Gives (fun _ => True) p := fun _ _ _ => trivial

theorem Gives.imp (h : Gives P p) (himp : ∀ x, P x → Q x) : Gives Q p := by
  intro x rest hx
  exact himp x (h x rest hx)

/-- A result that is changed in the last step. -/
theorem gives_map {R : β → Prop} {f : α × Bytes → β × Bytes} (h : Gives P p)
    (himp : ∀ x rest, P x → R (f (x, rest)).1) : Gives R (p.map f) := by
  cases p with
  | error e => exact gives_error e
  | ok r => exact gives_ok (himp r.1 r.2 (h r.1 r.2 rfl)) _

/-! ### Items and members -/

/-- An item is put before the items that come behind it. -/
theorem gives_nextItem {items : Bytes → Parsed (List α)} :
    Gives P p → (∀ bytes, Gives (fun xs => ∀ x ∈ xs, P x) (items bytes)) →
      Gives (fun xs => ∀ x ∈ xs, P x) (match p with
        | .error f => .error f
        | .ok (x, rest) =>
          match items rest with
          | .error f => .error f
          | .ok (xs, rest) => .ok (x :: xs, rest)) := by
  intro hitem hitems
  cases p with
  | error f => exact gives_error f
  | ok r =>
    dsimp only
    cases hrest : items r.2 with
    | error f => exact gives_error f
    | ok s =>
      exact gives_ok (List.forall_mem_cons.mpr ⟨hitem r.1 r.2 rfl, hitems r.2 s.1 s.2 hrest⟩) _

/-- Every item of a list has what a single item has. -/
theorem gives_readItems {item : (steps : Nat) → Bytes → Parsed α}
    (h : ∀ steps bytes, Gives P (item steps bytes)) :
    ∀ (steps : Nat) (first : Bool) (bytes : Bytes),
      Gives (fun xs => ∀ x ∈ xs, P x) (readItems item steps first bytes) := by
  intro steps
  induction steps with
  | zero =>
    intro first bytes
    exact gives_error _
  | succ steps ih =>
    intro first bytes
    -- Wherever the next item begins, the items behind it are those of the induction.
    have hmore (bytes : Bytes) := gives_nextItem (h steps bytes) (ih false)
    rw [readItems]
    dsimp only
    split
    · exact gives_error _
    · split_ifs
      · exact gives_ok (List.forall_mem_nil _) _
      · exact hmore _
      · split
        · exact gives_error _
        · split_ifs
          · exact gives_error _
          · exact hmore _
      · exact gives_error _

/-- A name is read, and its member is gathered before those that come behind it. -/
theorem gives_nextMember (name : Parsed String) {member : String → Bytes → Parsed α}
    {members : α → Bytes → Parsed α} :
    (∀ name bytes, Gives P (member name bytes)) →
      (∀ gathered bytes, P gathered → Gives P (members gathered bytes)) →
      Gives P (match name with
        | .error f => .error f
        | .ok (name, rest) =>
          match member name rest with
          | .error f => .error f
          | .ok (gathered, rest) => members gathered rest) := by
  intro hmember hmembers
  cases name with
  | error f => exact gives_error f
  | ok r =>
    dsimp only
    cases hnext : member r.1 r.2 with
    | error f => exact gives_error f
    | ok next => exact hmembers next.1 next.2 (hmember r.1 r.2 next.1 next.2 hnext)

/-- What holds of the state that members are gathered in, and is kept by each of them, holds in the
end. -/
theorem gives_readMembers {member : (steps : Nat) → α → String → Bytes → Parsed α}
    (h : ∀ steps gathered name bytes, P gathered → Gives P (member steps gathered name bytes)) :
    ∀ (steps : Nat) (first : Bool) (gathered : α) (bytes : Bytes), P gathered →
      Gives P (readMembers member steps first gathered bytes) := by
  intro steps
  induction steps with
  | zero =>
    intro first gathered bytes _
    exact gives_error _
  | succ steps ih =>
    intro first gathered bytes hgathered
    have hmore (bytes : Bytes) :=
      gives_nextMember (scanString bytes) (fun name bytes => h steps gathered name bytes hgathered)
        (ih false)
    rw [readMembers]
    dsimp only
    split
    · exact gives_error _
    · split_ifs
      · exact gives_ok hgathered _
      · exact hmore _
      · exact gives_error _
      · split
        · exact gives_error _
        · split_ifs
          · exact hmore _
          · exact gives_error _
          · exact gives_error _
      · exact gives_error _

end

/-! ### Numbers -/

/-- An integer among the numbers has 64 bits. -/
def Number.InRange : Number → Prop
  | .integer n => Number.minInteger ≤ n ∧ n ≤ Number.maxInteger
  | .double _ => True

theorem Number.inRange_ofDigits (negative : Bool) {significand : Nat}
    (h : significand < significandLimit) : (Number.ofDigits negative significand).InRange := by
  have hlimit : significandLimit = 18446744073709551616 := rfl
  have hmax : Number.maxInteger = 18446744073709551615 := rfl
  have hmin : Number.minInteger = -9223372036854775808 := rfl
  have hhalf : Nat.pow 2 63 = 9223372036854775808 := rfl
  rw [Number.ofDigits]
  split_ifs with hsign hsmall
  · refine ⟨?_, ?_⟩ <;> omega
  · rw [Bool.and_eq_true, decide_eq_true_eq, decide_eq_true_eq] at hsmall
    refine ⟨?_, ?_⟩ <;> omega
  · trivial

theorem gives_numberOfParts (negative : Bool) (significand : Nat) (exponent : Int) (rest : Bytes) :
    Gives Number.InRange (numberOfParts negative significand exponent rest) := by
  rw [numberOfParts, Number.ofParts]
  cases Number.scale (Binary64.ofNat significand) exponent with
  | none => exact gives_error _
  | some x => exact gives_ok trivial _

theorem gives_scanExponentDigits (negative : Bool) (significand : Nat) (start : Int) (down : Bool)
    (bytes : Bytes) : ∀ exponent : Nat, Gives Number.InRange
      (scanExponentDigits negative significand start down exponent bytes) := by
  induction bytes with
  | nil =>
    intro exponent
    rw [scanExponentDigits]
    exact gives_numberOfParts _ _ _ _
  | cons b rest ih =>
    intro exponent
    rw [scanExponentDigits]
    dsimp only
    split_ifs
    · exact gives_error _
    · exact gives_ok trivial _
    · exact ih _
    all_goals exact gives_numberOfParts _ _ _ _

theorem gives_scanExponent (negative : Bool) (significand : Nat) (start : Int) (bytes : Bytes) :
    Gives Number.InRange (scanExponent negative significand start bytes) := by
  rw [scanExponent]
  split
  · exact gives_error _
  · split_ifs
    · exact gives_scanExponentDigits _ _ _ _ _ _
    · exact gives_error _

theorem gives_scanAfterDigits (negative : Bool) (significand : Nat) (exponent : Int) (bytes : Bytes) :
    Gives Number.InRange (scanAfterDigits negative significand exponent bytes) := by
  cases bytes with
  | nil => exact gives_numberOfParts _ _ _ _
  | cons b rest =>
    rw [scanAfterDigits]
    split_ifs
    · exact gives_scanExponent _ _ _ _
    · exact gives_numberOfParts _ _ _ _

theorem gives_scanFraction (negative : Bool) (significand : Nat) (exponent : Int) (bytes : Bytes) :
    Gives Number.InRange (scanFraction negative significand exponent bytes) := by
  rw [scanFraction]
  rcases gatherDigits significand 0 bytes with ⟨significand, count, rest⟩
  dsimp only
  split
  · split_ifs
    · exact gives_error _
    · exact gives_numberOfParts _ _ _ _
  · split_ifs
    · exact gives_error _
    · exact gives_scanAfterDigits _ _ _ _

theorem gives_scanAfterWhole (negative : Bool) {significand : Nat} (h : significand < significandLimit)
    (dropped : Nat) (bytes : Bytes) :
    Gives Number.InRange (scanAfterWhole negative significand dropped bytes) := by
  cases bytes with
  | nil =>
    rw [scanAfterWhole]
    split_ifs
    · exact gives_ok (Number.inRange_ofDigits negative h) _
    · exact gives_numberOfParts _ _ _ _
  | cons b rest =>
    rw [scanAfterWhole]
    split_ifs
    · exact gives_scanFraction _ _ _ _
    · exact gives_scanExponent _ _ _ _
    · exact gives_ok (Number.inRange_ofDigits negative h) _
    · exact gives_numberOfParts _ _ _ _

/-- Digits are gathered as long as the number they make stays below the limit. -/
theorem gatherDigits_lt (bytes : Bytes) : ∀ {significand : Nat} (count : Nat),
    significand < significandLimit → (gatherDigits significand count bytes).1 < significandLimit := by
  induction bytes with
  | nil =>
    intro significand count h
    exact h
  | cons b rest ih =>
    intro significand count h
    rw [gatherDigits]
    split_ifs with hfits
    · rw [Bool.and_eq_true, decide_eq_true_eq] at hfits
      exact ih _ hfits.2
    · exact h

/-- **The integers that are scanned have 64 bits.** -/
theorem gives_scanNumber (negative : Bool) (bytes : Bytes) :
    Gives Number.InRange (scanNumber negative bytes) := by
  have hzero : 0 < significandLimit := by decide
  cases bytes with
  | nil => exact gives_error _
  | cons b rest =>
    rw [scanNumber.eq_def]
    dsimp only
    split_ifs with hb hdigit
    · split
      · split_ifs
        · exact gives_error _
        · exact gives_scanAfterWhole _ hzero _ _
      · exact gives_scanAfterWhole _ hzero _ _
    · have hfirst : digitValue b < significandLimit := by
        have hbyte := b.toNat_lt
        have hlimit : significandLimit = 18446744073709551616 := rfl
        rw [digitValue]
        omega
      exact gives_scanAfterWhole _ (gatherDigits_lt rest 0 hfirst) _ _
    · exact gives_error _

/-! ### Any document -/

namespace Value

mutual

/-- No number in a document is a floating-point number. -/
def Whole : Value → Prop
  | number (.double _) => False
  | array items => WholeItems items
  | object members => WholeMembers members
  | _ => True

/-- Every item is whole. -/
def WholeItems : List Value → Prop
  | [] => True
  | v :: rest => v.Whole ∧ WholeItems rest

/-- The value of every member is whole. -/
def WholeMembers : List (String × Value) → Prop
  | [] => True
  | (_, v) :: rest => v.Whole ∧ WholeMembers rest

end

theorem wholeItems_iff {items : List Value} : WholeItems items ↔ ∀ v ∈ items, v.Whole := by
  induction items with
  | nil => simp [WholeItems]
  | cons v rest ih => rw [WholeItems, ih, List.forall_mem_cons]

theorem wholeMembers_iff {members : List (String × Value)} :
    WholeMembers members ↔ ∀ m ∈ members, m.2.Whole := by
  induction members with
  | nil => simp [WholeMembers]
  | cons m rest ih => rw [WholeMembers, ih, List.forall_mem_cons]

/-- A document that nests at most so deep, has integers of 64 bits, and has its members in order: it is
plain as soon as it is whole. -/
structure Regular (depth : Nat) (v : Value) : Prop where
  plain : v.Whole → v.Plain depth
  ascending : v.Ascending

/-- A scalar is regular if its numbers are in range. -/
theorem regular_number {n : Number} (h : n.InRange) (depth : Nat) : (number n).Regular depth where
  plain hwhole := by
    cases n with
    | integer n => exact h
    | double x => exact hwhole.elim
  ascending := trivial

theorem regular_array {depth : Nat} {items : List Value} (h : ∀ v ∈ items, v.Regular depth) :
    (array items).Regular (depth + 1) where
  plain hwhole := by
    rw [Whole, wholeItems_iff] at hwhole
    rw [Plain, plainItems_iff]
    exact ⟨Nat.succ_pos depth, fun v hv => (h v hv).plain (hwhole v hv)⟩
  ascending := by
    rw [Ascending, ascendingItems_iff]
    exact fun v hv => (h v hv).ascending

theorem regular_object {depth : Nat} {members : List (String × Value)} (names : NamesAscend members)
    (h : ∀ m ∈ members, m.2.Regular depth) : (object members).Regular (depth + 1) where
  plain hwhole := by
    rw [Whole, wholeMembers_iff] at hwhole
    rw [Plain, plainMembers_iff]
    exact ⟨Nat.succ_pos depth, fun m hm => (h m hm).plain (hwhole m hm)⟩
  ascending := by
    rw [Ascending, ascendingMembers_iff]
    exact ⟨names, fun m hm => (h m hm).ascending⟩

end Value

open Value (Regular NamesAscend)

/-- A word gives what it stands for. -/
theorem gives_word {α : Type} {P : α → Prop} {x : α} (h : P x) (word rest : Bytes) :
    Gives P ((expectWord word rest).map (x, ·)) := by
  cases expectWord word rest with
  | error f => exact gives_error f
  | ok rest => exact gives_ok h rest

/-- A member that is added keeps the names of the others in order. -/
theorem gives_readAnyMember {steps depth : Nat}
    (ih : ∀ bytes, Gives (Regular depth) (Codec.readAny steps depth bytes)) (steps' : Nat)
    (members : List (String × Value)) (name : String) (bytes : Bytes)
    (hmembers : NamesAscend members ∧ ∀ m ∈ members, m.2.Regular depth) :
    Gives (fun members => NamesAscend members ∧ ∀ m ∈ members, m.2.Regular depth)
      (readAnyMember steps depth steps' members name bytes) := by
  rw [readAnyMember]
  cases expectColon bytes with
  | error f => exact gives_error f
  | ok rest =>
    dsimp only
    cases hread : Codec.readAny steps depth rest with
    | error f => exact gives_error f
    | ok r =>
      refine gives_ok ⟨hmembers.1.insertMember name r.1, ?_⟩ _
      intro m hm
      rcases Value.eq_or_mem_of_mem_insertMember hm with rfl | hm
      · exact ih rest _ _ hread
      · exact hmembers.2 m hm

/-- **Any document that is read is regular.** -/
theorem gives_readAny (steps : Nat) : ∀ (depth : Nat) (bytes : Bytes),
    Gives (Regular depth) (Codec.readAny steps depth bytes) := by
  induction steps with
  | zero =>
    intro depth bytes
    exact gives_error _
  | succ steps ih =>
    intro depth bytes
    rw [Codec.readAny]
    split
    · exact gives_error _
    · split_ifs
      · exact gives_word ⟨fun _ => trivial, trivial⟩ _ _
      · exact gives_word ⟨fun _ => trivial, trivial⟩ _ _
      · exact gives_word ⟨fun _ => trivial, trivial⟩ _ _
      · exact gives_map (gives_scanNumber _ _) fun _ _ h => Value.regular_number h depth
      · exact gives_map (gives_scanNumber _ _) fun _ _ h => Value.regular_number h depth
      · exact gives_map (gives_true _) fun _ _ _ => ⟨fun _ => trivial, trivial⟩
      · cases depth with
        | zero => exact gives_error _
        | succ depth =>
          exact gives_map (gives_readItems (fun _ => ih depth) _ _ _)
            fun _ _ h => Value.regular_array h
      · cases depth with
        | zero => exact gives_error _
        | succ depth =>
          refine gives_map (gives_readMembers (gives_readAnyMember (ih depth)) _ _ _ _ ?_)
            fun _ _ h => Value.regular_object h.1 h.2
          exact ⟨List.Pairwise.nil, List.forall_mem_nil _⟩
      · exact gives_error _

/-- Nothing else than `null` starts with its first letter. -/
theorem gives_readAny_ne_null {bytes : Bytes} (h : ∀ rest, skipBlanks bytes ≠ letterN :: rest)
    (steps depth : Nat) : Gives (· ≠ .null) (Codec.readAny steps depth bytes) := by
  cases steps with
  | zero => exact gives_error _
  | succ steps =>
    rw [Codec.readAny]
    split
    · exact gives_error _
    · next b rest hbytes =>
      rw [if_neg fun hb : b = letterN => h rest (hb ▸ hbytes)]
      split_ifs
      · exact gives_word (fun heq => by cases heq) _ _
      · exact gives_word (fun heq => by cases heq) _ _
      · exact gives_map (gives_scanNumber _ _) fun _ _ _ heq => by cases heq
      · exact gives_map (gives_scanNumber _ _) fun _ _ _ heq => by cases heq
      · exact gives_map (gives_true _) fun _ _ _ heq => by cases heq
      · cases depth with
        | zero => exact gives_error _
        | succ depth => exact gives_map (gives_true _) fun _ _ _ heq => by cases heq
      · cases depth with
        | zero => exact gives_error _
        | succ depth => exact gives_map (gives_true _) fun _ _ _ heq => by cases heq
      · exact gives_error _

end SchemaCatalog.Json
