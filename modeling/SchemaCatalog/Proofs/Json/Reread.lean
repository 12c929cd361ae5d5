import SchemaCatalog.Json.Variant
import SchemaCatalog.Proofs.Json.Reading
import SchemaCatalog.Proofs.Json.Record
import Mathlib.Data.List.DropRight

/-!
# What was read is read back

`c.Rereads depth` says that the codec `c` reads back every value that it has read, if at most `depth`
brackets and braces may be opened and the document that the value is written as is `Whole`: free-form parts
of it are the only ones that may hold floating-point numbers, and these are not written with the digits
they were read from.

The codecs of single values reread what they read, and lists and optional values do if what is in them
does. A record does if all its fields do (`rereads_record`): whether they came up as members, as items of
an array or not at all, each of them holds a value that its codec has read, or its default.
-/

namespace SchemaCatalog.Json

namespace Codec

open Value (Whole)

/-- A codec reads back what it has read, if `depth` brackets and braces may be opened. -/
def Rereads {α : Type} (c : Codec α) (depth : Nat) : Prop :=
  ∀ steps bytes,
    Gives (fun x => (c.write x).Whole → c.ReadsBack depth x) (c.read steps depth bytes)

variable {α β : Type} {c : Codec α} {depth : Nat}

/-! ### Single values -/

theorem rereads_text (expected : String) (depth : Nat) : (text expected).Rereads depth := by
  intro steps bytes s rest _ _
  exact readsBack_text expected depth s

/-- An integer that is read is between the bounds. -/
theorem gives_integer (expected : String) (low high : Int) (steps depth : Nat) (bytes : Bytes) :
    Gives (fun n => low ≤ n ∧ n ≤ high) ((integer expected low high).read steps depth bytes) := by
  dsimp only [integer]
  cases (number expected).read steps depth bytes with
  | error f => exact gives_error f
  | ok r =>
    obtain ⟨x, rest⟩ := r
    cases x with
    | double x => exact gives_error _
    | integer n =>
      dsimp only [checkInteger]
      split_ifs with hrange
      · rw [Bool.and_eq_true, decide_eq_true_eq, decide_eq_true_eq] at hrange
        exact gives_ok (P := fun n => low ≤ n ∧ n ≤ high) hrange rest
      · exact gives_error _

theorem rereads_integer (expected : String) (depth : Nat) {low high : Int}
    (hlow : Number.minInteger ≤ low) (hhigh : high ≤ Number.maxInteger) :
    (integer expected low high).Rereads depth := by
  intro steps bytes
  refine (gives_integer expected low high steps depth bytes).imp ?_
  rintro n ⟨hmin, hmax⟩ _
  exact readsBack_integer expected depth hmin hmax (Int.le_trans hlow hmin)
    (Int.le_trans hmax hhigh)

theorem readsBack_natural (expected : String) (depth : Nat) {n : Nat}
    (h : (n : Int) ≤ Number.maxInteger) : (natural expected).ReadsBack depth n :=
  (readsBack_integer expected depth (Int.natCast_nonneg n) h
    (Int.le_trans (by decide) (Int.natCast_nonneg n)) h).imap rfl

theorem rereads_natural (expected : String) (depth : Nat) : (natural expected).Rereads depth := by
  intro steps bytes
  refine gives_map (gives_integer expected 0 Number.maxInteger steps depth bytes) ?_
  rintro n rest ⟨hnonneg, hmax⟩ _
  apply readsBack_natural
  rw [Int.toNat_of_nonneg hnonneg]
  exact hmax

theorem readsBack_variant {known : List (String × α)} {nameOf : α → String} (depth : Nat) {x : α}
    (h : chooseVariant known (nameOf x) = .ok x) : (variant known nameOf).ReadsBack depth x where
  starts := Value.starts_of_ne_double fun x h => by cases h
  read steps rest _ _ := by
    dsimp only [variant]
    rw [Value.bytes_string, List.cons_append, skipBlanks_cons (by decide)]
    dsimp only
    rw [if_neg (by decide), if_pos rfl, readVariantName, Value.literalBytes, scanString_literal]
    dsimp only
    rw [h]

theorem rereads_variant {known : List (String × α)} {nameOf : α → String} (depth : Nat)
    (h : ∀ x, chooseVariant known (nameOf x) = .ok x) : (variant known nameOf).Rereads depth := by
  intro steps bytes x rest _ _
  exact readsBack_variant depth (h x)

/-- Any document is read back if it is whole. -/
theorem rereads_any (depth : Nat) : any.Rereads depth := by
  intro steps bytes
  refine (gives_readAny steps depth bytes).imp ?_
  intro v hregular hwhole
  exact readsBack_any (hregular.plain hwhole) hregular.ascending

/-! ### Combinations -/

/-- Another type is reread through the codec that it is read by. -/
theorem Rereads.imap {forth : α → β} {back : β → α} (h : c.Rereads depth)
    (hback : ∀ x, back (forth x) = x) : (c.imap forth back).Rereads depth := by
  intro steps bytes
  refine gives_map (h steps bytes) ?_
  intro x rest hx hwhole
  have hwhole : (c.write (back (forth x))).Whole := hwhole
  apply ReadsBack.imap
  · rw [hback] at hwhole ⊢
    exact hx hwhole
  · rw [hback]

/-- An optional value is reread, provided that only what starts like `null` is written as `null`. -/
theorem Rereads.optional (h : c.Rereads depth)
    (hnull : ∀ steps bytes, (∀ rest, skipBlanks bytes ≠ letterN :: rest) →
      Gives (fun x => c.write x ≠ .null) (c.read steps depth bytes)) :
    c.optional.Rereads depth := by
  -- What is read as a value is read back by the codec of the value, and is not taken for `null`.
  have hsome : ∀ steps bytes, (∀ rest, skipBlanks bytes ≠ letterN :: rest) →
      Gives (fun o => (c.optional.write o).Whole → c.optional.ReadsBack depth o)
        ((c.read steps depth bytes).map fun r => (some r.1, r.2)) := by
    intro steps bytes hbytes
    cases hread : c.read steps depth bytes with
    | error f => exact gives_error f
    | ok r =>
      refine gives_ok (fun hwhole => ?_) _
      exact (h steps bytes r.1 r.2 hread hwhole).some (hnull steps bytes hbytes r.1 r.2 hread)
  intro steps bytes
  dsimp only [Codec.optional]
  split
  · next b rest hbytes =>
    split_ifs with hb
    · exact gives_word (fun _ => readsBack_none c depth) _ _
    · apply hsome
      intro rest' heq
      rw [← hbytes, skipBlanks, skipBlanks, List.dropWhile_idempotent, ← skipBlanks, hbytes] at heq
      exact hb (List.cons.inj heq).1
  · apply hsome
    intro rest heq
    cases heq

/-- Records are never written as `null`. -/
theorem Rereads.optional_of_ne_null (h : c.Rereads depth) (hnull : ∀ x, c.write x ≠ .null) :
    c.optional.Rereads depth :=
  h.optional fun _ _ _ x _ _ => hnull x

theorem rereads_optional_any (depth : Nat) : any.optional.Rereads depth :=
  (rereads_any depth).optional fun steps _ hbytes => gives_readAny_ne_null hbytes steps depth

/-- A list is reread if its items are. -/
theorem Rereads.list (h : c.Rereads depth) : (Codec.list c).Rereads (depth + 1) := by
  intro steps bytes
  dsimp only [Codec.list]
  split
  · split_ifs
    · rw [nested]
      refine (gives_readItems (fun steps => h steps) steps true _).imp ?_
      intro xs hxs hwhole
      rw [Whole, Value.wholeItems_iff, List.forall_mem_map] at hwhole
      exact ReadsBack.list fun x hx => hxs x hx (hwhole x hx)
    · exact gives_error _
  · exact gives_error _

theorem whole_list {xs : List α} (h : ∀ x ∈ xs, (c.write x).Whole) :
    ((Codec.list c).write xs).Whole := by
  show (Value.array (xs.map c.write)).Whole
  rw [Whole, Value.wholeItems_iff, List.forall_mem_map]
  exact h

theorem whole_optional {o : Option α} (h : ∀ x, o = some x → (c.write x).Whole) :
    (c.optional.write o).Whole := by
  cases o with
  | none => trivial
  | some x => exact h x rfl

end Codec

/-! ### Fields -/

/-- A field takes the value `x` when it is not there. -/
def Field.Defaults (f : Field) (x : f.α) : Prop := f.absence = .always x ∨ f.absence = .inObject x

/-- A field rereads what it has read and what it takes by default, and leaves out what it takes by
default only. -/
structure Field.Rereads (f : Field) (depth : Nat) : Prop where
  reads : f.codec.Rereads depth
  defaults : ∀ x, f.Defaults x → f.codec.ReadsBack depth x
  leaves : ∀ x, f.leftOut x = true → f.Defaults x

namespace Field

variable {α : Type} {c : Codec α} {depth : Nat}

theorem defaults_always {name : String} {leftOut : α → Bool} {x y : α}
    (h : Defaults ⟨name, c, .always x, leftOut⟩ y) : y = x := by
  rcases h with h | h
  · exact (Absence.always.inj h).symm
  · cases h

theorem defaults_inObject {name : String} {leftOut : α → Bool} {x y : α}
    (h : Defaults ⟨name, c, .inObject x, leftOut⟩ y) : y = x := by
  rcases h with h | h
  · cases h
  · exact (Absence.inObject.inj h).symm

theorem rereads_required (name : String) (h : c.Rereads depth) :
    (required name c).Rereads depth where
  reads := h
  defaults x hx := by
    rcases hx with hx | hx
    · cases hx
    · cases hx
  leaves x hx := by cases hx

theorem rereads_withDefault (name : String) (h : c.Rereads depth) {value : α}
    (hvalue : c.ReadsBack depth value) : (withDefault name c value).Rereads depth where
  reads := h
  defaults x hx := defaults_always hx ▸ hvalue
  leaves x hx := by cases hx

theorem rereads_omissible (name : String) (h : c.optional.Rereads depth) :
    (omissible name c).Rereads depth where
  reads := h
  defaults x hx := defaults_always hx ▸ Codec.readsBack_none c depth
  leaves x hx := by
    obtain rfl : x = none := Option.isNone_iff_eq_none.mp hx
    exact .inl rfl

theorem rereads_nullable (name : String) (h : c.optional.Rereads depth) :
    (nullable name c).Rereads depth where
  reads := h
  defaults x hx := defaults_always hx ▸ Codec.readsBack_none c depth
  leaves x hx := by cases hx

end Field

/-! ### Records -/

/-- What is read or taken by default for every field. -/
def Row.All (P : {α : Type} → Codec α → α → Prop) : (fields : List Field) → Row fields → Prop
  | [], _ => True
  | f :: fields, (x, row) => P f.codec x ∧ All P fields row

/-- What is in the slots that are filled. -/
def Slots.All (P : {α : Type} → Codec α → α → Prop) : (fields : List Field) → Slots fields → Prop
  | [], _ => True
  | f :: fields, (slot, slots) => (∀ x, slot = some x → P f.codec x) ∧ All P fields slots

section

variable {P : {α : Type} → Codec α → α → Prop} {fields : List Field}

theorem Slots.all_empty : ∀ fields, Slots.All P fields (Slots.empty fields)
  | [] => trivial
  | _ :: fields => ⟨fun x hx => (by cases hx), all_empty fields⟩

/-- A member that is met leaves in the slots what is in them, or is put in its own. -/
theorem Slots.All.meet {ε τ : Type} {read : {α : Type} → Codec α → Except ε (α × τ)}
    {repeated : String → ε} {unknown : Except ε τ} {name : String} :
    ∀ {fields : List Field}, (∀ f ∈ fields, ∀ x t, read f.codec = .ok (x, t) → P f.codec x) →
      ∀ {slots : Slots fields} {r : Slots fields × τ}, slots.All P fields →
        Slots.meet read repeated unknown name fields slots = .ok r → r.1.All P fields
  | [], _, _, _, _, _ => trivial
  | f :: fields, hread, (slot, slots), r, hslots, hmeet => by
    rw [Slots.meet] at hmeet
    split_ifs at hmeet
    · cases hf : read f.codec with
      | error e =>
        rw [hf] at hmeet
        cases hmeet
      | ok q =>
        rw [hf] at hmeet
        cases hmeet
        refine ⟨?_, hslots.2⟩
        rintro x hx
        cases hx
        exact hread f List.mem_cons_self q.1 q.2 hf
    · cases hrest : Slots.meet read repeated unknown name fields slots with
      | error e =>
        rw [hrest] at hmeet
        cases hmeet
      | ok q =>
        rw [hrest] at hmeet
        cases hmeet
        exact ⟨hslots.1,
          All.meet (fun f hf => hread f (List.mem_cons_of_mem _ hf)) hslots.2 hrest⟩

/-- Fields whose slots are empty take their defaults. -/
theorem Slots.All.complete :
    ∀ {fields : List Field}, (∀ f ∈ fields, ∀ x, f.Defaults x → P f.codec x) →
      ∀ {slots : Slots fields} {row : Row fields}, slots.All P fields →
        Slots.complete fields slots = .ok row → row.All P fields
  | [], _, _, _, _, _ => trivial
  | f :: fields, hdefault, (slot, slots), row, hslots, hcomplete => by
    have hrest : ∀ {x : f.α}, P f.codec x →
        (Slots.complete fields slots).map (x, ·) = .ok row → row.All P (f :: fields) := by
      intro x hx hmap
      cases hothers : Slots.complete fields slots with
      | error e =>
        rw [hothers] at hmap
        cases hmap
      | ok others =>
        rw [hothers] at hmap
        cases hmap
        exact ⟨hx, All.complete (fun f hf => hdefault f (List.mem_cons_of_mem _ hf)) hslots.2 hothers⟩
    cases slot with
    | some x =>
      rw [Slots.complete_some] at hcomplete
      exact hrest (hslots.1 x rfl) hcomplete
    | none =>
      obtain ⟨name, codec, absence, leftOut⟩ := f
      cases absence with
      | error => cases hcomplete
      | inObject x => exact hrest (hdefault _ List.mem_cons_self x (.inr rfl)) hcomplete
      | always x => exact hrest (hdefault _ List.mem_cons_self x (.inl rfl)) hcomplete

theorem Row.all_defaults :
    ∀ {fields : List Field}, (∀ f ∈ fields, ∀ x, f.Defaults x → P f.codec x) →
      ∀ {index : Nat} {row : Row fields}, Row.defaults fields index = .ok row → row.All P fields
  | [], _, _, _, _ => trivial
  | f :: fields, hdefault, index, row, hrow => by
    rw [Row.defaults] at hrow
    split at hrow
    · next x hx =>
      cases hothers : Row.defaults fields (index + 1) with
      | error e =>
        rw [hothers] at hrow
        cases hrow
      | ok others =>
        rw [hothers] at hrow
        cases hrow
        exact ⟨hdefault f List.mem_cons_self x (.inl hx),
          all_defaults (fun f hf => hdefault f (List.mem_cons_of_mem _ hf)) hothers⟩
    · cases hrow

/-- The item of a field is put before the items of the fields behind it. -/
theorem Row.gives_nextField {f : Field} {fields : List Field} {item : Parsed f.α}
    {items : Bytes → Parsed (Row fields)} :
    Gives (P f.codec) item → (∀ bytes, Gives (Row.All P fields) (items bytes)) →
      Gives (Row.All P (f :: fields)) (match item with
        | .error e => .error e
        | .ok (x, rest) =>
          match items rest with
          | .error e => .error e
          | .ok (row, rest) => .ok ((x, row), rest)) := by
  intro hitem hitems
  cases item with
  | error e => exact gives_error e
  | ok r =>
    dsimp only
    cases hrest : items r.2 with
    | error e => exact gives_error e
    | ok s => exact gives_ok ⟨hitem r.1 r.2 rfl, hitems r.2 s.1 s.2 hrest⟩ _

/-- The items of an array are read by the fields in their order, and those behind its end take their
defaults. -/
theorem Row.gives_readArray (short : Nat → Reason) {steps depth : Nat} :
    ∀ {fields : List Field},
      (∀ f ∈ fields, ∀ bytes, Gives (P f.codec) (f.codec.read steps depth bytes)) →
      (∀ f ∈ fields, ∀ x, f.Defaults x → P f.codec x) →
      ∀ (index : Nat) (bytes : Bytes),
        Gives (Row.All P fields) (Row.readArray short steps depth fields index bytes)
  | [], _, _, index, bytes => fun _ _ _ => trivial
  | f :: fields, hread, hdefault, index, bytes => by
    rw [Row.readArray]
    dsimp only
    have hothers := Row.gives_readArray short (fun f hf => hread f (List.mem_cons_of_mem _ hf))
      (fun f hf => hdefault f (List.mem_cons_of_mem _ hf)) (index + 1)
    have hitem (bytes : Bytes) := Row.gives_nextField (hread f List.mem_cons_self bytes) hothers
    split
    · exact gives_error _
    · split_ifs
      · split
        · next row hrow => exact gives_ok (Row.all_defaults hdefault hrow) _
        · exact gives_error _
      · exact hitem _
      · split
        · exact gives_error _
        · split_ifs
          · exact gives_error _
          · exact hitem _
      · exact gives_error _

/-- **Every field of a record that is read holds what its codec has read, or its default.** -/
theorem Codec.gives_record (name : String) {depth : Nat}
    (hread : ∀ f ∈ fields, ∀ steps bytes, Gives (P f.codec) (f.codec.read steps depth bytes))
    (hdefault : ∀ f ∈ fields, ∀ x, f.Defaults x → P f.codec x) (steps : Nat) (bytes : Bytes) :
    Gives (Row.All P fields) ((Codec.record name fields).read steps (depth + 1) bytes) := by
  have hmember : ∀ steps slots name bytes, Slots.All P fields slots →
      Gives (Slots.All P fields) (Codec.readMember fields depth steps slots name bytes) := by
    intro steps slots name bytes hslots slots' rest hmeet
    refine Slots.All.meet ?_ hslots hmeet
    intro f hf x t hx
    cases hcolon : expectColon bytes with
    | error e =>
      rw [hcolon] at hx
      cases hx
    | ok after =>
      rw [hcolon] at hx
      exact hread f hf steps after x t hx
  dsimp only [Codec.record]
  split
  · split_ifs
    · exact Row.gives_readArray _ (fun f hf => hread f hf steps) hdefault 0 _
    · rw [nested]
      split
      · exact gives_error _
      · next slots rest hslots =>
        have hall := gives_readMembers hmember _ _ _ _ (Slots.all_empty fields) _ _ hslots
        split
        · next row hrow => exact gives_ok (hall.complete hdefault hrow) _
        · exact gives_error _
    · exact gives_error _
  · exact gives_error _

end

namespace Codec

variable {fields : List Field} {depth : Nat}

/-- Of a row whose document is whole, each field that is written is read back. -/
theorem each_readsBack :
    ∀ {fields : List Field}, (∀ f ∈ fields, f.Rereads depth) → ∀ {row : Row fields},
      Row.All (fun c x => (c.write x).Whole → c.ReadsBack depth x) fields row →
      (∀ m ∈ Row.members fields row, m.2.Whole) →
      Row.Each (fun c x => c.ReadsBack depth x) fields row
  | [], _, _, _, _ => trivial
  | f :: fields, hfields, (x, row), hall, hwhole => by
    rw [Row.members] at hwhole
    refine ⟨(hfields f List.mem_cons_self).leaves x, ?_, ?_⟩
    · intro hout
      rw [hout, if_neg Bool.false_ne_true] at hwhole
      exact hall.1 (hwhole _ List.mem_cons_self)
    · refine each_readsBack (fun f hf => hfields f (List.mem_cons_of_mem _ hf)) hall.2 ?_
      intro m hm
      apply hwhole
      split_ifs
      · exact hm
      · exact List.mem_cons_of_mem _ hm

/-- **A record is reread if all its fields are.** -/
theorem rereads_record (name : String) (hnodup : (fields.map Field.name).Nodup)
    (h : ∀ f ∈ fields, f.Rereads depth) : (record name fields).Rereads (depth + 1) := by
  intro steps bytes
  have hall := gives_record (P := fun c x => (c.write x).Whole → c.ReadsBack depth x) name
    (fun f hf => (h f hf).reads) (fun f hf x hx _ => (h f hf).defaults x hx) steps bytes
  refine hall.imp ?_
  intro row hrow hwhole
  have hwhole : (Value.object (Row.members fields row)).Whole := hwhole
  rw [Value.Whole, Value.wholeMembers_iff] at hwhole
  exact readsBack_record name hnodup (each_readsBack h hrow hwhole)

/-- A record is written as a whole document if each of its fields is. -/
theorem whole_record {row : Row fields} (hall : row.All (fun c x => (c.write x).Whole) fields) :
    (Value.object (Row.members fields row)).Whole := by
  rw [Value.Whole, Value.wholeMembers_iff]
  induction fields with
  | nil => exact List.forall_mem_nil _
  | cons f fields ih =>
    obtain ⟨x, row⟩ := row
    rw [Row.members]
    split_ifs
    · exact ih hall.2
    · exact List.forall_mem_cons.mpr ⟨hall.1, ih hall.2⟩

end Codec

end SchemaCatalog.Json
