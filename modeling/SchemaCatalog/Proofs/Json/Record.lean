import SchemaCatalog.Json.Record
import SchemaCatalog.Proofs.Json.AcceptBack
import SchemaCatalog.Proofs.Json.ReadBack

/-!
# Records are read back

A record is read from its members in whatever order they come, those left out taken from their
defaults. The slots met so far are `Slots.filled`: those of the fields whose names have come up hold
the values of the row. Meeting one more member fills one more slot (`meet_filled`), and the slots are
complete when every member that is written has come up (`complete_filled`).

So a record is read back from its text if each field is (`readsBack_record`), and taken back from the
document with its members sorted (`acceptsBack_record`).
-/

namespace SchemaCatalog.Json

/-! ### Fields of a row -/

namespace Row

/-- What holds of the codec and the value of every field with a name. -/
def AtName (name : String) (P : {α : Type} → Codec α → α → Prop) :
    (fields : List Field) → Row fields → Prop
  | [], _ => True
  | f :: fields, (x, row) => (f.name = name → P f.codec x) ∧ AtName name P fields row

/-- Every field is left out for its default, or something holds of its codec and its value. -/
def Each (P : {α : Type} → Codec α → α → Prop) : (fields : List Field) → Row fields → Prop
  | [], _ => True
  | f :: fields, (x, row) =>
    (f.leftOut x = true → f.absence = .always x ∨ f.absence = .inObject x) ∧
      (f.leftOut x = false → P f.codec x) ∧ Each P fields row

variable {P Q : {α : Type} → Codec α → α → Prop} {fields : List Field}

theorem AtName.imp {name : String} (himp : ∀ {α : Type} (c : Codec α) (x : α), P c x → Q c x) :
    ∀ {fields : List Field} {row : Row fields}, AtName name P fields row → AtName name Q fields row
  | [], _, _ => trivial
  | _ :: _, (_, _), h => ⟨fun hname => himp _ _ (h.1 hname), h.2.imp himp⟩

theorem atName_of_not_mem {name : String} :
    ∀ {fields : List Field} {row : Row fields}, name ∉ fields.map Field.name →
      AtName name P fields row
  | [], _, _ => trivial
  | f :: fields, (x, row), h => by
    rw [List.map_cons, List.mem_cons, not_or] at h
    exact ⟨fun hname => absurd hname.symm h.1, atName_of_not_mem h.2⟩

/-- The names of the members written are names of fields, in their order. -/
theorem members_sublist :
    ∀ {fields : List Field} {row : Row fields},
      ((Row.members fields row).map Prod.fst).Sublist (fields.map Field.name)
  | [], _ => .slnil
  | f :: fields, (x, row) => by
    rw [Row.members]
    split_ifs
    · exact members_sublist.cons f.name
    · exact members_sublist.cons_cons f.name

theorem name_mem_of_mem_members {row : Row fields} {m : String × Value}
    (h : m ∈ Row.members fields row) : m.1 ∈ fields.map Field.name :=
  members_sublist.subset (List.mem_map_of_mem h)

/-- A member that is written is the value of the field with its name. -/
theorem Each.atName_of_mem_members {m : String × Value} :
    ∀ {fields : List Field} {row : Row fields}, (fields.map Field.name).Nodup → Each P fields row →
      m ∈ Row.members fields row → AtName m.1 (fun c x => c.write x = m.2 ∧ P c x) fields row
  | [], _, _, _, h => by cases h
  | f :: fields, (x, row), hnodup, heach, h => by
    rw [List.map_cons, List.nodup_cons] at hnodup
    rw [Row.members] at h
    cases hout : f.leftOut x with
    | true =>
      rw [hout, if_pos rfl] at h
      refine ⟨?_, heach.2.2.atName_of_mem_members hnodup.2 h⟩
      intro hname
      exact absurd (hname ▸ name_mem_of_mem_members h) hnodup.1
    | false =>
      rw [hout, if_neg Bool.false_ne_true] at h
      rcases List.mem_cons.mp h with rfl | h
      · exact ⟨fun _ => ⟨rfl, heach.2.1 hout⟩, atName_of_not_mem hnodup.1⟩
      · refine ⟨?_, heach.2.2.atName_of_mem_members hnodup.2 h⟩
        intro hname
        exact absurd (hname ▸ name_mem_of_mem_members h) hnodup.1

/-! Fields of each sort -/

variable {α : Type} {row : Row fields}

theorem each_required (name : String) {c : Codec α} {x : α} (h : P c x) (rest : Each P fields row) :
    Each P (.required name c :: fields) (x, row) :=
  ⟨fun hout => absurd hout Bool.false_ne_true, fun _ => h, rest⟩

theorem each_withDefault (name : String) {c : Codec α} (value : α) {x : α} (h : P c x)
    (rest : Each P fields row) : Each P (.withDefault name c value :: fields) (x, row) :=
  ⟨fun hout => absurd hout Bool.false_ne_true, fun _ => h, rest⟩

theorem each_omissible (name : String) {c : Codec α} {x : Option α}
    (h : ∀ y, x = some y → P c.optional (some y)) (rest : Each P fields row) :
    Each P (.omissible name c :: fields) (x, row) := by
  cases x with
  | none => exact ⟨fun _ => .inl rfl, fun hout => absurd hout.symm Bool.false_ne_true, rest⟩
  | some y => exact ⟨fun hout => absurd hout Bool.false_ne_true, fun _ => h y rfl, rest⟩

end Row

/-! ### Slots -/

namespace Slots

/-- The slots of a row, those filled whose names are in `met`. -/
def filled (met : List String) : (fields : List Field) → Row fields → Slots fields
  | [], _ => ()
  | f :: fields, (x, row) => (if f.name ∈ met then some x else none, filled met fields row)

theorem filled_nil : ∀ (fields : List Field) (row : Row fields), filled [] fields row = empty fields
  | [], _ => rfl
  | f :: fields, (x, row) => by
    rw [filled, if_neg List.not_mem_nil, filled_nil fields row, empty]

theorem filled_cons_of_not_mem {name : String} {met : List String} :
    ∀ {fields : List Field} {row : Row fields}, name ∉ fields.map Field.name →
      filled (name :: met) fields row = filled met fields row
  | [], _, _ => rfl
  | f :: fields, (x, row), h => by
    rw [List.map_cons, List.mem_cons, not_or] at h
    rw [filled, filled, filled_cons_of_not_mem h.2]
    by_cases hmet : f.name ∈ met
    · rw [if_pos hmet, if_pos (List.mem_cons_of_mem name hmet)]
    · have hne : f.name ∉ name :: met := by
        rw [List.mem_cons, not_or]
        exact ⟨fun heq => h.1 heq.symm, hmet⟩
      rw [if_neg hmet, if_neg hne]

variable {ε τ : Type} {read : {α : Type} → Codec α → Except ε (α × τ)} {repeated : String → ε}
  {unknown : Except ε τ} {name : String} {met : List String} {t : τ}

/-- A member that comes up for the first time fills the slot of its name. -/
theorem meet_filled (hnew : name ∉ met) :
    ∀ {fields : List Field} {row : Row fields}, (fields.map Field.name).Nodup →
      name ∈ fields.map Field.name → Row.AtName name (fun c x => read c = .ok (x, t)) fields row →
      meet read repeated unknown name fields (filled met fields row) =
        .ok (filled (name :: met) fields row, t)
  | [], _, _, hmem, _ => by cases hmem
  | f :: fields, (x, row), hnodup, hmem, hread => by
    rw [List.map_cons, List.nodup_cons] at hnodup
    rw [List.map_cons, List.mem_cons] at hmem
    rw [filled, meet]
    by_cases hname : f.name = name
    · rw [hname] at hnodup
      rw [if_pos hname, hname, if_neg hnew, Option.isSome_none, if_neg Bool.false_ne_true,
        hread.1 hname, filled, hname, if_pos List.mem_cons_self, filled_cons_of_not_mem hnodup.1]
      rfl
    · have hmem := hmem.resolve_left fun heq => hname heq.symm
      have hslot : (if f.name ∈ name :: met then some x else none) =
          if f.name ∈ met then some x else none := by
        simp only [List.mem_cons, hname, false_or]
      rw [if_neg hname, meet_filled hnew hnodup.2 hmem hread.2, filled, hslot]
      rfl

theorem complete_some {fields : List Field} (f : Field) (x : f.α) (slots : Slots fields) :
    complete (f :: fields) (some x, slots) = (complete fields slots).map (x, ·) := by
  obtain ⟨name, codec, absence, leftOut⟩ := f
  cases absence with
  | error => rfl
  | inObject value => rfl
  | always value => rfl

theorem complete_none {fields : List Field} {f : Field} {x : f.α}
    (h : f.absence = .always x ∨ f.absence = .inObject x) (slots : Slots fields) :
    complete (f :: fields) (none, slots) = (complete fields slots).map (x, ·) := by
  obtain ⟨name, codec, absence, leftOut⟩ := f
  cases absence with
  | error =>
    rcases h with h | h
    · cases h
    · cases h
  | inObject value =>
    rcases h with h | h
    · cases h
    · obtain rfl : value = x := Absence.inObject.inj h
      rfl
  | always value =>
    rcases h with h | h
    · obtain rfl : value = x := Absence.always.inj h
      rfl
    · cases h

/-- The slots are complete when all members that are written have come up. -/
theorem complete_filled {P : {α : Type} → Codec α → α → Prop} :
    ∀ {fields : List Field} {row : Row fields}, Row.Each P fields row →
      (∀ n ∈ (Row.members fields row).map Prod.fst, n ∈ met) →
      complete fields (filled met fields row) = .ok row
  | [], _, _, _ => rfl
  | f :: fields, (x, row), heach, hmet => by
    have hrest : ∀ n ∈ (Row.members fields row).map Prod.fst, n ∈ met := by
      intro n hn
      apply hmet n
      rw [Row.members]
      split_ifs
      · exact hn
      · exact List.mem_cons_of_mem _ hn
    have hcomplete := complete_filled heach.2.2 hrest
    rw [filled]
    by_cases hmem : f.name ∈ met
    · rw [if_pos hmem, complete_some, hcomplete]
      rfl
    · -- A member that has not come up was left out, and its default is its value.
      have hout : f.leftOut x = true := by
        by_contra hne
        apply hmem
        apply hmet
        rw [Row.members, if_neg hne]
        exact List.mem_cons_self
      rw [if_neg hmem, complete_none (heach.1 hout), hcomplete]
      rfl

end Slots

/-! ### Records in a text -/

namespace Codec

/-- Names that differ from each other and have not come up are still new behind the first one. -/
theorem not_mem_cons_of_nodup {m : String × Value} {members : List (String × Value)}
    {met : List String} (hnames : ((m :: members).map Prod.fst).Nodup)
    (hnew : ∀ m' ∈ m :: members, m'.1 ∉ met) : ∀ m' ∈ members, m'.1 ∉ m.1 :: met := by
  rw [List.map_cons, List.nodup_cons] at hnames
  intro m' hm'
  rw [List.mem_cons, not_or]
  refine ⟨?_, hnew m' (List.mem_cons_of_mem m hm')⟩
  rintro heq
  exact hnames.1 (heq ▸ List.mem_map_of_mem hm')

/-- The member of a record in a text, put in its slot. -/
def readMember (fields : List Field) (depth steps : Nat) (slots : Slots fields) (name : String)
    (bytes : Bytes) : Parsed (Slots fields) :=
  slots.meet
    (fun codec =>
      match expectColon bytes with
      | .error f => .error f
      | .ok rest => codec.read steps depth rest)
    (fun name => aboutObject bytes (.duplicateField name))
    (match expectColon bytes with
      | .error f => .error f
      | .ok rest => skipValue steps rest)
    name

variable {fields : List Field} {row : Row fields} {depth : Nat}

/-- Members of a record whose names have not come up fill the slots of these names. -/
theorem readsMembers_record (hnodup : (fields.map Field.name).Nodup) :
    ∀ {members : List (String × Value)} (met : List String),
      (∀ m ∈ members, m.1 ∈ fields.map Field.name ∧
        Row.AtName m.1 (fun c x => c.write x = m.2 ∧ c.ReadsBack depth x) fields row) →
      (members.map Prod.fst).Nodup → (∀ m ∈ members, m.1 ∉ met) →
      ReadsMembers (readMember fields depth) (Slots.filled met fields row) members
        (Slots.filled ((members.map Prod.fst).reverse ++ met) fields row)
  | [], met, _, _, _ => .nil _
  | m :: members, met, hread, hnames, hnew => by
    have hrest := not_mem_cons_of_nodup hnames hnew
    rw [List.map_cons, List.nodup_cons] at hnames
    have hothers := readsMembers_record hnodup _
      (fun m' hm' => hread m' (List.mem_cons_of_mem m hm')) hnames.2 hrest
    rw [List.map_cons, List.reverse_cons, List.append_assoc, List.singleton_append]
    refine .cons ?_ hothers
    intro steps rest hlt hends
    obtain ⟨hmem, hat⟩ := hread m List.mem_cons_self
    refine Slots.meet_filled (hnew m List.mem_cons_self) hnodup hmem (hat.imp ?_)
    rintro α c x ⟨hwrite, hback⟩
    rw [expectColon_cons]
    dsimp only
    rw [← hwrite] at hlt ⊢
    exact hback.read steps rest hlt hends

/-- **A record is read back** if each field that is written is. -/
theorem readsBack_record (name : String) (hnodup : (fields.map Field.name).Nodup)
    (h : Row.Each (fun c x => c.ReadsBack depth x) fields row) :
    (record name fields).ReadsBack (depth + 1) row where
  starts := Value.starts_of_ne_double fun x h => by cases h
  read steps rest hlt _ := by
    have hmembers := readsMembers_record hnodup []
      (fun m hm => ⟨Row.name_mem_of_mem_members hm, h.atName_of_mem_members hnodup hm⟩)
      (hnodup.sublist Row.members_sublist) (fun m _ => List.not_mem_nil)
    rw [Slots.filled_nil, List.append_nil] at hmembers
    have hread := readMembers_object hmembers rest (Nat.le_of_lt hlt)
    have hcomplete : Slots.complete fields
        (Slots.filled ((Row.members fields row).map Prod.fst).reverse fields row) = .ok row :=
      Slots.complete_filled h fun n hn => List.mem_reverse.mpr hn
    obtain ⟨bytes, hbytes⟩ := Value.exists_bytes_object (Row.members fields row)
    rw [hbytes, List.tail_cons] at hread
    dsimp only [record]
    rw [hbytes, List.cons_append, skipBlanks_cons (by decide)]
    dsimp only
    rw [if_neg (by decide), if_pos rfl, nested, List.tail_cons]
    -- Members are read here as by `readMember`, so that their reading ends as `hread` says.
    split
    · next f hf => cases hread.symm.trans hf
    · next slots rest' hok =>
      cases hread.symm.trans hok
      rw [hcomplete]

/-! ### Records in a document -/

/-- The member of a record in a document, put in its slot. -/
def acceptMember (fields : List Field) (slots : Slots fields) (m : String × Value) :
    Except Reason (Slots fields) :=
  (slots.meet (fun codec => (codec.accept m.2).map (·, ())) .duplicateField (.ok ()) m.1).map (·.1)

/-- Members of a record whose names have not come up fill the slots of these names. -/
theorem foldlM_acceptMember (hnodup : (fields.map Field.name).Nodup) :
    ∀ {members : List (String × Value)} (met : List String),
      (∀ m ∈ members, m.1 ∈ fields.map Field.name ∧
        Row.AtName m.1 (fun c x => c.accept m.2 = .ok x) fields row) →
      (members.map Prod.fst).Nodup → (∀ m ∈ members, m.1 ∉ met) →
      members.foldlM (acceptMember fields) (Slots.filled met fields row) =
        .ok (Slots.filled ((members.map Prod.fst).reverse ++ met) fields row)
  | [], met, _, _, _ => rfl
  | m :: members, met, haccept, hnames, hnew => by
    have hrest := not_mem_cons_of_nodup hnames hnew
    rw [List.map_cons, List.nodup_cons] at hnames
    obtain ⟨hmem, hat⟩ := haccept m List.mem_cons_self
    have hfirst : acceptMember fields (Slots.filled met fields row) m =
        .ok (Slots.filled (m.1 :: met) fields row) := by
      have hmeet : (Slots.filled met fields row).meet (fun codec => (codec.accept m.2).map (·, ()))
          Reason.duplicateField (.ok ()) m.1 = .ok (Slots.filled (m.1 :: met) fields row, ()) := by
        refine Slots.meet_filled (hnew m List.mem_cons_self) hnodup hmem (hat.imp ?_)
        intro α c x hx
        rw [hx]
        rfl
      rw [acceptMember, hmeet]
      rfl
    rw [List.foldlM_cons, hfirst, List.map_cons, List.reverse_cons, List.append_assoc,
      List.singleton_append]
    exact foldlM_acceptMember hnodup _
      (fun m' hm' => haccept m' (List.mem_cons_of_mem m hm')) hnames.2 hrest

/-- **A record is taken back** from its members in ascending order if each field that is written
is. -/
theorem acceptsBack_record (name : String) (hnodup : (fields.map Field.name).Nodup)
    (h : Row.Each (fun c x => c.AcceptsBack x) fields row) : (record name fields).AcceptsBack row := by
  have hnames : ((Row.members fields row).map Prod.fst).Nodup :=
    hnodup.sublist Row.members_sublist
  have hsame : ((Value.sortedMembers [] (Row.members fields row)).map Prod.fst).Perm
      ((Row.members fields row).map Prod.fst) := by
    have hperm : (Value.sortedMembers [] (Row.members fields row)).Perm _ :=
      Value.sortedMembers_perm hnames
    have hmap := hperm.map Prod.fst
    rwa [List.nil_append, List.map_map] at hmap
  -- Sorting moves the members and sorts their values, but each still has its field.
  have haccept : ∀ m ∈ Value.sortedMembers [] (Row.members fields row),
      m.1 ∈ fields.map Field.name ∧
        Row.AtName m.1 (fun c x => c.accept m.2 = .ok x) fields row := by
    intro m hm
    rcases Value.eq_or_mem_of_mem_sortedMembers hm with hnil | ⟨m', hm', rfl⟩
    · cases hnil
    · have hname := Row.name_mem_of_mem_members hm'
      refine ⟨hname, ?_⟩
      refine (h.atName_of_mem_members hnodup hm').imp ?_
      rintro α c x ⟨hwrite, hback⟩
      rw [← hwrite]
      exact hback
  have hfold := foldlM_acceptMember hnodup [] haccept (hsame.nodup_iff.mpr hnames)
    (fun m _ => List.not_mem_nil)
  rw [Slots.filled_nil, List.append_nil] at hfold
  have hcomplete : Slots.complete fields (Slots.filled
      ((Value.sortedMembers [] (Row.members fields row)).map Prod.fst).reverse fields row) =
      .ok row :=
    Slots.complete_filled h fun n hn => List.mem_reverse.mpr (hsame.mem_iff.mpr hn)
  rw [AcceptsBack, toValue]
  dsimp only [record]
  rw [Value.sorted]
  dsimp only
  unfold acceptMember at hfold
  rw [hfold]
  dsimp only
  rw [hcomplete]

/-- A record is written plainly if each field that is written is. -/
theorem plain_record (name : String)
    (h : Row.Each (fun c x => (c.write x).Plain depth) fields row) :
    ((record name fields).write row).Plain (depth + 1) := by
  show (Value.object (Row.members fields row)).Plain (depth + 1)
  rw [Value.Plain, Value.plainMembers_iff]
  refine ⟨Nat.succ_pos depth, ?_⟩
  show ∀ m ∈ Row.members fields row, m.2.Plain depth
  induction fields with
  | nil =>
    intro m hm
    cases hm
  | cons f fields ih =>
    obtain ⟨x, row⟩ := row
    obtain ⟨_, hfirst, hrest⟩ := h
    intro m hm
    rw [Row.members] at hm
    cases hout : f.leftOut x with
    | true =>
      rw [hout, if_pos rfl] at hm
      exact ih hrest m hm
    | false =>
      rw [hout, if_neg Bool.false_ne_true] at hm
      rcases List.mem_cons.mp hm with rfl | hm
      · exact hfirst hout
      · exact ih hrest m hm

end Codec

end SchemaCatalog.Json
