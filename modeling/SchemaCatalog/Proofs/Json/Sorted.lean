import SchemaCatalog.Json.Value
import Mathlib.Data.List.Basic
import Std.Data.TreeMap.Lemmas

/-!
# Sorted documents

A document is `Ascending` if the names of the members of every object in it ascend, and `Plain` if it
has integers of 64 bits for numbers only and nests at most so deep. `Value.sorted` makes a document
ascending (`ascending_sorted`), keeps it plain (`plain_sorted`), and changes nothing in one that is
ascending already (`sorted_eq_self`). The members of a sorted object are those of the object, each
sorted, if no two have one name (`sortedMembers_perm`).
-/

namespace SchemaCatalog.Json.Value

/-- Members whose names ascend. -/
def NamesAscend (members : List (String × Value)) : Prop :=
  members.Pairwise fun m m' => compare m.1 m'.1 = .lt

mutual

/-- The names of the members of every object in a document ascend. -/
def Ascending : Value → Prop
  | array items => AscendingItems items
  | object members => NamesAscend members ∧ AscendingMembers members
  | _ => True

/-- Every item is ascending. -/
def AscendingItems : List Value → Prop
  | [] => True
  | v :: rest => v.Ascending ∧ AscendingItems rest

/-- The value of every member is ascending. -/
def AscendingMembers : List (String × Value) → Prop
  | [] => True
  | (_, v) :: rest => v.Ascending ∧ AscendingMembers rest

end

mutual

/-- A document has integers of 64 bits for numbers only, and at most `depth` brackets and braces are
open at once. -/
def Plain (depth : Nat) : Value → Prop
  | number (.integer n) => Number.minInteger ≤ n ∧ n ≤ Number.maxInteger
  | number (.double _) => False
  | array items => 0 < depth ∧ PlainItems (depth - 1) items
  | object members => 0 < depth ∧ PlainMembers (depth - 1) members
  | _ => True

/-- Every item is plain. -/
def PlainItems (depth : Nat) : List Value → Prop
  | [] => True
  | v :: rest => v.Plain depth ∧ PlainItems depth rest

/-- The value of every member is plain. -/
def PlainMembers (depth : Nat) : List (String × Value) → Prop
  | [] => True
  | (_, v) :: rest => v.Plain depth ∧ PlainMembers depth rest

end

/-- Proof by induction on the items and members inside a document. -/
@[elab_as_elim]
theorem memRec {P : Value → Prop} (null : P null) (bool : ∀ b, P (bool b))
    (number : ∀ n, P (number n)) (string : ∀ s, P (string s))
    (array : ∀ items, (∀ v ∈ items, P v) → P (array items))
    (object : ∀ members, (∀ m ∈ members, P m.2) → P (object members)) (v : Value) : P v :=
  @Value.rec P (fun items => ∀ v ∈ items, P v) (fun members => ∀ m ∈ members, P m.2) (fun m => P m.2)
    null bool number string array object (List.forall_mem_nil _)
    (fun _ _ first rest => List.forall_mem_cons.mpr ⟨first, rest⟩) (List.forall_mem_nil _)
    (fun _ _ first rest => List.forall_mem_cons.mpr ⟨first, rest⟩) (fun _ _ value => value) v

theorem ascendingItems_iff {items : List Value} :
    AscendingItems items ↔ ∀ v ∈ items, v.Ascending := by
  induction items with
  | nil => simp [AscendingItems]
  | cons v rest ih => rw [AscendingItems, ih, List.forall_mem_cons]

theorem ascendingMembers_iff {members : List (String × Value)} :
    AscendingMembers members ↔ ∀ m ∈ members, m.2.Ascending := by
  induction members with
  | nil => simp [AscendingMembers]
  | cons m rest ih => rw [AscendingMembers, ih, List.forall_mem_cons]

theorem plainItems_iff {depth : Nat} {items : List Value} :
    PlainItems depth items ↔ ∀ v ∈ items, v.Plain depth := by
  induction items with
  | nil => simp [PlainItems]
  | cons v rest ih => rw [PlainItems, ih, List.forall_mem_cons]

theorem plainMembers_iff {depth : Nat} {members : List (String × Value)} :
    PlainMembers depth members ↔ ∀ m ∈ members, m.2.Plain depth := by
  induction members with
  | nil => simp [PlainMembers]
  | cons m rest ih => rw [PlainMembers, ih, List.forall_mem_cons]

/-! ### Adding members -/

/-- A member whose name comes after all others is added at the end. -/
theorem insertMember_eq_append {name : String} (v : Value) {members : List (String × Value)}
    (h : ∀ m ∈ members, compare m.1 name = .lt) :
    insertMember name v members = members ++ [(name, v)] := by
  induction members with
  | nil => rfl
  | cons m rest ih =>
    have hgt : compare name m.1 = .gt := Std.OrientedCmp.gt_of_lt (h m List.mem_cons_self)
    rw [insertMember, hgt]
    dsimp only
    rw [ih fun m' hm' => h m' (List.mem_cons_of_mem m hm'), List.cons_append]

/-- The member added is there, and every other one was there before. -/
theorem eq_or_mem_of_mem_insertMember {name : String} {v : Value} {members : List (String × Value)}
    {m : String × Value} (h : m ∈ insertMember name v members) : m = (name, v) ∨ m ∈ members := by
  induction members with
  | nil => exact .inl (List.mem_singleton.mp h)
  | cons first rest ih =>
    rw [insertMember] at h
    cases hc : compare name first.1 with
    | lt =>
      rw [hc] at h
      exact List.mem_cons.mp h
    | eq =>
      rw [hc] at h
      rcases List.mem_cons.mp h with heq | hmem
      · exact .inl heq
      · exact .inr (List.mem_cons_of_mem first hmem)
    | gt =>
      rw [hc] at h
      rcases List.mem_cons.mp h with heq | hmem
      · exact .inr (heq ▸ List.mem_cons_self)
      · rcases ih hmem with heq | hmem
        · exact .inl heq
        · exact .inr (List.mem_cons_of_mem first hmem)

/-- A member with a new name is added to the others. -/
theorem insertMember_perm {name : String} (v : Value) {members : List (String × Value)}
    (h : name ∉ members.map Prod.fst) :
    (insertMember name v members).Perm ((name, v) :: members) := by
  induction members with
  | nil => exact .refl _
  | cons first rest ih =>
    rw [List.map_cons, List.mem_cons, not_or] at h
    rw [insertMember]
    cases hc : compare name first.1 with
    | lt => exact .refl _
    | eq => exact absurd (Std.LawfulEqCmp.eq_of_compare hc) h.1
    | gt => exact ((ih h.2).cons first).trans (.swap _ _ _)

/-- Names that ascend do so with a member added. -/
theorem NamesAscend.insertMember {members : List (String × Value)} (h : NamesAscend members)
    (name : String) (v : Value) : NamesAscend (insertMember name v members) := by
  induction members with
  | nil => exact List.pairwise_singleton _ _
  | cons first rest ih =>
    obtain ⟨hfirst, hrest⟩ := List.pairwise_cons.mp h
    rw [Value.insertMember]
    cases hc : compare name first.1 with
    | lt =>
      apply List.pairwise_cons.mpr
      refine ⟨?_, h⟩
      intro m hm
      rcases List.mem_cons.mp hm with rfl | hm
      · exact hc
      · exact Std.TransCmp.lt_trans hc (hfirst m hm)
    | eq =>
      apply List.pairwise_cons.mpr
      refine ⟨?_, hrest⟩
      intro m hm
      have heq : name = first.1 := Std.LawfulEqCmp.eq_of_compare hc
      rw [heq]
      exact hfirst m hm
    | gt =>
      apply List.pairwise_cons.mpr
      refine ⟨?_, ih hrest⟩
      intro m hm
      rcases eq_or_mem_of_mem_insertMember hm with rfl | hm
      · exact Std.OrientedCmp.lt_of_gt hc
      · exact hfirst m hm

/-! ### The members of a sorted object -/

theorem eq_or_mem_of_mem_sortedMembers {members : List (String × Value)} :
    ∀ {done : List (String × Value)} {m : String × Value}, m ∈ sortedMembers done members →
      m ∈ done ∨ ∃ m' ∈ members, m = (m'.1, m'.2.sorted) := by
  induction members with
  | nil =>
    intro done m h
    rw [sortedMembers] at h
    exact .inl h
  | cons first rest ih =>
    intro done m h
    rw [sortedMembers] at h
    rcases ih h with hdone | ⟨m', hm', heq⟩
    · rcases eq_or_mem_of_mem_insertMember hdone with heq | hdone
      · exact .inr ⟨first, List.mem_cons_self, heq⟩
      · exact .inl hdone
    · exact .inr ⟨m', List.mem_cons_of_mem first hm', heq⟩

theorem NamesAscend.sortedMembers {members : List (String × Value)} :
    ∀ {done : List (String × Value)}, NamesAscend done →
      NamesAscend (sortedMembers done members) := by
  induction members with
  | nil =>
    intro done h
    rw [Value.sortedMembers]
    exact h
  | cons first rest ih =>
    intro done h
    rw [Value.sortedMembers]
    exact ih (h.insertMember first.1 first.2.sorted)

/-- The members of a sorted object are those of the object, each sorted, if their names differ. -/
theorem sortedMembers_perm {members : List (String × Value)} :
    ∀ {done : List (String × Value)}, ((done ++ members).map Prod.fst).Nodup →
      (sortedMembers done members).Perm (done ++ members.map fun m => (m.1, m.2.sorted)) := by
  induction members with
  | nil =>
    intro done _
    rw [sortedMembers, List.map_nil, List.append_nil]
  | cons first rest ih =>
    intro done h
    have hmiddle : ((done ++ first :: rest).map Prod.fst).Perm
        (((first.1, first.2.sorted) :: done ++ rest).map Prod.fst) := by
      simp only [List.map_append, List.map_cons, List.cons_append]
      exact List.perm_middle
    have hnew : first.1 ∉ done.map Prod.fst := by
      have hnodup := hmiddle.nodup_iff.mp h
      rw [List.cons_append, List.map_cons, List.nodup_cons, List.map_append, List.mem_append,
        not_or] at hnodup
      exact hnodup.1.1
    have hinsert := insertMember_perm first.2.sorted hnew
    have hnext : ((insertMember first.1 first.2.sorted done ++ rest).map Prod.fst).Nodup := by
      refine (List.Perm.nodup_iff ?_).mp h
      exact hmiddle.trans ((hinsert.symm.append_right rest).map Prod.fst)
    rw [sortedMembers, List.map_cons]
    refine (ih hnext).trans ?_
    refine (hinsert.append_right _).trans ?_
    rw [List.cons_append]
    exact List.perm_middle.symm

/-! ### Sorted documents -/

theorem sortedItems_eq_map (items : List Value) : sortedItems items = items.map sorted := by
  induction items with
  | nil => rfl
  | cons v rest ih => rw [sortedItems, List.map_cons, ih]

/-- A sorted document is ascending. -/
theorem ascending_sorted (v : Value) : v.sorted.Ascending := by
  induction v using memRec with
  | null => trivial
  | bool => trivial
  | number => trivial
  | string => trivial
  | array items ih =>
    rw [sorted, Ascending, sortedItems_eq_map, ascendingItems_iff]
    intro v hv
    obtain ⟨v', hv', rfl⟩ := List.mem_map.mp hv
    exact ih v' hv'
  | object members ih =>
    rw [sorted, Ascending, ascendingMembers_iff]
    refine ⟨NamesAscend.sortedMembers List.Pairwise.nil, ?_⟩
    intro m hm
    rcases eq_or_mem_of_mem_sortedMembers hm with hnil | ⟨m', hm', rfl⟩
    · cases hnil
    · exact ih m' hm'

/-- A sorted document is as plain as before. -/
theorem plain_sorted {v : Value} : ∀ {depth : Nat}, v.Plain depth → v.sorted.Plain depth := by
  induction v using memRec with
  | null => exact id
  | bool => exact id
  | number => exact id
  | string => exact id
  | array items ih =>
    intro depth
    rw [sorted, Plain, Plain, sortedItems_eq_map, plainItems_iff, plainItems_iff]
    rintro ⟨hdepth, hitems⟩
    refine ⟨hdepth, ?_⟩
    intro v hv
    obtain ⟨v', hv', rfl⟩ := List.mem_map.mp hv
    exact ih v' hv' (hitems v' hv')
  | object members ih =>
    intro depth
    rw [sorted, Plain, Plain, plainMembers_iff, plainMembers_iff]
    rintro ⟨hdepth, hmembers⟩
    refine ⟨hdepth, ?_⟩
    intro m hm
    rcases eq_or_mem_of_mem_sortedMembers hm with hnil | ⟨m', hm', rfl⟩
    · cases hnil
    · exact ih m' hm' (hmembers m' hm')

/-- Sorting goes on behind members whose names ascend up to those that follow. -/
theorem sortedMembers_eq_append {members : List (String × Value)}
    (hsorted : ∀ m ∈ members, m.2.sorted = m.2) :
    ∀ done : List (String × Value), NamesAscend (done ++ members) →
      sortedMembers done members = done ++ members := by
  induction members with
  | nil =>
    intro done _
    rw [sortedMembers, List.append_nil]
  | cons first rest ih =>
    intro done h
    have hlast : ∀ m ∈ done, compare m.1 first.1 = .lt := by
      intro m hm
      exact (List.pairwise_append.mp h).2.2 m hm first List.mem_cons_self
    have hfirst := hsorted first List.mem_cons_self
    have hrest := ih fun m hm => hsorted m (List.mem_cons_of_mem first hm)
    rw [List.append_cons] at h
    rw [sortedMembers, hfirst, insertMember_eq_append first.2 hlast, hrest _ h,
      ← List.append_cons]

/-- An ascending document is sorted already. -/
theorem sorted_eq_self {v : Value} (h : v.Ascending) : v.sorted = v := by
  induction v using memRec with
  | null => rfl
  | bool => rfl
  | number => rfl
  | string => rfl
  | array items ih =>
    rw [Ascending, ascendingItems_iff] at h
    rw [sorted, sortedItems_eq_map, List.map_congr_left fun v hv => ih v hv (h v hv), List.map_id']
  | object members ih =>
    rw [Ascending, ascendingMembers_iff] at h
    rw [sorted, sortedMembers_eq_append (fun m hm => ih m hm (h.2 m hm)) [] h.1,
      List.nil_append]

end SchemaCatalog.Json.Value
