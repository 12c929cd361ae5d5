import SchemaCatalog.Proofs.Json.Bytes
import Mathlib.Data.List.Forall2

/-!
# Documents are read back

`c.ReadsBack depth x` says that the codec `c` reads `x` from the bytes it writes `x` in, when at most
`depth` brackets and braces may be opened, whatever comes behind as long as that does not go on with a
number (`Ends`). The codecs of single values do so for every value in their range, lists if their
items do (`ReadsBack.list`), and `any` for plain ascending documents (`readsBack_any`). A whole text is
parsed as what it was printed from (`ReadsBack.parse_print`).
-/

namespace SchemaCatalog.Json

open Utf8 (encodeChars)

/-! ### Numbers -/

/-- The bytes of an integer of 64 bits are a minus sign and digits, or digits only, and are scanned as
the integer. -/
theorem scan_integer {n : Int} {rest : Bytes} (hmin : Number.minInteger ≤ n)
    (hmax : n ≤ Number.maxInteger) (hrest : Ends rest) :
    (∃ bytes, (Value.number (.integer n)).bytes = minus :: bytes ∧
      scanNumber true (bytes ++ rest) = .ok (.integer n, rest)) ∨
    ∃ b bytes, (Value.number (.integer n)).bytes = b :: bytes ∧ isDigit b = true ∧
      scanNumber false (b :: (bytes ++ rest)) = .ok (.integer n, rest) := by
  cases n with
  | ofNat n =>
    obtain ⟨b, bytes, hbytes, hdigit⟩ := encodeChars_toDigits n
    have hlt : n < significandLimit := Int.ofNat_lt.mp (Int.lt_of_le_of_lt hmax (by decide))
    have hscan := scanNumber_natural hrest hlt
    rw [hbytes, List.cons_append] at hscan
    exact .inr ⟨b, bytes, hbytes, hdigit, hscan⟩
  | negSucc n =>
    have hn : n + 1 ≤ Nat.pow 2 63 := by
      have hmin : -0x8000000000000000 ≤ Int.negSucc n := hmin
      show n + 1 ≤ 0x8000000000000000
      omega
    exact .inl ⟨_, Value.bytes_opposite n, scanNumber_opposite hrest (Nat.succ_pos n) hn⟩

/-- An integer of 64 bits is read back. -/
theorem read_number (expected : String) (steps depth : Nat) {n : Int} {rest : Bytes}
    (hmin : Number.minInteger ≤ n) (hmax : n ≤ Number.maxInteger) (hrest : Ends rest) :
    (Codec.number expected).read steps depth ((Value.number (.integer n)).bytes ++ rest) =
      .ok (.integer n, rest) := by
  dsimp only [Codec.number]
  rw [skipBlanks_bytes (Value.starts_integer n)]
  rcases scan_integer hmin hmax hrest with ⟨bytes, hbytes, hscan⟩ | ⟨b, bytes, hbytes, hb, hscan⟩
  · rw [hbytes, List.cons_append]
    dsimp only
    rw [if_pos rfl, hscan]
  · rw [hbytes, List.cons_append]
    dsimp only
    rw [if_neg (ne_of_isDigit hb (by decide)), if_pos hb, hscan]

/-! ### Any document -/

theorem length_item_lt {items : List Value} {v : Value} (h : v ∈ items) :
    v.bytes.length < (Value.itemsBytes items).length := by
  induction items with
  | nil => cases h
  | cons first rest ih =>
    rw [Value.itemsBytes_cons, List.length_cons, List.length_append]
    rcases List.mem_cons.mp h with rfl | h
    · omega
    · have := ih h
      omega

theorem length_array_item_lt {items : List Value} {v : Value} (h : v ∈ items) :
    v.bytes.length < (Value.array items).bytes.length := by
  cases items with
  | nil => cases h
  | cons first rest =>
    rw [Value.bytes_array_cons, List.length_cons, List.length_append]
    rcases List.mem_cons.mp h with rfl | h
    · omega
    · have := length_item_lt h
      omega

theorem length_member_lt {members : List (String × Value)} {m : String × Value} (h : m ∈ members) :
    m.2.bytes.length < (Value.membersBytes members).length := by
  induction members with
  | nil => cases h
  | cons first rest ih =>
    rw [Value.membersBytes_cons]
    simp only [List.length_cons, List.length_append]
    rcases List.mem_cons.mp h with rfl | h
    · omega
    · have := ih h
      omega

theorem length_object_member_lt {members : List (String × Value)} {m : String × Value}
    (h : m ∈ members) : m.2.bytes.length < (Value.object members).bytes.length := by
  cases members with
  | nil => cases h
  | cons first rest =>
    rw [Value.bytes_object_cons]
    simp only [List.length_cons, List.length_append]
    rcases List.mem_cons.mp h with rfl | h
    · omega
    · have := length_member_lt h
      omega

theorem Value.Plain.starts {depth : Nat} {v : Value} (h : v.Plain depth) : v.Starts := by
  apply Value.starts_of_ne_double
  rintro x rfl
  exact h

/-- The member of an object of any type, added to those before it. -/
def readAnyMember (steps depth : Nat) (_ : Nat) (members : List (String × Value)) (name : String)
    (bytes : Bytes) : Parsed (List (String × Value)) :=
  match expectColon bytes with
  | .error f => .error f
  | .ok rest =>
    match Codec.readAny steps depth rest with
    | .error f => .error f
    | .ok (v, rest) => .ok (Value.insertMember name v members, rest)

/-- Members in ascending order are read one after the other. -/
theorem readsMembers_any {steps depth : Nat} {members : List (String × Value)}
    (h : ∀ m ∈ members, ∀ rest, Ends rest →
      Codec.readAny steps depth (m.2.bytes ++ rest) = .ok (m.2, rest)) :
    ∀ done, Value.NamesAscend (done ++ members) →
      ReadsMembers (readAnyMember steps depth) done members (done ++ members) := by
  induction members with
  | nil =>
    intro done _
    rw [List.append_nil]
    exact .nil done
  | cons m members ih =>
    intro done hascend
    have hlast : ∀ m' ∈ done, compare m'.1 m.1 = .lt := by
      intro m' hm'
      exact (List.pairwise_append.mp hascend).2.2 m' hm' m List.mem_cons_self
    rw [List.append_cons] at hascend ⊢
    refine .cons ?_ (ih (fun m' hm' => h m' (List.mem_cons_of_mem m hm')) _ hascend)
    intro _ rest _ hrest
    rw [readAnyMember, expectColon_cons]
    dsimp only
    rw [h m List.mem_cons_self rest hrest]
    dsimp only
    rw [Value.insertMember_eq_append m.2 hlast]

theorem readAny_integer (steps depth : Nat) {n : Int} {rest : Bytes}
    (hmin : Number.minInteger ≤ n) (hmax : n ≤ Number.maxInteger) (hrest : Ends rest) :
    Codec.readAny (steps + 1) depth ((Value.number (.integer n)).bytes ++ rest) =
      .ok (.number (.integer n), rest) := by
  rw [Codec.readAny, skipBlanks_bytes (Value.starts_integer n)]
  rcases scan_integer hmin hmax hrest with ⟨bytes, hbytes, hscan⟩ | ⟨b, bytes, hbytes, hb, hscan⟩
  · rw [hbytes, List.cons_append]
    dsimp only
    rw [if_neg (by decide), if_neg (by decide), if_neg (by decide), if_pos rfl, hscan]
    rfl
  · rw [hbytes, List.cons_append]
    dsimp only
    rw [if_neg (ne_of_isDigit hb (by decide)), if_neg (ne_of_isDigit hb (by decide)),
      if_neg (ne_of_isDigit hb (by decide)), if_neg (ne_of_isDigit hb (by decide)), if_pos hb, hscan]
    rfl

theorem readAny_string (steps depth : Nat) (s : String) (rest : Bytes) :
    Codec.readAny (steps + 1) depth ((Value.string s).bytes ++ rest) = .ok (.string s, rest) := by
  rw [Codec.readAny, Value.bytes_string, List.cons_append, skipBlanks_cons (by decide)]
  dsimp only
  rw [if_neg (by decide), if_neg (by decide), if_neg (by decide), if_neg (by decide),
    if_neg (by decide), if_pos rfl, Value.literalBytes, scanString_literal]
  rfl

/-- An array is read if its items are, one bracket further in. -/
theorem readAny_array {steps depth : Nat} {items : List Value} (rest : Bytes)
    (h : List.Forall₂ (ReadsItem fun _ => Codec.readAny steps depth) items items)
    (hlength : (Value.array items).bytes.length ≤ steps + 1) :
    Codec.readAny (steps + 1) (depth + 1) ((Value.array items).bytes ++ rest) =
      .ok (.array items, rest) := by
  have hread := readItems_array h rest hlength
  obtain ⟨bytes, hbytes⟩ := Value.exists_bytes_array items
  rw [hbytes, List.tail_cons] at hread
  rw [Codec.readAny, hbytes, List.cons_append, skipBlanks_cons (by decide)]
  dsimp only
  rw [if_neg (by decide), if_neg (by decide), if_neg (by decide), if_neg (by decide),
    if_neg (by decide), if_neg (by decide), if_pos rfl, hread]
  rfl

/-- An object is read if its members are, one brace further in. -/
theorem readAny_object {steps depth : Nat} {members : List (String × Value)} (rest : Bytes)
    (h : ReadsMembers (readAnyMember steps depth) [] members members)
    (hlength : (Value.object members).bytes.length ≤ steps + 1) :
    Codec.readAny (steps + 1) (depth + 1) ((Value.object members).bytes ++ rest) =
      .ok (.object members, rest) := by
  have hread := readMembers_object h rest hlength
  obtain ⟨bytes, hbytes⟩ := Value.exists_bytes_object members
  rw [hbytes, List.tail_cons] at hread
  rw [Codec.readAny, hbytes, List.cons_append, skipBlanks_cons (by decide)]
  dsimp only
  rw [if_neg (by decide), if_neg (by decide), if_neg (by decide), if_neg (by decide),
    if_neg (by decide), if_neg (by decide), if_neg (by decide), if_pos rfl]
  show (readMembers (readAnyMember steps depth) (steps + 1) true [] (bytes ++ rest)).map _ = _
  rw [hread]
  rfl

/-- A plain ascending document is read back. -/
theorem readAny_bytes {steps : Nat} :
    ∀ {depth : Nat} {v : Value} {rest : Bytes}, v.Plain depth → v.Ascending →
      v.bytes.length < steps → Ends rest →
      Codec.readAny steps depth (v.bytes ++ rest) = .ok (v, rest) := by
  -- What stands inside an array or an object is shorter than it, so that one step less reads it.
  induction steps with
  | zero =>
    intro depth v rest _ _ hlt
    omega
  | succ steps ih =>
    intro depth v rest hplain hascend hlt hrest
    cases v with
    | null =>
      rw [Codec.readAny, Value.bytes_null, List.cons_append, skipBlanks_cons (by decide)]
      dsimp only
      rw [if_pos rfl, expectWord_append]
      rfl
    | bool b =>
      cases b with
      | true =>
        rw [Codec.readAny, Value.bytes_true, List.cons_append, skipBlanks_cons (by decide)]
        dsimp only
        rw [if_neg (by decide), if_pos rfl, expectWord_append]
        rfl
      | false =>
        rw [Codec.readAny, Value.bytes_false, List.cons_append, skipBlanks_cons (by decide)]
        dsimp only
        rw [if_neg (by decide), if_neg (by decide), if_pos rfl, expectWord_append]
        rfl
    | number n =>
      cases n with
      | double x => exact hplain.elim
      | integer n => exact readAny_integer steps depth hplain.1 hplain.2 hrest
    | string s => exact readAny_string steps depth s rest
    | array items =>
      rw [Value.Plain, Value.plainItems_iff] at hplain
      rw [Value.Ascending, Value.ascendingItems_iff] at hascend
      obtain ⟨depth, rfl⟩ : ∃ k, depth = k + 1 := ⟨depth - 1, by omega⟩
      refine readAny_array rest (List.forall₂_same.mpr fun v hv => ?_) (Nat.le_of_lt hlt)
      have := length_array_item_lt hv
      refine ⟨(hplain.2 v hv).starts, ?_⟩
      intro _ rest _ hrest
      exact ih (hplain.2 v hv) (hascend v hv) (by omega) hrest
    | object members =>
      rw [Value.Plain, Value.plainMembers_iff] at hplain
      rw [Value.Ascending, Value.ascendingMembers_iff] at hascend
      obtain ⟨depth, rfl⟩ : ∃ k, depth = k + 1 := ⟨depth - 1, by omega⟩
      refine readAny_object rest (readsMembers_any ?_ [] hascend.1) (Nat.le_of_lt hlt)
      intro m hm rest hrest
      have := length_object_member_lt hm
      exact ih (hplain.2 m hm) (hascend.2 m hm) (by omega) hrest

/-! ### Codecs -/

namespace Codec

variable {α β : Type}

/-- A codec reads a value from the bytes it writes it in, if `depth` brackets and braces may be
opened. -/
structure ReadsBack (c : Codec α) (depth : Nat) (x : α) : Prop where
  starts : (c.write x).Starts
  read : ∀ steps rest, (c.write x).bytes.length < steps → Ends rest →
    c.read steps depth ((c.write x).bytes ++ rest) = .ok (x, rest)

variable {c : Codec α} {depth : Nat} {x : α}

theorem readsBack_text (expected : String) (depth : Nat) (s : String) :
    (text expected).ReadsBack depth s where
  starts := Value.starts_of_ne_double fun x h => by cases h
  read steps rest _ _ := by
    dsimp only [text]
    rw [Value.bytes_string, List.cons_append, skipBlanks_cons (by decide)]
    dsimp only
    rw [if_pos rfl, Value.literalBytes, scanString_literal]

theorem readsBack_integer (expected : String) (depth : Nat) {low high n : Int} (hlow : low ≤ n)
    (hhigh : n ≤ high) (hmin : Number.minInteger ≤ n) (hmax : n ≤ Number.maxInteger) :
    (integer expected low high).ReadsBack depth n where
  starts := Value.starts_integer n
  read steps rest _ hrest := by
    dsimp only [integer]
    rw [read_number expected steps depth hmin hmax hrest]
    dsimp only
    rw [checkInteger, decide_eq_true hlow, decide_eq_true hhigh]
    rfl

/-- Another type is read back through the codec that it is written by. -/
theorem ReadsBack.imap {forth : α → β} {back : β → α} {y : β} (h : c.ReadsBack depth (back y))
    (hy : forth (back y) = y) : (c.imap forth back).ReadsBack depth y where
  starts := h.starts
  read steps rest hlt hrest := by
    show (c.read steps depth ((c.write (back y)).bytes ++ rest)).map _ = _
    rw [h.read steps rest hlt hrest]
    show Except.ok (forth (back y), rest) = _
    rw [hy]

theorem readsBack_none (c : Codec α) (depth : Nat) : c.optional.ReadsBack depth none where
  starts := Value.starts_of_ne_double fun x h => by cases h
  read steps rest _ _ := by
    dsimp only [optional]
    rw [Value.bytes_null, List.cons_append, skipBlanks_cons (by decide)]
    dsimp only
    rw [if_pos rfl, expectWord_append]
    rfl

/-- A value is read back if it is not written as `null`. -/
theorem ReadsBack.some (h : c.ReadsBack depth x) (hx : c.write x ≠ .null) :
    c.optional.ReadsBack depth (some x) where
  starts := h.starts
  read steps rest hlt hrest := by
    obtain ⟨b, bytes, hbytes, hblank, _, hletter⟩ := h.starts
    have hread := h.read steps rest hlt hrest
    rw [hbytes, List.cons_append] at hread
    dsimp only [optional]
    rw [hbytes, List.cons_append, skipBlanks_cons hblank]
    dsimp only
    rw [if_neg (hletter hx), hread]
    rfl

/-- A list is read back if its items are. -/
theorem ReadsBack.list {xs : List α} (h : ∀ x ∈ xs, c.ReadsBack depth x) :
    (Codec.list c).ReadsBack (depth + 1) xs where
  starts := Value.starts_of_ne_double fun x h => by cases h
  read steps rest hlt _ := by
    have hitems : List.Forall₂ (ReadsItem fun steps => c.read steps depth) (xs.map c.write) xs := by
      rw [List.forall₂_map_left_iff]
      exact List.forall₂_same.mpr fun x hx => ⟨(h x hx).starts, (h x hx).read⟩
    have hread := readItems_array hitems rest (Nat.le_of_lt hlt)
    obtain ⟨bytes, hbytes⟩ := Value.exists_bytes_array (xs.map c.write)
    dsimp only [Codec.list]
    rw [hbytes, List.tail_cons] at hread
    rw [hbytes, List.cons_append, skipBlanks_cons (by decide)]
    dsimp only
    rw [if_pos rfl]
    exact hread

/-- A free-form document is read back if it is plain and ascending. -/
theorem readsBack_any {v : Value} (hplain : v.Plain depth) (hascend : v.Ascending) :
    any.ReadsBack depth v where
  starts := hplain.starts
  read _ _ hlt hrest := readAny_bytes hplain hascend hlt hrest

/-- **A text is parsed as what it was printed from.** -/
theorem ReadsBack.parse_print (h : c.ReadsBack maxDepth x) :
    c.parse (c.print x).toUTF8.toList = .ok x := by
  have hbytes : (c.print x).toUTF8.toList = (c.write x).bytes := Utf8.toList_toUTF8 _
  have hread := h.read ((c.write x).bytes.length + 1) [] (Nat.lt_succ_self _) ends_nil
  rw [List.append_nil] at hread
  rw [parse, hbytes, hread]
  rfl

end Codec

end SchemaCatalog.Json
