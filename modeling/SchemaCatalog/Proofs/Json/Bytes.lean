import SchemaCatalog.Json.Codec
import SchemaCatalog.Proofs.Json.Integer
import SchemaCatalog.Proofs.Json.Literal
import SchemaCatalog.Proofs.Json.Sorted

/-!
# The bytes of documents

How the bytes of a document are made up of those of its items and members, and how `readItems` and
`readMembers` take them apart again: items that can be read one by one are read as a list up to its
closing bracket (`readItems_array`), and members up to the closing brace (`readMembers_object`).
-/

namespace SchemaCatalog.Json

open Utf8 (encodeChars)

theorem ne_of_isDigit {b c : UInt8} (hb : isDigit b = true) (hc : isDigit c = false) : b ≠ c := by
  rintro rfl
  rw [hb] at hc
  cases hc

namespace Value

/-! ### The bytes of documents -/

/-- The bytes of a document. -/
def bytes (v : Value) : Bytes := encodeChars v.render

/-- The bytes of the items after the first one. -/
def itemsBytes (items : List Value) : Bytes := encodeChars (renderItems items)

/-- The bytes of the members after the first one. -/
def membersBytes (members : List (String × Value)) : Bytes := encodeChars (renderMembers members)

/-- The bytes of a literal behind its opening quote. -/
def literalBytes (s : String) : Bytes := encodeChars (s.toList.flatMap escapeChar ++ ['"'])

theorem bytes_null : null.bytes = letterN :: afterN :=
  rfl

theorem bytes_true : (bool true).bytes = letterT :: afterT :=
  rfl

theorem bytes_false : (bool false).bytes = letterF :: afterF :=
  rfl

theorem bytes_natural (n : Nat) :
    (number (.integer (.ofNat n))).bytes = encodeChars (Nat.toDigits 10 n) :=
  rfl

theorem bytes_opposite (n : Nat) :
    (number (.integer (.negSucc n))).bytes = minus :: encodeChars (Nat.toDigits 10 (n + 1)) :=
  rfl

theorem bytes_string (s : String) : (string s).bytes = quote :: literalBytes s :=
  rfl

theorem bytes_array_nil : (array []).bytes = [bracketOpen, bracketClose] :=
  rfl

theorem bytes_array_cons (v : Value) (rest : List Value) :
    (array (v :: rest)).bytes = bracketOpen :: (v.bytes ++ itemsBytes rest) := by
  rw [bytes, render, Utf8.encodeChars_cons, Utf8.encodeChars_append]
  rfl

theorem itemsBytes_nil : itemsBytes [] = [bracketClose] :=
  rfl

theorem itemsBytes_cons (v : Value) (rest : List Value) :
    itemsBytes (v :: rest) = comma :: (v.bytes ++ itemsBytes rest) := by
  rw [itemsBytes, renderItems, Utf8.encodeChars_cons, Utf8.encodeChars_append]
  rfl

theorem bytes_object_nil : (object []).bytes = [braceOpen, braceClose] := by
  decide

theorem bytes_object_cons (name : String) (v : Value) (rest : List (String × Value)) :
    (object ((name, v) :: rest)).bytes =
      braceOpen :: quote :: (literalBytes name ++ colon :: (v.bytes ++ membersBytes rest)) := by
  rw [bytes, render, Utf8.encodeChars_cons, Utf8.encodeChars_append, Utf8.encodeChars_cons,
    Utf8.encodeChars_append]
  rfl

theorem membersBytes_nil : membersBytes [] = [braceClose] := by
  decide

theorem membersBytes_cons (name : String) (v : Value) (rest : List (String × Value)) :
    membersBytes ((name, v) :: rest) =
      comma :: quote :: (literalBytes name ++ colon :: (v.bytes ++ membersBytes rest)) := by
  rw [membersBytes, renderMembers, Utf8.encodeChars_cons, Utf8.encodeChars_append,
    Utf8.encodeChars_cons, Utf8.encodeChars_append]
  rfl

theorem exists_bytes_array (items : List Value) :
    ∃ bytes, (array items).bytes = bracketOpen :: bytes := by
  cases items with
  | nil => exact ⟨_, bytes_array_nil⟩
  | cons v rest => exact ⟨_, bytes_array_cons v rest⟩

theorem exists_bytes_object (members : List (String × Value)) :
    ∃ bytes, (object members).bytes = braceOpen :: bytes := by
  cases members with
  | nil => exact ⟨_, bytes_object_nil⟩
  | cons m rest => exact ⟨_, bytes_object_cons m.1 m.2 rest⟩

/-- A document starts with a byte that is neither a blank nor a closing bracket, and with the letter
of `null` only if it is `null`. -/
def Starts (v : Value) : Prop :=
  ∃ b bytes, v.bytes = b :: bytes ∧ isBlank b = false ∧ b ≠ bracketClose ∧ (v ≠ null → b ≠ letterN)

theorem starts_integer (n : Int) : (number (.integer n)).Starts := by
  cases n with
  | ofNat n =>
    obtain ⟨b, bytes, hbytes, hdigit⟩ := encodeChars_toDigits n
    refine ⟨b, bytes, (bytes_natural n).trans hbytes, ?_⟩
    refine ⟨?_, ne_of_isDigit hdigit (by decide), fun _ => ne_of_isDigit hdigit (by decide)⟩
    rw [isBlank, beq_false_of_ne (ne_of_isDigit hdigit (by decide)),
      beq_false_of_ne (ne_of_isDigit hdigit (by decide)),
      beq_false_of_ne (ne_of_isDigit hdigit (by decide)),
      beq_false_of_ne (ne_of_isDigit hdigit (by decide))]
    rfl
  | negSucc n => exact ⟨minus, _, bytes_opposite n, by decide, by decide, fun _ => by decide⟩

/-- Every document that is no floating-point number starts so. -/
theorem starts_of_ne_double {v : Value} (h : ∀ x, v ≠ number (.double x)) : v.Starts := by
  cases v with
  | null => exact ⟨letterN, _, bytes_null, by decide, by decide, fun hne => absurd rfl hne⟩
  | bool b =>
    cases b with
    | false => exact ⟨letterF, _, bytes_false, by decide, by decide, fun _ => by decide⟩
    | true => exact ⟨letterT, _, bytes_true, by decide, by decide, fun _ => by decide⟩
  | number n =>
    cases n with
    | integer n => exact starts_integer n
    | double x => exact absurd rfl (h x)
  | string s => exact ⟨quote, _, bytes_string s, by decide, by decide, fun _ => by decide⟩
  | array items =>
    obtain ⟨bytes, hbytes⟩ := exists_bytes_array items
    exact ⟨bracketOpen, bytes, hbytes, by decide, by decide, fun _ => by decide⟩
  | object members =>
    obtain ⟨bytes, hbytes⟩ := exists_bytes_object members
    exact ⟨braceOpen, bytes, hbytes, by decide, by decide, fun _ => by decide⟩

end Value

theorem skipBlanks_cons {b : UInt8} (h : isBlank b = false) (rest : Bytes) :
    skipBlanks (b :: rest) = b :: rest := by
  rw [skipBlanks, List.dropWhile_cons, h, if_neg Bool.false_ne_true]

theorem skipBlanks_bytes {v : Value} (h : v.Starts) (rest : Bytes) :
    skipBlanks (v.bytes ++ rest) = v.bytes ++ rest := by
  obtain ⟨b, bytes, hbytes, hblank, _⟩ := h
  rw [hbytes, List.cons_append, skipBlanks_cons hblank]

theorem expectWord_append (word rest : Bytes) : expectWord word (word ++ rest) = .ok rest := by
  induction word with
  | nil => rfl
  | cons w word ih => rw [List.cons_append, expectWord, if_pos rfl, ih]

theorem expectColon_cons (rest : Bytes) : expectColon (colon :: rest) = .ok rest := by
  rw [expectColon, skipBlanks_cons (by decide)]
  exact if_pos rfl

/-! ### Items and members -/

/-- A reader of items reads the one that a document was written from. -/
def ReadsItem {α : Type} (item : (steps : Nat) → Bytes → Parsed α) (v : Value) (x : α) : Prop :=
  v.Starts ∧ ∀ steps rest, v.bytes.length < steps → Ends rest →
    item steps (v.bytes ++ rest) = .ok (x, rest)

/-- What comes behind an item or a member does not go on with a number. -/
theorem ends_itemsBytes (items : List Value) (rest : Bytes) :
    Ends (Value.itemsBytes items ++ rest) := by
  cases items with
  | nil => exact ends_cons (by decide) rest
  | cons v items =>
    rw [Value.itemsBytes_cons, List.cons_append]
    exact ends_cons (by decide) _

theorem length_itemsBytes_pos (items : List Value) : 0 < (Value.itemsBytes items).length := by
  cases items with
  | nil => exact Nat.one_pos
  | cons v items =>
    rw [Value.itemsBytes_cons]
    exact Nat.succ_pos _

theorem ends_membersBytes (members : List (String × Value)) (rest : Bytes) :
    Ends (Value.membersBytes members ++ rest) := by
  cases members with
  | nil =>
    rw [Value.membersBytes_nil]
    exact ends_cons (by decide) rest
  | cons m members =>
    rw [Value.membersBytes_cons, List.cons_append]
    exact ends_cons (by decide) _

variable {α σ : Type}

/-- Items that can be read one by one are read up to the closing bracket. -/
theorem readItems_itemsBytes {item : (steps : Nat) → Bytes → Parsed α} {vs : List Value}
    {xs : List α} (h : List.Forall₂ (ReadsItem item) vs xs) :
    ∀ (steps : Nat) (rest : Bytes), (Value.itemsBytes vs).length < steps →
      readItems item steps false (Value.itemsBytes vs ++ rest) = .ok (xs, rest) := by
  induction h with
  | nil =>
    intro steps rest hsteps
    obtain ⟨steps, rfl⟩ : ∃ k, steps = k + 1 := ⟨steps - 1, by omega⟩
    rw [Value.itemsBytes_nil, List.singleton_append, readItems, skipBlanks_cons (by decide)]
    exact if_pos rfl
  | @cons v x vs xs hitem _ ih =>
    intro steps rest hsteps
    obtain ⟨steps, rfl⟩ : ∃ k, steps = k + 1 := ⟨steps - 1, by omega⟩
    obtain ⟨⟨b, bytes, hbytes, hblank, hclose, _⟩, hread⟩ := hitem
    -- An item takes one step, and one byte at least: its comma.
    rw [Value.itemsBytes_cons, List.length_cons, List.length_append] at hsteps
    have hx := hread steps (Value.itemsBytes vs ++ rest) (by omega) (ends_itemsBytes vs rest)
    rw [hbytes, List.cons_append] at hx
    rw [Value.itemsBytes_cons, hbytes, List.cons_append, List.cons_append, List.cons_append,
      List.append_assoc, readItems, skipBlanks_cons (by decide)]
    dsimp only
    rw [if_neg (by decide), if_neg Bool.false_ne_true, if_pos rfl, skipBlanks_cons hblank]
    dsimp only
    rw [if_neg hclose, hx]
    dsimp only
    rw [ih steps rest (by omega)]

/-- The items of a list are read from behind its opening bracket. -/
theorem readItems_array {item : (steps : Nat) → Bytes → Parsed α} {vs : List Value} {xs : List α}
    (h : List.Forall₂ (ReadsItem item) vs xs) {steps : Nat} (rest : Bytes)
    (hsteps : (Value.array vs).bytes.length ≤ steps) :
    readItems item steps true ((Value.array vs).bytes.tail ++ rest) = .ok (xs, rest) := by
  cases h with
  | nil =>
    have hsteps : 2 ≤ steps := hsteps
    obtain ⟨steps, rfl⟩ : ∃ k, steps = k + 1 := ⟨steps - 1, by omega⟩
    show readItems item (steps + 1) true (bracketClose :: rest) = _
    rw [readItems, skipBlanks_cons (by decide)]
    exact if_pos rfl
  | @cons v x vs xs hitem hrest =>
    obtain ⟨⟨b, bytes, hbytes, hblank, hclose, _⟩, hread⟩ := hitem
    have hpositive := length_itemsBytes_pos vs
    have hone : 0 < v.bytes.length := by
      rw [hbytes]
      exact Nat.succ_pos _
    rw [Value.bytes_array_cons, List.length_cons, List.length_append] at hsteps
    obtain ⟨steps, rfl⟩ : ∃ k, steps = k + 1 := ⟨steps - 1, by omega⟩
    have hx := hread steps (Value.itemsBytes vs ++ rest) (by omega) (ends_itemsBytes vs rest)
    rw [hbytes, List.cons_append] at hx
    rw [Value.bytes_array_cons, List.tail_cons, hbytes, List.append_assoc, List.cons_append,
      readItems, skipBlanks_cons hblank]
    dsimp only
    rw [if_neg hclose, if_pos rfl, hx]
    dsimp only
    rw [readItems_itemsBytes hrest steps rest (by omega)]

/-- A reader of members goes from one state through the members of an object to another one. -/
inductive ReadsMembers (member : (steps : Nat) → σ → String → Bytes → Parsed σ) :
    σ → List (String × Value) → σ → Prop where
  | nil (gathered : σ) : ReadsMembers member gathered [] gathered
  | cons {gathered next last : σ} {name : String} {v : Value} {members : List (String × Value)}
      (first : ∀ steps rest, v.bytes.length < steps → Ends rest →
        member steps gathered name (colon :: (v.bytes ++ rest)) = .ok (next, rest))
      (others : ReadsMembers member next members last) :
      ReadsMembers member gathered ((name, v) :: members) last

/-- Members that can be read one by one are read up to the closing brace. -/
theorem readMembers_membersBytes {member : (steps : Nat) → σ → String → Bytes → Parsed σ}
    {gathered last : σ} {members : List (String × Value)}
    (h : ReadsMembers member gathered members last) :
    ∀ (steps : Nat) (rest : Bytes), (Value.membersBytes members).length < steps →
      readMembers member steps false gathered (Value.membersBytes members ++ rest) =
        .ok (last, rest) := by
  induction h with
  | nil gathered =>
    intro steps rest hsteps
    obtain ⟨steps, rfl⟩ : ∃ k, steps = k + 1 := ⟨steps - 1, by omega⟩
    rw [Value.membersBytes_nil, List.singleton_append, readMembers, skipBlanks_cons (by decide)]
    exact if_pos rfl
  | @cons gathered next last name v members hfirst _ ih =>
    intro steps rest hsteps
    obtain ⟨steps, rfl⟩ : ∃ k, steps = k + 1 := ⟨steps - 1, by omega⟩
    rw [Value.membersBytes_cons] at hsteps
    simp only [List.length_cons, List.length_append] at hsteps
    have hv := hfirst steps (Value.membersBytes members ++ rest) (by omega)
      (ends_membersBytes members rest)
    rw [Value.membersBytes_cons, List.cons_append, List.cons_append, List.append_assoc,
      List.cons_append, List.append_assoc, readMembers, skipBlanks_cons (by decide)]
    dsimp only
    rw [if_neg (by decide), if_neg Bool.false_ne_true, if_pos rfl, skipBlanks_cons (by decide)]
    dsimp only
    rw [if_pos rfl, Value.literalBytes, scanString_literal]
    dsimp only
    rw [hv]
    dsimp only
    rw [ih steps rest (by omega)]

/-- The members of an object are read from behind its opening brace. -/
theorem readMembers_object {member : (steps : Nat) → σ → String → Bytes → Parsed σ}
    {gathered last : σ} {members : List (String × Value)}
    (h : ReadsMembers member gathered members last) {steps : Nat} (rest : Bytes)
    (hsteps : (Value.object members).bytes.length ≤ steps) :
    readMembers member steps true gathered ((Value.object members).bytes.tail ++ rest) =
      .ok (last, rest) := by
  cases h with
  | nil =>
    have hsteps : 2 ≤ steps := hsteps
    obtain ⟨steps, rfl⟩ : ∃ k, steps = k + 1 := ⟨steps - 1, by omega⟩
    show readMembers member (steps + 1) true gathered (braceClose :: rest) = _
    rw [readMembers, skipBlanks_cons (by decide)]
    exact if_pos rfl
  | @cons _ next _ name v members hfirst hrest =>
    rw [Value.bytes_object_cons] at hsteps
    simp only [List.length_cons, List.length_append] at hsteps
    obtain ⟨steps, rfl⟩ : ∃ k, steps = k + 1 := ⟨steps - 1, by omega⟩
    have hv := hfirst steps (Value.membersBytes members ++ rest) (by omega)
      (ends_membersBytes members rest)
    rw [Value.bytes_object_cons, List.tail_cons, List.cons_append, List.append_assoc,
      List.cons_append, List.append_assoc, readMembers, skipBlanks_cons (by decide)]
    dsimp only
    rw [if_neg (by decide), if_pos rfl, if_pos rfl, Value.literalBytes, scanString_literal]
    dsimp only
    rw [hv]
    dsimp only
    rw [readMembers_membersBytes hrest steps rest (by omega)]

end SchemaCatalog.Json
