/-
  `Utf8` — text as bytes and back.

  `encode` lays out each character in one to four bytes. `split` reads characters as far as it can
  and accepts exactly their shortest forms: no stray or missing continuation byte, no overlong form,
  no surrogate and nothing beyond U+10FFFF. `decode` reads the whole.
-/
namespace SchemaCatalog

/-- Raw bytes, first byte first. -/
abbrev Bytes := List UInt8

namespace Utf8

/-- The bytes of a list of characters. -/
def encodeChars (cs : List Char) : Bytes := cs.flatMap String.utf8EncodeChar

/-- The bytes of a text. -/
def encode (s : String) : Bytes := encodeChars s.toList

/-- Whether `b` continues a character that an earlier byte began. -/
def isContinuation (b : UInt8) : Bool := 0x80 ≤ b && b ≤ 0xBF

/-- The character that two bytes spell. -/
def ofTwo? (a b : UInt8) : Option Char :=
  if 0xC2 ≤ a && a ≤ 0xDF && isContinuation b then
    some (Char.ofNat ((a.toNat - 0xC0) * 64 + (b.toNat - 0x80)))
  else none

/-- The character that three bytes spell. -/
def ofThree? (a b c : UInt8) : Option Char :=
  let n := (a.toNat - 0xE0) * 4096 + (b.toNat - 0x80) * 64 + (c.toNat - 0x80)
  if 0xE0 ≤ a && a ≤ 0xEF && isContinuation b && isContinuation c && 0x800 ≤ n &&
      !(0xD800 ≤ n && n ≤ 0xDFFF) then
    some (Char.ofNat n)
  else none

/-- The character that four bytes spell. -/
def ofFour? (a b c d : UInt8) : Option Char :=
  let n := (a.toNat - 0xF0) * 262144 + (b.toNat - 0x80) * 4096 + (c.toNat - 0x80) * 64 +
    (d.toNat - 0x80)
  if 0xF0 ≤ a && a ≤ 0xF4 && isContinuation b && isContinuation c && isContinuation d &&
      0x10000 ≤ n && n ≤ 0x10FFFF then
    some (Char.ofNat n)
  else none

/-- Reads on after the characters `read`, latest first: all characters up to the first bytes that are
none, and those bytes with all that follow. -/
def splitFrom (read : List Char) : Bytes → List Char × Bytes
  | [] => (read.reverse, [])
  | a :: rest =>
    if a < 0x80 then splitFrom (Char.ofNat a.toNat :: read) rest
    else if a < 0xE0 then
      match rest with
      | b :: after =>
        match ofTwo? a b with
        | some c => splitFrom (c :: read) after
        | none => (read.reverse, a :: rest)
      | [] => (read.reverse, a :: rest)
    else if a < 0xF0 then
      match rest with
      | b :: c :: after =>
        match ofThree? a b c with
        | some c => splitFrom (c :: read) after
        | none => (read.reverse, a :: rest)
      | _ => (read.reverse, a :: rest)
    else
      match rest with
      | b :: c :: d :: after =>
        match ofFour? a b c d with
        | some c => splitFrom (c :: read) after
        | none => (read.reverse, a :: rest)
      | _ => (read.reverse, a :: rest)

/-- The characters at the start of `bytes`, and the bytes from the first that are none. -/
def split (bytes : Bytes) : List Char × Bytes := splitFrom [] bytes

theorem length_splitFrom_le (read : List Char) (bytes : Bytes) :
    (splitFrom read bytes).2.length ≤ bytes.length := by
  fun_induction splitFrom read bytes <;> simp_all <;> omega

theorem length_split_le (bytes : Bytes) : (split bytes).2.length ≤ bytes.length :=
  length_splitFrom_le [] bytes

/-- The text that `bytes` spell, if they are well formed. -/
def decode (bytes : Bytes) : Option String :=
  match split bytes with
  | (cs, []) => some (String.ofList cs)
  | _ => none

/-- Whether `b` can follow `a` at the start of a character of three or four bytes. -/
def continues (a b : UInt8) : Bool :=
  isContinuation b &&
    if a == 0xE0 then 0xA0 ≤ b
    else if a == 0xED then b ≤ 0x9F
    else if a == 0xF0 then 0x90 ≤ b
    else if a == 0xF4 then b ≤ 0x8F
    else 0xE0 ≤ a && a ≤ 0xF4

/-- How many bytes at the start of `rest`, which comes after `a`, belong to the same broken character:
those with which a character could go on. -/
def brokenTail (a : UInt8) (rest : Bytes) : Nat :=
  match rest with
  | [] => 0
  | b :: rest =>
    if !continues a b then 0
    else match rest with
      | c :: _ => if 0xF0 ≤ a && isContinuation c then 2 else 1
      | [] => 1

/-- The characters that `bytes` spell, each broken one replaced by U+FFFD. -/
def decodeLossyChars (bytes : Bytes) : List Char :=
  match h : split bytes with
  | (cs, []) => cs
  | (cs, a :: rest) =>
    have : rest.length < bytes.length := by
      have shorter := length_split_le bytes
      rw [h] at shorter
      exact shorter
    cs ++ '\uFFFD' :: decodeLossyChars (rest.drop (brokenTail a rest))
termination_by bytes.length

/-- The text that `bytes` spell, each broken character replaced by U+FFFD. -/
def decodeLossy (bytes : Bytes) : String := String.ofList (decodeLossyChars bytes)

end Utf8

end SchemaCatalog
