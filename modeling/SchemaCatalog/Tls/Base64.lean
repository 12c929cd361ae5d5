/-
  `Base64` — bytes written with sixty-four characters.

  Four characters stand for three bytes. Blanks between them do not count. The last characters may be
  three or two, with or without equals signs that fill up the four. Characters are looked at in groups
  of eight, so that a misplaced equals sign shows when its group is full or the text ends.
-/
import SchemaCatalog.Text.Utf8

namespace SchemaCatalog.Tls.Base64

/-- Why a text does not stand for bytes. -/
inductive Fault where
  /-- A byte that is no character of the notation. -/
  | invalidCharacter (b : UInt8)
  /-- An equals sign before the last characters. -/
  | prematurePadding
  /-- Last characters that are too few, or filled up wrongly. -/
  | invalidTrailingPadding
deriving DecidableEq, Repr

/-- The name of a fault. -/
def Fault.message : Fault → String
  | invalidCharacter b => "InvalidCharacter(" ++ toString b.toNat ++ ")"
  | prematurePadding => "PrematurePadding"
  | invalidTrailingPadding => "InvalidTrailingPadding"

/-- Space, tab and the controls that end lines and pages. -/
def isBlank (b : UInt8) : Bool := (0x09 ≤ b && b ≤ 0x0D) || b == 0x20

/-- The six bits that a character stands for. -/
def value? (b : UInt8) : Option Nat :=
  if 0x41 ≤ b && b ≤ 0x5A then some (b.toNat - 0x41)
  else if 0x61 ≤ b && b ≤ 0x7A then some (b.toNat - 0x61 + 26)
  else if 0x30 ≤ b && b ≤ 0x39 then some (b.toNat - 0x30 + 52)
  else if b == 0x2B then some 62
  else if b == 0x2F then some 63
  else none

/-- A character: six bits, or an equals sign, which has none; `none` for any other byte. -/
def item? (b : UInt8) : Option (Option Nat) :=
  if b == 0x3D then some none else (value? b).map some

/-- The bits of a full group that more characters follow. -/
def fullGroup (group : List (Option Nat)) : Except Fault (List Nat) :=
  if group.contains none then .error .prematurePadding else .ok (group.filterMap id)

/-- The bits of the last group, of at most eight characters. -/
def lastGroup (group : List (Option Nat)) : Except Fault (List Nat) :=
  let early := group.take (group.length - 4)
  let pads := (group.reverse.takeWhile (· == none)).length
  if early.contains none then .error .prematurePadding
  else if (group.take (group.length - pads)).contains none then .error .invalidTrailingPadding
  else if (group.length % 4 = 0 && pads ≤ 2) || (2 ≤ group.length % 4 && pads = 0) then
    .ok (group.filterMap id)
  else .error .invalidTrailingPadding

/-- The bits of a text, six by six. `read` are those of the groups before, `group` the characters of the
open one, both latest first. -/
def gather (read : List Nat) (group : List (Option Nat)) : Bytes → Except Fault (List Nat)
  | [] => (lastGroup group.reverse).map (read.reverse ++ ·)
  | b :: rest =>
    if isBlank b then gather read group rest
    else match item? b with
      | none => .error (.invalidCharacter b)
      | some item =>
        if group.length < 8 then gather read (item :: group) rest
        else match fullGroup group with
          | .error fault => .error fault
          | .ok values => gather (values ++ read) [item] rest

/-- The bytes that six-bit values make up; bits that are left over do not count. -/
def bytesOf : List Nat → Bytes
  | a :: b :: c :: d :: rest =>
    UInt8.ofNat (a * 4 + b / 16) :: UInt8.ofNat (b % 16 * 16 + c / 4) ::
      UInt8.ofNat (c % 4 * 64 + d) :: bytesOf rest
  | [a, b, c] => [UInt8.ofNat (a * 4 + b / 16), UInt8.ofNat (b % 16 * 16 + c / 4)]
  | [a, b] => [UInt8.ofNat (a * 4 + b / 16)]
  | _ => []

/-- The bytes that a text stands for. -/
def decode (text : Bytes) : Except Fault Bytes := (gather [] [] text).map bytesOf

end SchemaCatalog.Tls.Base64
