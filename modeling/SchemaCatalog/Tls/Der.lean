/-
  `Der` — values behind tags and lengths.

  Every value is written in one way only: a byte for its tag, its length in as few bytes as can be, and
  its content. Contents of structured values are such values one after the other. A reader takes the
  bytes that are left and gives what it read with the bytes after it.
-/
import SchemaCatalog.Text.Utf8

namespace SchemaCatalog.Tls.Der

def boolean : UInt8 := 0x01
def integer : UInt8 := 0x02
def bitString : UInt8 := 0x03
def octetString : UInt8 := 0x04
def null : UInt8 := 0x05
def objectId : UInt8 := 0x06
def sequence : UInt8 := 0x30

/-- The tag of the `n`th part of a structure, where its place does not tell which one it is. -/
def part (n : UInt8) : UInt8 := 0xA0 + n

/-- The number that bytes stand for, the highest first. -/
def natural (bytes : Bytes) : Nat := bytes.foldl (fun n b => n * 256 + b.toNat) 0

/-- A length: a byte below 128, or the number of the bytes that follow and those. -/
def length? : Bytes → Option (Nat × Bytes)
  | [] => none
  | b :: rest =>
    if b < 0x80 then some (b.toNat, rest)
    else
      let count := b.toNat - 0x80
      let value := natural (rest.take count)
      let least := if count = 1 then 0x80 else Nat.pow 256 (count - 1)
      if 1 ≤ count && count ≤ 4 && count ≤ rest.length && least ≤ value then
        some (value, rest.drop count)
      else none

/-- The content of the value with a tag that comes first. -/
def expect? (tag : UInt8) : Bytes → Option (Bytes × Bytes)
  | [] => none
  | b :: rest =>
    if b = tag then
      match length? rest with
      | none => none
      | some (n, rest) => if n ≤ rest.length then some (rest.take n, rest.drop n) else none
    else none

/-- The content of a value with a tag that is all there is. -/
def only? (tag : UInt8) (bytes : Bytes) : Option Bytes :=
  match expect? tag bytes with
  | some (content, []) => some content
  | _ => none

/-- Whether a value with a tag comes first. -/
def startsWith (tag : UInt8) (bytes : Bytes) : Bool := bytes.head? = some tag

/-- A number that is not negative, without needless zeros. -/
def natural? (bytes : Bytes) : Option (Nat × Bytes) :=
  match expect? integer bytes with
  | none => none
  | some (content, rest) =>
    match content with
    | [] => none
    | [b] => if b < 0x80 then some (b.toNat, rest) else none
    | 0 :: b :: _ => if 0x80 ≤ b then some (natural content, rest) else none
    | b :: _ => if b < 0x80 then some (natural content, rest) else none

/-- The bytes of a string of bits that fills them, given its content. -/
def wholeBytes? : Bytes → Option Bytes
  | 0 :: bytes => some bytes
  | _ => none

/-- The bytes that stand for a number, `size` of them, the highest first. -/
def bytesOfSize (size n : Nat) : Bytes :=
  (List.range size).reverse.map fun i => UInt8.ofNat (n / Nat.pow 256 i % 256)

/-- The bytes that stand for a number, as few as can be. -/
def bytesOf (n : Nat) : Bytes := bytesOfSize (n.log2 / 8 + 1) n

/-- A length as it is written. -/
def lengthBytes (n : Nat) : Bytes :=
  if n < 0x80 then [UInt8.ofNat n]
  else
    let bytes := bytesOf n
    UInt8.ofNat (0x80 + bytes.length) :: bytes

/-- A value as it is written. -/
def value (tag : UInt8) (content : Bytes) : Bytes := tag :: lengthBytes content.length ++ content

/-- A number as it is written. -/
def naturalValue (n : Nat) : Bytes :=
  let bytes := bytesOf n
  value integer (if bytes.headD 0 < 0x80 then bytes else 0 :: bytes)

end SchemaCatalog.Tls.Der
