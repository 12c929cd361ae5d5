/-
  `Key` — the keys that a server signs with.

  A key comes in one of three forms, which its first values tell apart. It can be a number with a curve,
  a number with its factors, or 32 bytes for the twisted curve of 255 bits. What it says about its public
  key has to be true.
-/
import SchemaCatalog.Tls.Curve

namespace SchemaCatalog.Tls

/-- What the values of a key are. -/
inductive KeyForm where
  /-- The kind of the key, and the key itself inside. -/
  | anyKind
  /-- A number with its factors. -/
  | factors
  /-- A number and a point. -/
  | point
deriving DecidableEq, Repr

/-- A key that can be used. -/
inductive Key where
  /-- A multiple of the base point of a curve. -/
  | curve (c : Curve) (publicPoint : Nat × Nat)
  /-- A product of two primes with an exponent. -/
  | factors (modulus exponent : Nat)
  /-- 32 bytes for the twisted curve. -/
  | twisted (secret : Bytes)
deriving DecidableEq, Repr

namespace KeyForm

/-- The bytes behind the tag and the length of a value. -/
def inside? : Bytes → Option Bytes
  | tag :: length :: rest =>
    let skipped := if length < 0x80 then 0 else length.toNat - 0x80
    if tag = Der.sequence && skipped ≤ rest.length then some (rest.drop skipped) else none
  | _ => none

/-- The form of a key, as its first values tell it. -/
def of? (key : Bytes) : Option KeyForm :=
  match inside? key with
  | some (0x02 :: 0x01 :: version :: rest) =>
    if rest.head? = some Der.sequence then some anyKind
    else if version = 0 then some factors
    else if version = 1 then some point
    else none
  | _ => none

end KeyForm

namespace Key

/-! ### Kinds of keys -/

/-- The name of keys that are points of a curve. -/
def curveId : Bytes := [0x2A, 0x86, 0x48, 0xCE, 0x3D, 0x02, 0x01]

/-- The name of keys that are products of primes. -/
def factorsId : Bytes := [0x2A, 0x86, 0x48, 0x86, 0xF7, 0x0D, 0x01, 0x01, 0x01]

/-- The name of keys for the twisted curve. -/
def twistedId : Bytes := [0x2B, 0x65, 0x70]

/-- The kind of keys on a curve, as it is written. -/
def curveKind (c : Curve) : Bytes := Der.value Der.objectId curveId ++ Der.value Der.objectId c.id

/-- The kind of keys that are products of primes, as it is written. -/
def factorsKind : Bytes := Der.value Der.objectId factorsId ++ Der.value Der.null []

/-- The kind of keys for the twisted curve, as it is written. -/
def twistedKind : Bytes := Der.value Der.objectId twistedId

/-! ### Reading -/

/-- The bytes after the curve that a point key may name, which has to be `c`. -/
def skipCurve? (c : Curve) (bytes : Bytes) : Option Bytes :=
  if Der.startsWith (Der.part 0) bytes then
    match Der.expect? (Der.part 0) bytes with
    | some (name, rest) => if name = Der.value Der.objectId c.id then some rest else none
    | none => none
  else some bytes

/-- Whether what is left of a point key is nothing, or its public key as it has to be. -/
def endsWithPoint (c : Curve) (publicPoint : Nat × Nat) (bytes : Bytes) : Bool :=
  bytes.isEmpty ||
    match ((Der.only? (Der.part 1) bytes).bind (Der.only? Der.bitString)).bind Der.wholeBytes? with
    | none => false
    | some point => point == c.pointBytes publicPoint || point == c.shortPointBytes publicPoint

/-- A point key of a curve. -/
def ofPoint? (c : Curve) (key : Bytes) : Option Key := do
  let (version, bytes) ← Der.natural? (← Der.only? Der.sequence key)
  let (secret, bytes) ← Der.expect? Der.octetString bytes
  let bytes ← skipCurve? c bytes
  let secret := Der.natural secret
  if version ≠ 1 || c.order ≤ secret then none
  let publicPoint ← c.multiple secret
  if endsWithPoint c publicPoint bytes then return .curve c publicPoint else none

/-- Some numbers, one after the other, and no more. -/
def naturals? : (count : Nat) → Bytes → Option (List Nat)
  | 0, bytes => if bytes.isEmpty then some [] else none
  | count + 1, bytes =>
    match Der.natural? bytes with
    | none => none
    | some (n, rest) => (naturals? count rest).map (n :: ·)

/-- Whether a modulus is of a size that is used, in bits. -/
def isModulusSize (modulus : Nat) : Bool := Nat.pow 2 2047 ≤ modulus && modulus < Nat.pow 2 8192

/-- A key from its factors. All its numbers have to belong together. -/
def ofFactors? (key : Bytes) : Option Key := do
  let numbers ← naturals? 9 (← Der.only? Der.sequence key)
  match numbers with
  | [version, n, e, d, p, q, dp, dq, inverse] =>
    let fits := version = 0 && isModulusSize n && e % 2 = 1 && 1 < e && e < Nat.pow 2 33 &&
      n = p * q && d * e % (p - 1) = 1 && d * e % (q - 1) = 1 &&
      dp = d % (p - 1) && dq = d % (q - 1) && inverse < p && inverse * q % p = 1
    if fits then return .factors n e else none
  | _ => none

/-- A key that says of which kind it is. What follows the key itself does not count. -/
def ofAnyKind? (key : Bytes) : Option Key := do
  let (content, _) ← Der.expect? Der.sequence key
  let (version, bytes) ← Der.natural? content
  let (kind, bytes) ← Der.expect? Der.sequence bytes
  let (inner, _) ← Der.expect? Der.octetString bytes
  if 1 < version then none
  if kind = factorsKind then ofFactors? inner
  else if kind = twistedKind then
    let secret ← Der.only? Der.octetString inner
    if secret.length = 32 then return .twisted secret else none
  else
    let c ← Curve.all.find? fun c => kind = curveKind c
    ofPoint? c inner

/-- The key in a form, if it can be used. -/
def ofForm? : KeyForm → Bytes → Option Key
  | .anyKind, key => ofAnyKind? key
  | .factors, key => ofFactors? key
  | .point, key => Curve.all.findSome? (ofPoint? · key)

/-! ### The public key -/

/-- What a certificate says about the public key of a key: its kind and the key itself. For the twisted
curve it is not worked out. -/
def publicInfo? : Key → Option Bytes
  | curve c publicPoint =>
    some (Der.value Der.sequence (curveKind c) ++
      Der.value Der.bitString (0 :: c.pointBytes publicPoint))
  | factors modulus exponent =>
    some (Der.value Der.sequence factorsKind ++
      Der.value Der.bitString (0 :: Der.value Der.sequence
        (Der.naturalValue modulus ++ Der.naturalValue exponent)))
  | twisted _ => none

end Key

end SchemaCatalog.Tls
