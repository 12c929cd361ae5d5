/-
  `Curve` — the curves that keys are points of.

  A curve has the points `(x, y)` with `y² = x³ - 3 x + b` modulo a prime, and one point at infinity. A
  private key is a number below the order of the base point, and its public key is that multiple of it.
-/
import SchemaCatalog.Tls.Der

namespace SchemaCatalog.Tls

/-- A curve with its base point. -/
structure Curve where
  /-- The name of the curve among objects. -/
  id : Bytes
  /-- How many bytes a coordinate takes. -/
  size : Nat
  prime : Nat
  /-- The order of the base point. -/
  order : Nat
  base : Nat × Nat
deriving DecidableEq, Repr

namespace Curve

/-- A power modulo `m`. -/
def powerMod (m x exponent : Nat) : Nat :=
  ((List.range (exponent.log2 + 1)).reverse.map exponent.testBit).foldl
    (fun y bit => if bit then y * y % m * x % m else y * y % m) 1

/-- The inverse of a number modulo the prime of a curve. -/
def inverse (c : Curve) (x : Nat) : Nat := powerMod c.prime x (c.prime - 2)

/-- The difference of two numbers modulo the prime of a curve. -/
def minus (c : Curve) (x y : Nat) : Nat := (x + (c.prime - y % c.prime)) % c.prime

/-- The third point on a line with a slope, on the other side, given the first point and the place of the
second one. -/
def third (c : Curve) (slope : Nat) (p : Nat × Nat) (x : Nat) : Nat × Nat :=
  let x3 := c.minus (slope * slope) (p.1 + x)
  (x3, c.minus (slope * c.minus p.1 x3) p.2)

/-- The sum of two points; `none` is the point at infinity. -/
def add (c : Curve) : Option (Nat × Nat) → Option (Nat × Nat) → Option (Nat × Nat)
  | none, q => q
  | p, none => p
  | some p, some q =>
    if p.1 = q.1 then
      if (p.2 + q.2) % c.prime = 0 then none
      else some (c.third (3 * c.minus (p.1 * p.1) 1 * c.inverse (2 * p.2) % c.prime) p q.1)
    else some (c.third (c.minus q.2 p.2 * c.inverse (c.minus q.1 p.1) % c.prime) p q.1)

/-- A multiple of the base point. -/
def multiple (c : Curve) (n : Nat) : Option (Nat × Nat) :=
  ((List.range (n.log2 + 1)).reverse.map n.testBit).foldl
    (fun p bit => if bit then c.add (c.add p p) (some c.base) else c.add p p) none

/-- A point as bytes: both coordinates. -/
def pointBytes (c : Curve) (p : Nat × Nat) : Bytes :=
  4 :: Der.bytesOfSize c.size p.1 ++ Der.bytesOfSize c.size p.2

/-- A point as bytes: one coordinate, and which of the two points with it. -/
def shortPointBytes (c : Curve) (p : Nat × Nat) : Bytes :=
  (if p.2 % 2 = 0 then 2 else 3) :: Der.bytesOfSize c.size p.1

/-- The curve of 256 bits. -/
def p256 : Curve where
  id := [0x2A, 0x86, 0x48, 0xCE, 0x3D, 0x03, 0x01, 0x07]
  size := 32
  prime := Nat.pow 2 256 - Nat.pow 2 224 + Nat.pow 2 192 + Nat.pow 2 96 - 1
  order := Nat.pow 2 256 - 0xFFFFFFFF00000000000000004319055258E8617B0C46353D039CDAAF
  base :=
    (0x6B17D1F2E12C4247F8BCE6E563A440F277037D812DEB33A0F4A13945D898C296,
      0x4FE342E2FE1A7F9B8EE7EB4A7C0F9E162BCE33576B315ECECBB6406837BF51F5)

/-- The curve of 384 bits. -/
def p384 : Curve where
  id := [0x2B, 0x81, 0x04, 0x00, 0x22]
  size := 48
  prime := Nat.pow 2 384 - Nat.pow 2 128 - Nat.pow 2 96 + Nat.pow 2 32 - 1
  order := Nat.pow 2 384 - 0x389CB27E0BC8D220A7E5F24DB74F58851313E695333AD68D
  base :=
    (0xAA87CA22BE8B05378EB1C71EF320AD74 * Nat.pow 2 256 +
      0x6E1D3B628BA79B9859F741E082542A385502F25DBF55296C3A545E3872760AB7,
      0x3617DE4A96262C6F5D9E98BF9292DC29 * Nat.pow 2 256 +
      0xF8F41DBD289A147CE9DA3113B5F0B8C00A60B1CE1D7E819D7A431D7C90EA0E5F)

/-- The curve of 521 bits. -/
def p521 : Curve where
  id := [0x2B, 0x81, 0x04, 0x00, 0x23]
  size := 66
  prime := Nat.pow 2 521 - 1
  order := Nat.pow 2 521 - 0x5AE79787C40D069948033FEB708F65A2FC44A36477663B851449048E16EC79BF7
  base :=
    (0xC6858E06B70404E9CD9E3ECB662395B4429C648139053FB521F828AF606B4D3DBA * Nat.pow 2 256 +
      0xA14B5E77EFE75928FE1DC127A2FFA8DE3348B3C1856A429BF97E7E31C2E5BD66,
      0x11839296A789A3BC0045C8A5FB42C7D1BD998F54449579B446817AFBD17273E662C * Nat.pow 2 256 +
      0x97EE72995EF42640C550B9013FAD0761353C7086A272C24088BE94769FD16650)

/-- The curves that keys can be on. -/
def all : List Curve := [p256, p384, p521]

end Curve

end SchemaCatalog.Tls
