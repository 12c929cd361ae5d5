/-
  `Number` — the numbers of a document.

  An integer literal that fits 64 bits, signed or unsigned, stays an integer. Anything else is a
  floating-point number, `-0` included. `Number.ofParts` is the value that a literal with a fraction
  or an exponent stands for: its digits are gathered into an integer below `2 ^ 64`, those that no
  longer fit are dropped, and the integer is scaled by powers of ten up to `10 ^ 308` with a
  rounding at each step.
-/
import SchemaCatalog.Binary64.Shortest

namespace SchemaCatalog.Json

/-- A number of a document. -/
inductive Number where
  | integer (value : Int)
  | double (value : Binary64)
deriving DecidableEq, Repr, Inhabited

namespace Number

/-- The integers that stay integers. -/
def minInteger : Int := -0x8000000000000000

/-- The largest integer that stays one. -/
def maxInteger : Int := 0xFFFFFFFFFFFFFFFF

/-- Floating-point numbers from `0.00001` to below `1e+16` have a plain point, the others an
exponent with its sign; a whole number ends in `.0`. -/
def layout : Binary64.Layout := ⟨some (-5), some 15, true, true⟩

/-- The digits of an integer, after a minus sign if it is negative. -/
def integerChars : Int → List Char
  | .ofNat n => Nat.toDigits 10 n
  | .negSucc n => '-' :: Nat.toDigits 10 (n + 1)

/-- The literal of a number. -/
def chars : Number → List Char
  | .integer n => integerChars n
  | .double x => x.text layout

/-- `significand · 10 ^ exponent` for a value already scaled to `x`: powers of ten beyond `10 ^ 308`
are taken in steps of that size. `none` when the number is too large. -/
def scale (x : Binary64) (exponent : Int) : Option Binary64 :=
  if x.isZero then some x
  else if 308 < exponent then none
  else if 0 ≤ exponent then x.mul (Binary64.powerOfTen exponent.toNat)
  else
    let rec descend : Nat → Binary64 → Nat → Option Binary64
      | 0, x, e => x.div (Binary64.powerOfTen e)
      | steps + 1, x, e =>
        if e ≤ 308 then x.div (Binary64.powerOfTen e)
        else
          match x.div (Binary64.powerOfTen 308) with
          | none => none
          | some y => if y.isZero then some y else descend steps y (e - 308)
    -- a value that is not yet zero after three steps does not exist
    descend 3 x exponent.natAbs

/-- The number of a literal with the digits `significand`, a power of ten and a sign. -/
def ofParts (negative : Bool) (significand : Nat) (exponent : Int) : Option Number :=
  (scale (Binary64.ofNat significand) exponent).map fun x => .double { x with negative }

/-- The number of a literal without fraction and exponent, for digits that stayed below `2 ^ 64`. -/
def ofDigits (negative : Bool) (significand : Nat) : Number :=
  if !negative then .integer significand
  else if 0 < significand && significand ≤ Nat.pow 2 63 then .integer (-significand)
  else .double { Binary64.ofNat significand with negative := true }

end Number

end SchemaCatalog.Json
