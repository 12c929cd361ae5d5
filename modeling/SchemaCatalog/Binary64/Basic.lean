/-
  `Binary64` — the finite floating-point numbers of 53 significant bits, exactly.

  A value is `± significand · 2 ^ exponent` over the naturals, so every operation below is exact
  arithmetic followed by one rounding: `ofRatio` takes a quotient of naturals to the nearest value,
  a tie to the even significand. Sums, products and quotients of values are quotients of naturals,
  hence correctly rounded. A result beyond the largest finite value is `none`.
-/
namespace SchemaCatalog

/-- A finite floating-point number, `± significand · 2 ^ exponent`. -/
structure Binary64 where
  negative : Bool
  significand : Nat
  exponent : Int
deriving DecidableEq, Repr, Inhabited

namespace Binary64

/-- The exponent of the subnormal numbers, the least there is. -/
def minExponent : Int := -1074

/-- The exponent of the largest numbers. -/
def maxExponent : Int := 971

/-- Zero, with its sign. -/
def zero (negative : Bool) : Binary64 := ⟨negative, 0, minExponent⟩

instance : Zero Binary64 := ⟨zero false⟩

def isZero (x : Binary64) : Bool := x.significand == 0

/-- `2 ^ e` as the numerator and denominator of a quotient of naturals. -/
def powerOfTwo (e : Int) : Nat × Nat := (Nat.pow 2 e.toNat, Nat.pow 2 (-e).toNat)

/-- `num / den`, rounded to the nearest natural; a tie goes to the even one. -/
def roundToEven (num den : Nat) : Nat :=
  let q := num / den
  let r := num % den
  if 2 * r < den then q
  else if den < 2 * r then q + 1
  else if q % 2 = 0 then q else q + 1

/-- The exponent at which `num / den` has 53 significant bits, `minExponent` if that is less. -/
def exponentOf (num den : Nat) : Int :=
  let e : Int := (Nat.log2 num : Int) - (Nat.log2 den : Int) - 52
  -- `num / den` lies between `2 ^ (51 + e)` and `2 ^ (53 + e)`: one bit may be missing
  let (up, down) := powerOfTwo e
  let e := if num * down < Nat.pow 2 52 * (den * up) then e - 1 else e
  if e < minExponent then minExponent else e

/-- The value nearest to `num / den`, with the sign `negative`; `none` beyond the finite values. -/
def ofRatio (negative : Bool) (num den : Nat) : Option Binary64 :=
  if num = 0 then some (zero negative)
  else
    let e := exponentOf num den
    let (up, down) := powerOfTwo e
    let m := roundToEven (num * down) (den * up)
    let (m, e) := if m = Nat.pow 2 53 then (Nat.pow 2 52, e + 1) else (m, e)
    if maxExponent < e then none else some ⟨negative, m, e⟩

/-- The value nearest to a natural number below `2 ^ 1024`. -/
def ofNat (n : Nat) : Binary64 := (ofRatio false n 1).getD 0

/-- The magnitude of `x` as a quotient of naturals. -/
def ratio (x : Binary64) : Nat × Nat :=
  let (up, down) := powerOfTwo x.exponent
  (x.significand * up, down)

/-- The rounded product. -/
def mul (x y : Binary64) : Option Binary64 :=
  let (a, b) := x.ratio
  let (c, d) := y.ratio
  ofRatio (x.negative != y.negative) (a * c) (b * d)

/-- The rounded quotient by a `y` that is not zero. -/
def div (x y : Binary64) : Option Binary64 :=
  let (a, b) := x.ratio
  let (c, d) := y.ratio
  ofRatio (x.negative != y.negative) (a * d) (b * c)

/-- The rounded sum of two magnitudes. -/
def addMagnitudes (x y : Binary64) : Option Binary64 :=
  let (a, b) := x.ratio
  let (c, d) := y.ratio
  ofRatio false (a * d + c * b) (b * d)

/-- Whether the magnitude of `x` is at most that of `y`. -/
def leMagnitude (x y : Binary64) : Bool :=
  let (a, b) := x.ratio
  let (c, d) := y.ratio
  a * d ≤ c * b

/-- `10 ^ k`, rounded. -/
def powerOfTen (k : Nat) : Binary64 := ofNat (Nat.pow 10 k)

example : ofNat 1 = ⟨false, Nat.pow 2 52, -52⟩ := by decide
example : ofNat (Nat.pow 2 53 + 1) = ofNat (Nat.pow 2 53) := by decide
example : ofRatio true 1 3 = some ⟨true, 6004799503160661, -54⟩ := by decide

end Binary64

end SchemaCatalog
