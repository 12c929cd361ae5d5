/-
  `Shortest` — the fewest decimal digits that read back as the same number.

  The reals that round to a value form an interval around it, whose ends belong to it when the
  significand is even. For one, two, … digits `shortest` tries the two neighbours of the value on
  the decimal grid of that many digits; the first grid with a neighbour in the interval wins, and of
  two such neighbours the nearer one. A `Layout` says how the digits are set out.
-/
import SchemaCatalog.Binary64.Basic

namespace SchemaCatalog.Binary64

/-- A decimal numeral `digits · 10 ^ exponent`. -/
structure Decimal where
  digits : Nat
  exponent : Int
deriving DecidableEq, Repr

/-- Whether `a / b · 10 ^ i` is at most `c / d · 10 ^ j`, for positive denominators. -/
def leScaled (a b : Nat) (i : Int) (c d : Nat) (j : Int) : Bool :=
  let tenTo (k : Int) : Nat := Nat.pow 10 k.toNat
  a * tenTo i * (d * tenTo (-j)) ≤ c * tenTo j * (b * tenTo (-i))

/-- The interval of the reals that round to a positive value, as twice the two ends' distance from
it: the ends are `(4m - below) / 4` and `(4m + 2) / 4` units in the last place. A power of two has
its lower neighbour at half the distance. -/
def gapBelow (x : Binary64) : Nat :=
  if x.significand = Nat.pow 2 52 && minExponent < x.exponent then 1 else 2

/-- Whether the decimal `d` reads back as the magnitude of `x`. -/
def readsBack (x : Binary64) (d : Decimal) : Bool :=
  let (up, down) := powerOfTwo (x.exponent - 2)
  let low := (4 * x.significand - x.gapBelow) * up
  let high := (4 * x.significand + 2) * up
  let atLeast (bound : Nat) : Bool := leScaled bound down 0 d.digits 1 d.exponent
  let atMost (bound : Nat) : Bool := leScaled d.digits 1 d.exponent bound down 0
  if x.significand % 2 = 0 then atLeast low && atMost high else !atMost low && !atLeast high

/-- The greatest `k` with `10 ^ k ≤ num / den`, looked for around a first estimate. -/
def decimalOrder (num den : Nat) : Int :=
  let estimate : Int := ((Nat.log2 num : Int) - (Nat.log2 den : Int)) * 30103 / 100000 + 2
  let rec descend : Nat → Int → Int
    | 0, k => k
    | steps + 1, k => if leScaled 1 1 k num den 0 then k else descend steps (k - 1)
  descend 8 estimate

/-- The neighbours of the magnitude of `x` on the grid of the multiples of `10 ^ e` that read back
as `x`, the nearer one first. -/
def gridCandidates (x : Binary64) (e : Int) : List Decimal :=
  let (num, den) := x.ratio
  let num := num * Nat.pow 10 (-e).toNat
  let den := den * Nat.pow 10 e.toNat
  let below := num / den
  let order : List Nat :=
    if 2 * (num % den) < den || (2 * (num % den) = den && below % 2 = 0) then [below, below + 1]
    else [below + 1, below]
  (order.map (⟨·, e⟩)).filter x.readsBack

/-- The shortest decimal that reads back as the magnitude of a value other than zero. Seventeen
digits always do. -/
def shortest (x : Binary64) : Decimal :=
  let (num, den) := x.ratio
  let k := decimalOrder num den
  ((List.range 17).findSome? fun (n : Nat) => (x.gridCandidates (k - n)).head?).getD ⟨0, 0⟩

/-- The same numeral without zeros at its end. -/
def Decimal.trim (d : Decimal) : Decimal :=
  let rec go : Nat → Nat → Int → Decimal
    | 0, n, e => ⟨n, e⟩
    | steps + 1, n, e => if n % 10 = 0 && n != 0 then go steps (n / 10) (e + 1) else ⟨n, e⟩
  go 20 d.digits d.exponent

/-- How a numeral is set out: written with a plain point when its first digit stands for a power of
ten from `plainFrom` to `plainTo`, otherwise with an exponent; `pointZero` says whether a plain
whole number ends in `.0`, `exponentPlus` whether a positive exponent has a sign. -/
structure Layout where
  plainFrom : Option Int
  plainTo : Option Int
  pointZero : Bool
  exponentPlus : Bool

/-- The digits of a numeral around a point that stands after `whole` of them. -/
def withPoint (layout : Layout) (digits : List Char) (whole : Int) : List Char :=
  let count : Int := digits.length
  if whole ≤ 0 then '0' :: '.' :: List.replicate (-whole).toNat '0' ++ digits
  else if whole < count then
    digits.take whole.toNat ++ '.' :: digits.drop whole.toNat
  else
    digits ++ List.replicate (whole - count).toNat '0' ++ if layout.pointZero then ['.', '0'] else []

/-- The text of a numeral whose first digit is not zero. -/
def Decimal.set (layout : Layout) (d : Decimal) : List Char :=
  let digits := Nat.toDigits 10 d.digits
  let order : Int := d.exponent + digits.length - 1
  let plain := layout.plainFrom.all (· ≤ order) && layout.plainTo.all (order ≤ ·)
  if plain then withPoint layout digits (order + 1)
  else
    let mantissa := match digits with
      | [] => []
      | [c] => [c]
      | c :: more => c :: '.' :: more
    let sign := if order < 0 then ['-'] else if layout.exponentPlus then ['+'] else []
    mantissa ++ 'e' :: sign ++ Nat.toDigits 10 order.natAbs

/-- The text of a value in the fewest digits that read back. -/
def text (layout : Layout) (x : Binary64) : List Char :=
  let sign := if x.negative then ['-'] else []
  if x.isZero then sign ++ '0' :: if layout.pointZero then ['.', '0'] else []
  else sign ++ x.shortest.trim.set layout

end SchemaCatalog.Binary64
