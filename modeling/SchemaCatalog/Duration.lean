/-
  `Duration` — a span of time in whole nanoseconds.

  `text` shows it in the largest of the units `s`, `ms`, `µs` and `ns` of which there is at least
  one, with the rest as a fraction without zeros at its end. `seconds` is its length as a
  floating-point number: whole seconds and fraction are rounded each, and then their sum.
-/
import SchemaCatalog.Binary64.Basic

namespace SchemaCatalog

/-- A span of time. -/
structure Duration where
  nanoseconds : Nat
deriving DecidableEq, Repr, Inhabited

namespace Duration

def ofMilliseconds (n : Nat) : Duration := ⟨n * 1000000⟩

def ofSeconds (n : Nat) : Duration := ⟨n * 1000000000⟩

instance : LE Duration := ⟨fun a b => a.nanoseconds ≤ b.nanoseconds⟩

instance (a b : Duration) : Decidable (a ≤ b) := Nat.decLe a.nanoseconds b.nanoseconds

/-- `n` in exactly `places` digits, without the zeros at their end. -/
def fractionDigits (places n : Nat) : List Char :=
  let digits := Nat.toDigits 10 n
  let padded := List.replicate (places - digits.length) '0' ++ digits
  (padded.reverse.dropWhile (· = '0')).reverse

/-- `n` units of `10 ^ -places` each, as a decimal number. -/
def decimal (places n : Nat) : String :=
  let whole := toString (n / Nat.pow 10 places)
  match fractionDigits places (n % Nat.pow 10 places) with
  | [] => whole
  | digits => whole ++ "." ++ String.ofList digits

/-- The span in its largest fitting unit. -/
def text (d : Duration) : String :=
  let n := d.nanoseconds
  if 1000000000 ≤ n then decimal 9 n ++ "s"
  else if 1000000 ≤ n then decimal 6 n ++ "ms"
  else if 1000 ≤ n then decimal 3 n ++ "µs"
  else toString n ++ "ns"

/-- The span in seconds. -/
def seconds (d : Duration) : Binary64 :=
  let whole := Binary64.ofNat (d.nanoseconds / 1000000000)
  let fraction := (Binary64.ofRatio false (d.nanoseconds % 1000000000) 1000000000).getD 0
  (whole.addMagnitudes fraction).getD 0

end Duration

end SchemaCatalog
