/-
  `Punycode` — any text as letters, digits and hyphens.

  The ASCII characters of a text come first, then a hyphen, then the others in ascending order: for each of
  them, how far on it is from the one before, counted in places for a character times characters. Such
  a distance is written with digits to the base 36, the lowest one first; a digit below a threshold is
  the last one. The thresholds follow the distances, so that near ones take few digits.
-/
namespace SchemaCatalog.Http.Punycode

/-- The character of a digit. -/
def digitChar (d : Nat) : Char :=
  if d < 26 then Char.ofNat ('a'.toNat + d) else Char.ofNat ('0'.toNat + (d - 26))

/-- The value of a digit. -/
def digit? (c : Char) : Option Nat :=
  if 'a'.toNat ≤ c.toNat && c.toNat ≤ 'z'.toNat then some (c.toNat - 'a'.toNat)
  else if '0'.toNat ≤ c.toNat && c.toNat ≤ '9'.toNat then some (c.toNat - '0'.toNat + 26)
  else none

/-- The threshold of the digit at a place; places are counted in steps of 36, from 36 on. -/
def threshold (place bias : Nat) : Nat :=
  if place ≤ bias then 1 else if bias + 26 ≤ place then 26 else place - bias

theorem threshold_pos (place bias : Nat) : 1 ≤ threshold place bias := by
  unfold threshold; grind

/-- How often a distance has to be divided by 35 to be small, in steps of 36, and what is left of it. -/
def settle (distance steps : Nat) : Nat × Nat :=
  if 455 < distance then settle (distance / 35) (steps + 36) else (distance, steps)
termination_by distance
decreasing_by exact Nat.div_lt_self (by omega) (by omega)

/-- The bias after a distance, with `count` characters written; the first one counts less. -/
def adapt (distance count : Nat) (isFirst : Bool) : Nat :=
  let scaled := distance / (if isFirst then 700 else 2)
  let (rest, steps) := settle (scaled + scaled / count) 0
  steps + 36 * rest / (rest + 38)

/-! ### Writing -/

/-- The digits of a distance from a place on. -/
def digits (bias place distance : Nat) : List Char :=
  let t := threshold place bias
  if distance < t then [digitChar distance]
  else digitChar (t + (distance - t) % (36 - t)) :: digits bias (place + 36) ((distance - t) / (36 - t))
termination_by distance
decreasing_by
  have := threshold_pos place bias
  have := Nat.div_le_self (distance - threshold place bias) (36 - threshold place bias)
  omega

/-- What has been written of a text. -/
structure Writer where
  /-- The digits, last one first. -/
  output : List Char := []
  /-- How far the next character is from the last one. -/
  distance : Nat := 0
  bias : Nat := 72
  /-- How many characters are written. -/
  count : Nat

/-- Passes a character of the text, writing it if it is the one with code point `m`. -/
def Writer.pass (asciiCount m : Nat) (w : Writer) (c : Char) : Writer :=
  if c.toNat < m then { w with distance := w.distance + 1 }
  else if c.toNat = m then
    { output := (digits w.bias 36 w.distance).reverse ++ w.output
      distance := 0
      bias := adapt w.distance (w.count + 1) (w.count = asciiCount)
      count := w.count + 1 }
  else w

/-- Writes the characters with the code points `ms`, ascending and all at least `start`. -/
def Writer.run (text : List Char) (asciiCount : Nat) (start : Nat) (w : Writer) : List Nat → Writer
  | [] => w
  | m :: ms =>
    let moved := { w with distance := w.distance + (m - start) * (w.count + 1) }
    let written := text.foldl (Writer.pass asciiCount m) moved
    run text asciiCount (m + 1) { written with distance := written.distance + 1 } ms

/-- A text as letters, digits and hyphens. -/
def encode (text : List Char) : List Char :=
  let ascii := text.filter (·.toNat < 0x80)
  let others := ((text.map Char.toNat).filter (0x80 ≤ ·)).mergeSort.eraseDups
  ascii ++ (if ascii.isEmpty then [] else ['-']) ++
    (Writer.run text ascii.length 0x80 { count := ascii.length } others).output.reverse

/-! ### Reading -/

/-- What has been read of a text. -/
structure Reader where
  text : List Char
  /-- The code point to insert next, and the place for it. -/
  point : Nat := 0x80
  place : Nat := 0
  bias : Nat := 72
  /-- How many of them there have been. -/
  inserted : Nat := 0

/-- Inserts the next character, `distance` on from the last one. -/
def Reader.insert? (r : Reader) (distance : Nat) : Option Reader :=
  let count := r.text.length + 1
  let point := r.point + (r.place + distance) / count
  let place := (r.place + distance) % count
  if point < 0xD800 || (0xDFFF < point && point ≤ 0x10FFFF) then
    some {
      text := r.text.take place ++ Char.ofNat point :: r.text.drop place
      point := point
      place := place + 1
      bias := adapt distance count (r.inserted = 0)
      inserted := r.inserted + 1 }
  else none

/-- Reads digits on. `distance` is what those of the open number come to, the next of which is at `place`
and counts `weight` times. -/
def Reader.run (r : Reader) (distance weight place : Nat) : List Char → Option (List Char)
  | [] => if weight = 1 then some r.text else none
  | c :: cs =>
    match digit? c with
    | none => none
    | some d =>
      let t := threshold place r.bias
      if d < t then
        match r.insert? (distance + d * weight) with
        | none => none
        | some r => r.run 0 1 36 cs
      else r.run (distance + d * weight) (weight * (36 - t)) (place + 36) cs

/-- The text that letters, digits and hyphens stand for. The last hyphen cannot come first. -/
def decode? (cs : List Char) : Option (List Char) :=
  let back := cs.reverse
  let digits := (back.takeWhile (· != '-')).reverse
  let ascii := (back.drop (digits.length + 1)).reverse
  if ascii.isEmpty && digits.length < cs.length then none
  else Reader.run { text := ascii } 0 1 36 digits

end SchemaCatalog.Http.Punycode
