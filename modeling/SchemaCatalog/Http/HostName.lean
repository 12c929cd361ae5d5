/-
  `HostName` — the names of hosts in any script.

  A name is a row of labels with points between them. Case and form of its characters do not count, nor
  do characters that show nothing. A label beyond ASCII is written as `xn--` and its `Punycode`; one that
  is written so has to stand for such a label.
-/
import SchemaCatalog.Http.Punycode
import SchemaCatalog.Text.CompatibilityFold
import SchemaCatalog.Text.Composition
import SchemaCatalog.Text.Joining
import SchemaCatalog.Text.SpacingMark
import SchemaCatalog.Text.Split
import SchemaCatalog.Text.Unprintable

namespace SchemaCatalog.Http.HostName

/-! ### Characters -/

/-- The ASCII characters that may not stand in a name, controls aside. -/
def reserved : List Char :=
  [' ', '#', '/', ':', '<', '>', '?', '@', '[', '\\', ']', '^', '|', '%']

/-- The points that part labels in any script. -/
def isPoint (c : Char) : Bool := c = '.' || c = '\u3002' || c = '\uFF0E' || c = '\uFF61'

/-- The characters that do not count, as closed ranges in ascending order. -/
def ignoredRanges : List (Nat × Nat) :=
  [(0xAD, 0xAD), (0x34F, 0x34F), (0x115F, 0x1160), (0x17B4, 0x17B5), (0x180B, 0x180F),
   (0x200B, 0x200B), (0x2060, 0x2064), (0x206A, 0x206F), (0x3164, 0x3164), (0xFE00, 0xFE0F),
   (0xFEFF, 0xFEFF), (0xFFA0, 0xFFA0), (0x1BCA0, 0x1BCA3), (0x1D173, 0x1D17A),
   (0xE0100, 0xE01EF)]

def inRanges (ranges : List (Nat × Nat)) (c : Char) : Bool :=
  ranges.any fun r => r.1 ≤ c.toNat && c.toNat ≤ r.2

def isIgnored (c : Char) : Bool := inRanges ignoredRanges c

/-- The characters that keep letters apart or together. -/
def isJoiner (c : Char) : Bool := c = '\u200C' || c = '\u200D'

/-- The signs that may not stand in a name although they are printed: those that describe ideographs, and
those that stand for what is missing. -/
def refusedRanges : List (Nat × Nat) := [(0x2FF0, 0x2FFF), (0x31EF, 0x31EF), (0xFFFC, 0xFFFD)]

/-- Whether a character may stand in a name as it is. -/
def isAllowed (c : Char) : Bool :=
  if c.toNat < 0x80 then 0x20 < c.toNat && c.toNat < 0x7F && !reserved.contains c
  else isJoiner c || !(Text.isUnprintable c || isIgnored c || inRanges refusedRanges c)

/-- What stands in a name for a character; nothing stands for a sign that holds a point. -/
def prepareChar (c : Char) : Option (List Char) :=
  if isPoint c then some ['.']
  else if isIgnored c then some []
  else
    let folded := Text.compatibilityFold c
    if folded.any isPoint then none else some folded

/-- A name with case and form left out. -/
def prepare (name : List Char) : Option (List Char) :=
  (name.mapM prepareChar).map fun parts => Text.compose parts.flatten

/-! ### Joiners -/

/-- The class of marks that take the vowel off a letter, after which a joiner may stand. -/
def viramaClass : Nat := 9

/-- Whether a joiner changes something between the characters `before` it, the last one first, and those
`behind` it: one that keeps letters apart does so too where they would be joined. -/
def joinerFits (joiner : Char) (before behind : List Char) : Bool :=
  (before.head?.any fun c => Text.combiningClass c = viramaClass) ||
    (joiner = '\u200C' &&
      (before.dropWhile Text.isGraphemeExtend).head?.any Text.joinsBehind &&
      (behind.dropWhile Text.isGraphemeExtend).head?.any Text.joinsBefore)

/-- Whether all joiners change something, after the characters `before`, the last one first. -/
def joinersFit (before : List Char) : List Char → Bool
  | [] => true
  | c :: cs => (!isJoiner c || joinerFits c before cs) && joinersFit (c :: before) cs

/-! ### Directions -/

/-- Which way a character is read. -/
inductive Direction where
  | toRight
  | toLeft
  /-- A digit of the letters that are read to the right. -/
  | digit
  /-- A digit of the letters that are read to the left. -/
  | digitToLeft
  /-- A mark, which follows the character before it. -/
  | mark
  | neutral
deriving DecidableEq, Repr

/-- The scripts that are read to the left. -/
def toLeftRanges : List (Nat × Nat) :=
  [(0x590, 0x8FF), (0xFB1D, 0xFDFF), (0xFE70, 0xFEFF), (0x10800, 0x10FFF), (0x1E800, 0x1EFFF)]

/-- The digits of those scripts. -/
def digitToLeftRanges : List (Nat × Nat) :=
  [(0x660, 0x669), (0x66B, 0x66C), (0x10D30, 0x10D39), (0x10D40, 0x10D49), (0x10E60, 0x10E7E)]

/-- Which way a character is read. -/
def direction (c : Char) : Direction :=
  if c.toNat < 0x80 then
    if c.isAlpha then .toRight else if c.isDigit then .digit else .neutral
  else if Text.isGraphemeExtend c then .mark
  else if inRanges digitToLeftRanges c then .digitToLeft
  else if 0x6F0 ≤ c.toNat && c.toNat ≤ 0x6F9 then .digit
  else if inRanges toLeftRanges c then .toLeft
  else .toRight

/-- Whether a label goes one way, in a name that holds characters read to the left. -/
def goesOneWay (label : List Char) : Bool :=
  let directions := label.map direction
  let last := (directions.reverse.dropWhile (· == .mark)).head?
  match directions.head? with
  | none => true
  | some .toLeft =>
    directions.all (· != .toRight) && !(directions.contains .digit && directions.contains .digitToLeft) &&
      last.any fun d => d != .neutral
  | some .toRight =>
    directions.all (fun d => d != .toLeft && d != .digitToLeft) && last.any fun d => d != .neutral
  | _ => false

/-- Whether all labels go one way, if some character is read to the left. -/
def directionsFit (labels : List (List Char)) : Bool :=
  !(labels.any fun l => l.any fun c => direction c = .toLeft || direction c = .digitToLeft) ||
    labels.all goesOneWay

/-! ### Labels -/

/-- What labels begin with that are written in `Punycode`. -/
def mark : List Char := ['x', 'n', '-', '-']

/-- Whether a label may be in a name. -/
def isLabel (label : List Char) : Bool :=
  !(label.head?.any Text.isMark) && label.all isAllowed && joinersFit [] label

/-- The label that a prepared one stands for. -/
def readLabel? (label : List Char) : Option (List Char) :=
  let read :=
    if mark.isPrefixOf label then
      (Punycode.decode? (label.drop mark.length)).filter fun l =>
        l.any (0x80 ≤ ·.toNat) && prepare l = some l
    else some label
  read.filter isLabel

/-- A label in ASCII. -/
def asciiLabel (label : List Char) : List Char :=
  if label.all (·.toNat < 0x80) then label else mark ++ Punycode.encode label

/-- A name in ASCII. -/
def toAscii? (name : List Char) : Option (List Char) := do
  let labels ← (Text.split '.' (← prepare name)).mapM readLabel?
  if directionsFit labels then return Text.join '.' (labels.map asciiLabel) else none

end SchemaCatalog.Http.HostName
