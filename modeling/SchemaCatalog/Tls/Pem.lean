/-
  `Pem` — files of labelled sections.

  A section stands between a line that starts it and one that ends it, and holds bytes in base 64. What
  stands outside the sections does not count. Reading goes section by section: a fault ends the
  section that is being read, and the next one is looked for behind it. Sections whose label is none of
  the known ones are passed over.
-/
import SchemaCatalog.Text.Quoted
import SchemaCatalog.Tls.Base64

namespace SchemaCatalog.Tls

/-- A section: its label and what it holds. -/
structure Section where
  label : Bytes
  content : Bytes
deriving DecidableEq, Repr

namespace Pem

/-- Why a section cannot be read. -/
inductive Fault where
  /-- A line that starts no section although it begins like one. -/
  | illegalStart (line : Bytes)
  /-- A section that the file ends in. -/
  | missingEnd (label : Bytes)
  /-- A section that does not hold bytes in base 64. -/
  | notBase64 (fault : Base64.Fault)
deriving DecidableEq, Repr

/-- The wording of a fault. -/
def Fault.message : Fault → String
  | illegalStart line => "illegal section start: " ++ Text.quoted (Utf8.decodeLossy line)
  | missingEnd label => "section end " ++ Text.quoted (Utf8.decodeLossy label) ++ " missing"
  | notBase64 fault => fault.message

/-- The labels of the sections that are read. -/
def knownLabels : List Bytes :=
  ["CERTIFICATE", "PUBLIC KEY", "RSA PRIVATE KEY", "PRIVATE KEY", "EC PRIVATE KEY", "X509 CRL",
    "CERTIFICATE REQUEST", "ECHCONFIG"].map Utf8.encode

def lineFeed : UInt8 := 0x0A
def carriageReturn : UInt8 := 0x0D
def dash : UInt8 := 0x2D

/-- The lines of a file, each with the byte that ends it. `line` is the open one, latest byte first. -/
def linesFrom (line : Bytes) : Bytes → List Bytes
  | [] => if line.isEmpty then [] else [line.reverse]
  | b :: rest =>
    if b = lineFeed || b = carriageReturn then (b :: line).reverse :: linesFrom [] rest
    else linesFrom (b :: line) rest

/-- Whether a byte between the dashes at the end of a line does not count. -/
def isIdle (b : UInt8) : Bool := b = lineFeed || b = carriageReturn || b = 0x20

/-- What a line that starts a section begins with. -/
def startMark : Bytes := Utf8.encode "-----BEGIN "

/-- What a line that ends a section begins with. -/
def endMark : Bytes := Utf8.encode "-----END "

def dashes : Bytes := Utf8.encode "-----"

/-- The label on a line that starts a section, given what follows the mark: what stands before the
dashes at its end, of which there have to be five. -/
def startLabel? (afterMark : Bytes) : Option Bytes :=
  let back := afterMark.reverse
  let closing := back.takeWhile fun b => b = dash || isIdle b
  if closing.count dash = 5 then
    some (back.drop (closing.length - (closing.reverse.takeWhile isIdle).length)).reverse
  else none

/-- Whether a line ends the sections with a label. -/
def closes (label line : Bytes) : Bool := (endMark ++ label ++ dashes).isPrefixOf line

/-- The sections in lines, and the faults of those that cannot be read. `current` is the label of the
open section, `gathered` what was read in it, latest line first. -/
def sectionsFrom (current : Option Bytes) (gathered : List Bytes) :
    List Bytes → List (Except Fault Section)
  | [] =>
    match current with
    | none => []
    | some label => [.error (.missingEnd label)]
  | line :: rest =>
    if startMark.isPrefixOf line then
      match startLabel? (line.drop startMark.length) with
      | none => .error (.illegalStart line) :: sectionsFrom none [] rest
      | some label => sectionsFrom (some label) gathered rest
    else match current with
      | none => sectionsFrom none gathered rest
      | some label =>
        if closes label line then
          if knownLabels.contains label then
            (match Base64.decode gathered.reverse.flatten with
              | .error fault => .error (.notBase64 fault)
              | .ok content => .ok ⟨label, content⟩) :: sectionsFrom none [] rest
          else sectionsFrom none [] rest
        else sectionsFrom (some label) (line :: gathered) rest

/-- The sections in a file, and the faults of those that cannot be read, in their order. -/
def sections (file : Bytes) : List (Except Fault Section) :=
  sectionsFrom none [] (linesFrom [] file)

end Pem

end SchemaCatalog.Tls
