/-
  `Certificate` — what a server shows to prove who it is.

  Of a certificate, the public key counts. Everything around it has to be in its place: a version, a
  number, the kind of the signature told twice alike, who gave it to whom and for how long, and perhaps
  extensions, of which those that are known come once each and no other one demands to be known.
-/
import SchemaCatalog.Tls.Der

namespace SchemaCatalog.Tls

/-- A certificate. -/
structure Certificate where
  /-- The kind of the public key, and the key itself. -/
  publicInfo : Bytes
deriving DecidableEq, Repr

namespace Certificate

/-- Why a certificate cannot be used. -/
inductive Flaw where
  | badEncoding
  | unsupportedVersion
  /-- The kind of the signature is told in two ways. -/
  | signatureMismatch
  /-- An extension comes twice. -/
  | invalidExtension
  /-- An extension demands to be known, and is not. -/
  | unsupportedExtension
deriving DecidableEq, Repr

/-- A flaw that goes by a name of its own. -/
def otherFlaw (name : String) : String := "Other(OtherError(" ++ name ++ "))"

/-- The name of a flaw. -/
def Flaw.message : Flaw → String
  | badEncoding => "BadEncoding"
  | unsupportedVersion => otherFlaw "UnsupportedCertVersion"
  | signatureMismatch => otherFlaw "SignatureAlgorithmMismatch"
  | invalidExtension => otherFlaw "ExtensionValueInvalid"
  | unsupportedExtension => otherFlaw "UnsupportedCriticalExtension"

/-- What a reader gives, or the flaw of what it cannot read. -/
def orFlaw {α : Type} (flaw : Flaw) : Option α → Except Flaw α
  | some x => .ok x
  | none => .error flaw

/-- The content of the value with a tag that comes first, and the bytes after it. -/
def next (tag : UInt8) (bytes : Bytes) : Except Flaw (Bytes × Bytes) :=
  orFlaw .badEncoding (Der.expect? tag bytes)

/-- The content of a value with a tag that is all there is. -/
def only (tag : UInt8) (bytes : Bytes) : Except Flaw Bytes :=
  orFlaw .badEncoding (Der.only? tag bytes)

/-! ### Extensions -/

/-- What the names of all known extensions begin with. -/
def extensionRoot : Bytes := [0x55, 0x1D]

/-- The last byte of the name of the extension that tells what a key is for, whose value is not
looked at. -/
def keyUsage : UInt8 := 15

/-- The last bytes of the names of the known extensions. -/
def knownExtensions : List UInt8 := [keyUsage, 17, 19, 30, 31, 37]

/-- The known extensions that have come, after one more. -/
def rememberExtension (seen : List UInt8) (id : Bytes) (critical : Bool) (value : Bytes) :
    Except Flaw (List UInt8) :=
  let unknown := if critical then .error .unsupportedExtension else .ok seen
  match id with
  | [a, b, n] =>
    if [a, b] ≠ extensionRoot || !knownExtensions.contains n then unknown
    else if seen.contains n then .error .invalidExtension
    else if n = keyUsage then .ok (n :: seen)
    else (only Der.sequence value).map fun _ => n :: seen
  | _ => unknown

/-- Whether an extension demands to be known: no value stands for no. -/
def readCritical (bytes : Bytes) : Except Flaw (Bool × Bytes) :=
  if Der.startsWith Der.boolean bytes then
    match Der.expect? Der.boolean bytes with
    | some ([0xFF], rest) => .ok (true, rest)
    | some ([0x00], rest) => .ok (false, rest)
    | _ => .error .badEncoding
  else .ok (false, bytes)

/-- The known extensions that have come, after the one with this content. -/
def readExtension (seen : List UInt8) (content : Bytes) : Except Flaw (List UInt8) := do
  let (id, bytes) ← next Der.objectId content
  let (critical, bytes) ← readCritical bytes
  let (value, bytes) ← next Der.octetString bytes
  let seen ← rememberExtension seen id critical value
  if bytes.isEmpty then return seen else throw .badEncoding

/-- Reads extensions up to the end; there are at most `room` of them. -/
def readExtensions (room : Nat) (seen : List UInt8) (bytes : Bytes) : Except Flaw Unit :=
  if bytes.isEmpty then .ok ()
  else match room with
    | 0 => .error .badEncoding
    | room + 1 => do
      let (content, bytes) ← next Der.sequence bytes
      readExtensions room (← readExtension seen content) bytes

/-! ### Certificates -/

/-- Reads the version, which has to be the third one, called 2. -/
def readVersion (bytes : Bytes) : Except Flaw Bytes := do
  let (content, rest) ← orFlaw .unsupportedVersion (Der.expect? (Der.part 0) bytes)
  let (version, after) ← orFlaw .badEncoding (Der.natural? content)
  if 255 < version then throw .badEncoding
  if version ≠ 2 || !after.isEmpty then throw .unsupportedVersion
  return rest

/-- Reads what is signed, by a signature of this kind. -/
def readSigned (signature bytes : Bytes) : Except Flaw Certificate := do
  let bytes ← readVersion bytes
  let (_, bytes) ← next Der.integer bytes
  let (told, bytes) ← next Der.sequence bytes
  if told ≠ signature then throw .signatureMismatch
  let (_, bytes) ← next Der.sequence bytes
  let (_, bytes) ← next Der.sequence bytes
  let (_, bytes) ← next Der.sequence bytes
  let (publicInfo, bytes) ← next Der.sequence bytes
  if !bytes.isEmpty then
    let (tagged, after) ← next (Der.part 3) bytes
    let extensions ← only Der.sequence tagged
    readExtensions extensions.length [] extensions
    if !after.isEmpty then throw .badEncoding
  return ⟨publicInfo⟩

/-- The certificate that bytes stand for. -/
def ofDer (bytes : Bytes) : Except Flaw Certificate := do
  let content ← only Der.sequence bytes
  let (signed, rest) ← next Der.sequence content
  let (signature, rest) ← next Der.sequence rest
  let bits ← only Der.bitString rest
  let _ ← orFlaw .badEncoding (Der.wholeBytes? bits)
  readSigned signature signed

end Certificate

end SchemaCatalog.Tls
