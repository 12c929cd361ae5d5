/-
  `Tls` — the certificates and the key that a server encrypts with.

  Both are kept in files of labelled sections. Every section of the certificate file has to be readable,
  while those of the key file that are not do not count. There has to be one key that can be used, and
  at least one certificate, the first of which has to be for that key.
-/
import SchemaCatalog.Tls.Certificate
import SchemaCatalog.Tls.Key
import SchemaCatalog.Tls.Pem

namespace SchemaCatalog.Tls

/-- The labels of sections that hold a key. Which of them it is does not matter. -/
def keyLabels : List Bytes :=
  ["PRIVATE KEY", "RSA PRIVATE KEY", "EC PRIVATE KEY"].map Utf8.encode

/-- The label of sections that hold a certificate. -/
def certificateLabel : Bytes := Utf8.encode "CERTIFICATE"

/-- What is wrong with certificates and key. -/
inductive Flaw where
  /-- A section of the certificate file cannot be read. -/
  | unreadable (fault : Pem.Fault)
  | notOneKey
  | unknownKeyForm
  | unusableKey
  | noCertificate
  | invalidCertificate (flaw : Certificate.Flaw)
  /-- The certificate is for another key. -/
  | otherKey
deriving DecidableEq, Repr

/-- The wording of a flaw. -/
def Flaw.message : Flaw → String
  | unreadable fault => fault.message
  | notOneKey => "private key format not supported"
  | unknownKeyForm => "unknown or invalid key format"
  | unusableKey => "unexpected error: failed to parse private key as RSA, ECDSA, or EdDSA"
  | noCertificate => "peer sent no certificates"
  | invalidCertificate flaw => "invalid peer certificate: " ++ flaw.message
  | otherKey => "keys may not be consistent: KeyMismatch"

/-- The certificates in a file, unless one of its sections cannot be read. -/
def certificates (file : Bytes) : Except Flaw (List Bytes) :=
  match (Pem.sections file).mapM id with
  | .error fault => .error (.unreadable fault)
  | .ok sections =>
    .ok ((sections.filter fun s => s.label = certificateLabel).map (·.content))

/-- The keys in a file. -/
def keys (file : Bytes) : List Bytes :=
  ((Pem.sections file).filterMap fun
    | .ok s => if keyLabels.contains s.label then some s.content else none
    | .error _ => none)

/-- The key in a file, which has to be the only one. -/
def loadKey (file : Bytes) : Except Flaw Key :=
  match keys file with
  | [key] =>
    match KeyForm.of? key with
    | none => .error .unknownKeyForm
    | some form =>
      match Key.ofForm? form key with
      | none => .error .unusableKey
      | some key => .ok key
  | _ => .error .notOneKey

/-- Whether the first one of some certificates is for a key. -/
def checkFirst (key : Key) : List Bytes → Except Flaw Unit
  | [] => .error .noCertificate
  | first :: _ =>
    match Certificate.ofDer first with
    | .error flaw => .error (.invalidCertificate flaw)
    | .ok certificate =>
      match key.publicInfo? with
      | none => .ok ()
      | some info => if certificate.publicInfo = info then .ok () else .error .otherKey

/-- The first flaw of the contents of a certificate file and of a key file. -/
def check (certificateFile keyFile : Bytes) : Except Flaw Unit := do
  let chain ← certificates certificateFile
  let key ← loadKey keyFile
  checkFirst key chain

end SchemaCatalog.Tls
