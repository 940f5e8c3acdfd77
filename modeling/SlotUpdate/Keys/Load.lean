import SlotUpdate.Keys.Certificate
import SlotUpdate.Keys.Pem
import SlotUpdate.Text.Utf8
import SlotUpdate.Verifier

/-!
# Loading trusted keys

The trusted keys are given as files: certificates in any wrapping (`loadCertificate`) and public
keys in the strict form (`loadPublicKey`).
-/

namespace SlotUpdate.Keys

/-- The label of certificates. -/
def certificateLabel : String := "CERTIFICATE"

/-- The label of public keys. -/
def publicKeyLabel : String := "PUBLIC KEY"

/-- The number of bytes of the value at the front of a byte string, with its tag and length. -/
def valueSize? (front : Bytes) : Option Nat :=
  ((Der.byte *> Der.length).run front).map fun (n, rest) => front.length - rest.length + n

/-- The most bytes that a tag and a length have. -/
def maxHeaderSize : Nat := 6

/-- The value at the start of an armoured text. What follows it is not looked at. -/
def firstValue? (b : Pem.Block) : Option Bytes := do
  -- The length at the front says how much of the text to look at.
  let total ← b.size?
  let size ← valueSize? (← b.take? (min total maxHeaderSize))
  guard (size ≤ total)
  b.take? size

/-- Something is wrong with the values inside an armoured text. -/
def malformed : String := "ASN.1 DER message is malformed"

/-- The public key in the certificate of a file. -/
def readCertificate (file : Bytes) : Except SignatureError PublicKeyInfo := do
  let some rewrapped := Pem.rewrap file | throw .unterminatedPem
  match Pem.Block.read? rewrapped with
  | .error e => throw (.malformedCertificate e.message)
  | .ok block =>
    match block.expect certificateLabel with
    | .error e => throw (.malformedCertificate e.message)
    | .ok () =>
      match (firstValue? block).bind (Der.all? certificate) with
      | some info => return info
      | none => throw (.malformedCertificate malformed)

/-- The RSA key that a public key is. -/
def toRsa (info : PublicKeyInfo) : Except SignatureError Rsa.PublicKey :=
  (rsaKey info).mapError fun e => .malformedKey e.message

/-- The key in the certificate of a file. -/
def loadCertificate (file : Bytes) : Except SignatureError Rsa.PublicKey := do
  toRsa (← readCertificate file)

/-- The fault of a text that holds no public key. -/
def notPublicKey (cause : String) : SignatureError := .malformedKey ("ASN.1 error: " ++ cause)

/-- The key in a text. -/
def readPublicKey (text : Bytes) : Except SignatureError Rsa.PublicKey := do
  match Pem.Block.read? text with
  | .error e => throw (notPublicKey e.message)
  | .ok block =>
    match block.expect publicKeyLabel with
    | .error e => throw (notPublicKey e.message)
    | .ok () =>
      match block.bytes?.bind (Der.all? publicKeyInfo) with
      | some info => toRsa info
      | none => throw (notPublicKey malformed)

/-- The key in the public key file at a path. -/
def loadPublicKey (path : String) (file : Bytes) : Except SignatureError Rsa.PublicKey :=
  match Utf8.decode? file with
  | none => .error (.unreadable path .notText)
  | some _ => readPublicKey file

/-- A verifier that trusts the keys of certificates. -/
def verifierOfCertificates (files : List Bytes) : Except SignatureError Verifier := do
  let infos ← files.mapM readCertificate
  Verifier.ofKeys (← infos.mapM toRsa)

end SlotUpdate.Keys
