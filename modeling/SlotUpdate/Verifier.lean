import SlotUpdate.Manifest
import SlotUpdate.Rsa
import SlotUpdate.SystemError
import SlotUpdate.Text.Quoted

/-!
# Trusted keys

A verifier holds the trusted public keys, in order. It accepts a raw signature of a digest that
one of the keys made (`Verifier.checkRaw`), and a signature container if it accepts one of its
entries (`Verifier.checkContainer`). Keys of more than 4096 bits are not supported.
-/

namespace SlotUpdate

open Wire (DecodeError)

/-- The size of a digest in bytes. -/
def digestSize : Nat := 32

/-- The size of the largest supported key in bytes. -/
def maxKeySize : Nat := 512

/-- Why a signature cannot be made or is not accepted, or a key cannot be loaded. -/
inductive SignatureError where
  /-- A key has too many bytes. -/
  | unsupportedKeySize (size : Nat)
  /-- A digest does not have 32 bytes. -/
  | invalidDigestLength (length : Nat)
  /-- No key is trusted. -/
  | noPublicKeys
  /-- The container holds no entry that could be checked. -/
  | noSignatures
  /-- No trusted key made the signature; holds the block of the last key tried. -/
  | mismatch (decrypted : Bytes)
  /-- The container is not well formed. -/
  | containerDecode (cause : DecodeError)
  /-- A certificate file has a start marker without an end marker. -/
  | unterminatedPem
  /-- A public key file is not well formed; holds what is wrong. -/
  | malformedKey (cause : String)
  /-- A certificate is not well formed; holds what is wrong. -/
  | malformedCertificate (cause : String)
  /-- The key cannot sign a digest. -/
  | cannotSign
  /-- A file cannot be read. -/
  | unreadable (path : String) (cause : SystemError)
  deriving Repr, DecidableEq

namespace SignatureError

/-- The name of a failure. -/
def name : SignatureError → String
  | unsupportedKeySize _ => "UnsupportedKeySize"
  | invalidDigestLength _ => "InvalidDigestLength"
  | noPublicKeys => "NoPublicKeys"
  | noSignatures => "NoSignatures"
  | mismatch _ => "SignatureMismatch"
  | containerDecode _ => "SignaturesDecode"
  | unterminatedPem => "PemNoEndTag"
  | malformedKey _ => "LoadPubKey"
  | malformedCertificate _ => "LoadCert"
  | cannotSign => "RsaSign"
  | unreadable _ _ => "ReadFile"

/-- The text of a failure. -/
def message : SignatureError → String
  | unsupportedKeySize size => s!"RSA key size ({size * 8}) not supported"
  | invalidDigestLength length => s!"Invalid digest length ({length} bytes) for SHA-256"
  | noPublicKeys => "No public keys available for verification"
  | noSignatures => "Signature container contains no signatures"
  | mismatch _ => "Signature does not match any trusted public key"
  | containerDecode _ => "Failed to decode signature container"
  | unterminatedPem => "PEM has start tag, but no end tag"
  | malformedKey _ => "Failed to load RSA public key"
  | malformedCertificate _ => "Failed to load X509 certificate"
  | cannotSign => "Failed to RSA sign digest"
  | unreadable path _ => "Failed to read file: " ++ Text.quote path

/-- The texts of what lies behind a failure, the nearest first. -/
def causes : SignatureError → List String
  | containerDecode cause => [cause.message]
  | malformedKey cause => [cause]
  | malformedCertificate cause => [cause]
  | unreadable _ cause => [cause.text]
  | _ => []

end SignatureError

/-- The signature of a digest by a private key. -/
def signDigest (key : Rsa.PrivateKey) (digest : Bytes) : Except SignatureError Bytes :=
  if digest.length ≠ digestSize then .error (.invalidDigestLength digest.length)
  else match key.sign digest with
    | some s => .ok s
    | none => .error .cannotSign

/-- The trusted keys: at least one, each of a supported size. -/
structure Verifier where
  /-- The keys, in the order in which they are tried. -/
  keys : List Rsa.PublicKey
  /-- There is a key. -/
  keys_ne_nil : keys ≠ []
  /-- Every key has a supported size. -/
  size_le : ∀ key ∈ keys, key.size ≤ maxKeySize

namespace Verifier

/-- The verifier that trusts the given keys; the first key of an unsupported size is reported. -/
def ofKeys (keys : List Rsa.PublicKey) : Except SignatureError Verifier :=
  if hne : keys = [] then .error .noPublicKeys
  else match hf : keys.find? (fun key => decide (maxKeySize < key.size)) with
    | some key => .error (.unsupportedKeySize key.size)
    | none => .ok ⟨keys, hne, fun key hk => by
        have := List.find?_eq_none.1 hf key hk
        simpa using this⟩

/-- Try keys in order: success at the first key under which the signature shows the block of the
digest, else the block shown under the last key for which the signature is one at all. -/
def tryKeys (signature digest : Bytes) : List Rsa.PublicKey → (shown : Bytes) →
    Except SignatureError Unit
  | [], shown => .error (.mismatch shown)
  | key :: rest, shown =>
    match key.recover signature with
    -- The signature is none under this key, so there is no block to show.
    | none => tryKeys signature digest rest shown
    | some block =>
      if Rsa.padDigest key.size digest = some block then .ok ()
      else tryKeys signature digest rest block

/-- Check a raw signature of a digest. -/
def checkRaw (v : Verifier) (signature digest : Bytes) : Except SignatureError Unit :=
  if digest.length ≠ digestSize then .error (.invalidDigestLength digest.length)
  else tryKeys signature digest v.keys []

/-- The signature of a container's entry without its padding, if the entry holds one and is not
shorter than it says. -/
def usable (entry : Signature) : Option Bytes := do
  let data ← entry.data
  match entry.unpaddedSize with
  | none => some data
  | some size => if size.toNat ≤ data.length then some (data.take size.toNat) else none

/-- Try raw signatures in order: success at the first accepted one, else the failure of the last
one, or `last` if there is none. A digest of the wrong length ends the search. -/
def trySignatures (v : Verifier) (digest : Bytes) : List Bytes → (last : SignatureError) →
    Except SignatureError Unit
  | [], last => .error last
  | signature :: rest, _ =>
    match v.checkRaw signature digest with
    | .ok () => .ok ()
    -- No other entry could be checked with this digest either.
    | .error (.invalidDigestLength n) => .error (.invalidDigestLength n)
    | .error e => trySignatures v digest rest e

/-- Check a signature container for a digest. -/
def checkContainer (v : Verifier) (container digest : Bytes) : Except SignatureError Unit :=
  match SignatureContainer.decode container with
  | .error e => .error (.containerDecode e)
  | .ok c => trySignatures v digest (c.signatures.filterMap usable) .noSignatures

end Verifier

end SlotUpdate
