import SlotUpdate.Bytes

/-!
# RSA signatures of digests

A key of `k` bytes signs a SHA-256 digest by padding it to a block of `k` bytes and raising that
number to the private exponent. A signature is checked by raising it to the public exponent and
comparing the result with the block, byte for byte.

`powMod_eq` says that the power by repeated squaring is exact, and `length_padDigest` that a block
has the size of the key.
-/

namespace SlotUpdate.Rsa

/-- A power modulo `modulus`, by repeated squaring. -/
def powMod (base exponent modulus : Nat) : Nat :=
  if exponent = 0 then 1 % modulus
  else
    let half := powMod (base * base % modulus) (exponent / 2) modulus
    if exponent % 2 = 1 then half * base % modulus else half
termination_by exponent
decreasing_by omega

/-- Repeated squaring computes the power. -/
theorem powMod_eq (base exponent modulus : Nat) :
    powMod base exponent modulus = Nat.pow base exponent % modulus := by
  rw [Nat.pow_eq]
  fun_induction powMod base exponent modulus with
  | case1 => simp
  | case2 b e h half hodd ih =>
    -- The half power has half the exponent, and what is left over is one factor.
    have key : half = b ^ (2 * (e / 2)) % modulus := by
      show powMod (b * b % modulus) (e / 2) modulus = _
      rw [ih, ← Nat.pow_mod, Nat.pow_mul, Nat.pow_two]
    rw [key, Nat.mod_mul_mod, ← Nat.pow_succ, show (2 * (e / 2)).succ = e by omega]
  | case3 b e h half hodd ih =>
    show powMod (b * b % modulus) (e / 2) modulus = _
    rw [ih, ← Nat.pow_mod, ← Nat.pow_two, ← Nat.pow_mul, show 2 * (e / 2) = e by omega]

/-- A public key. -/
structure PublicKey where
  /-- The modulus. -/
  n : Nat
  /-- The public exponent. -/
  e : Nat
  deriving Repr, DecidableEq

/-- The size of a key in bytes: that of its modulus. -/
def PublicKey.size (key : PublicKey) : Nat :=
  Bytes.digitCount key.n

/-- A private key. -/
structure PrivateKey where
  /-- Modulus and public exponent. -/
  publicKey : PublicKey
  /-- The private exponent. -/
  d : Nat
  deriving Repr, DecidableEq

/-- What precedes the digest in a block: the encoded name of SHA-256 and the length of a digest. -/
def sha256Header : Bytes :=
  [0x30, 0x31, 0x30, 0x0d, 0x06, 0x09, 0x60, 0x86, 0x48, 0x01, 0x65, 0x03, 0x04, 0x02, 0x01, 0x05,
   0x00, 0x04, 0x20]

/-- The block of `k` bytes for a digest: `00 01`, at least eight bytes `ff`, `00`, the name of
SHA-256 and the digest. There is none for a key that is too small. -/
def padDigest (k : Nat) (digest : Bytes) : Option Bytes :=
  let content := sha256Header ++ digest
  if k < content.length + 11 then none
  else some (0x00 :: 0x01 :: List.replicate (k - content.length - 3) 0xff ++ 0x00 :: content)

/-- A block has the size of the key. -/
theorem length_padDigest {k : Nat} {digest block : Bytes} (h : padDigest k digest = some block) :
    block.length = k := by
  simp only [padDigest] at h
  split at h
  · cases h
  · cases h
    simp only [List.length_cons, List.length_append, List.length_replicate] at *
    omega

/-- The block that a signature shows under a key: its public power in as many bytes as the key has.
Only a number below the modulus, in just that many bytes, is a signature. -/
def PublicKey.recover (key : PublicKey) (signature : Bytes) : Option Bytes :=
  if signature.length = key.size ∧ signature.toNat < key.n then
    some (Bytes.ofNat key.size (powMod signature.toNat key.e key.n))
  else none

/-- The signature of a digest: the private power of its block. There is none if the key is too
small for the block or its two exponents do not fit together. -/
def PrivateKey.sign (key : PrivateKey) (digest : Bytes) : Option Bytes := do
  let block ← padDigest key.publicKey.size digest
  -- The signature is checked before it is given out.
  let s := powMod block.toNat key.d key.publicKey.n
  if powMod s key.publicKey.e key.publicKey.n = block.toNat then
    some (Bytes.ofNat key.publicKey.size s)
  else none

end SlotUpdate.Rsa
