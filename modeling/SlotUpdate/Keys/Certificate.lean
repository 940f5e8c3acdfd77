import SlotUpdate.Chunks
import SlotUpdate.Keys.Der
import SlotUpdate.Rsa

/-!
# Certificates and public keys

A trusted key is given by itself or inside a certificate. `publicKeyInfo` reads the form in which
both hold it, and `certificate` a whole certificate, of which only the key is used: neither its
signature nor its validity is checked, since a key is trusted by being given.
-/

namespace SlotUpdate.Keys

open Der

/-- The name of a kind of algorithm, and its parameters. -/
structure Algorithm where
  /-- The name. -/
  identifier : Bytes
  /-- The parameters, if there are any. -/
  parameters : Option Value
  deriving Repr, DecidableEq

/-- Read a value if there is one. -/
def optionalValue : Reader (Option Value) := do
  match ← peek with
  | none => return none
  | some _ => return some (← value)

/-- Read an algorithm. -/
def algorithm : Reader Algorithm :=
  sequence do return ⟨← identifier, ← optionalValue⟩

/-- A public key with its algorithm. -/
structure PublicKeyInfo where
  /-- The algorithm. -/
  algorithm : Algorithm
  /-- The key. -/
  key : Bits
  deriving Repr, DecidableEq

/-- Read a public key with its algorithm. -/
def publicKeyInfo : Reader PublicKeyInfo :=
  sequence do return ⟨← algorithm, ← bitString Tag.bitString.byte⟩

/-! ## Certificates -/

/-- Whether a year is a leap year. -/
def isLeap (year : Nat) : Bool :=
  year % 4 == 0 && (year % 100 != 0 || year % 400 == 0)

/-- The number of days of a month. -/
def daysIn (year month : Nat) : Nat :=
  if month = 2 then if isLeap year then 29 else 28
  else if month = 4 ∨ month = 6 ∨ month = 9 ∨ month = 11 then 30
  else 31

/-- Whether there is such a time. Times before 1970 are not admitted. -/
def isTime (year month day hour minute second : Nat) : Bool :=
  1970 ≤ year && 1 ≤ month && month ≤ 12 && 1 ≤ day && day ≤ daysIn year month && hour < 24 &&
    minute < 60 && second < 60

/-- The number that decimal digits write. -/
def decimal? (ds : Bytes) : Option Nat :=
  ds.foldlM (fun n d => if 48 ≤ d ∧ d ≤ 57 then some (10 * n + (d.toNat - 48)) else none) 0

/-- Whether digits and a final letter give a time after the given year. -/
def isTimeText (year : Nat) (rest : Bytes) : Bool :=
  match (chunks 2 (rest.take 10)).mapM decimal? with
  | some [month, day, hour, minute, second] =>
    rest.drop 10 == [90] && isTime year month day hour minute second
  | _ => false

/-- Whether the content of a value is a time with a year of two digits, which are those of 1950 to
2049. -/
def isShortTime (c : Bytes) : Bool :=
  match decimal? (c.take 2) with
  | some y => isTimeText (if 50 ≤ y then 1900 + y else 2000 + y) (c.drop 2)
  | none => false

/-- Whether the content of a value is a time with a year of four digits. -/
def isLongTime (c : Bytes) : Bool :=
  match decimal? (c.take 4) with
  | some year => isTimeText year (c.drop 4)
  | none => false

/-- Read a time. -/
def time : Reader Unit := do
  let v ← value
  if v.tag = Tag.shortTime.byte ∧ isShortTime v.content then return ()
  else if v.tag = Tag.longTime.byte ∧ isLongTime v.content then return ()
  else failure

/-- Read a part of a name: the kind of the part and its value. -/
def namePart : Reader (Bytes × Value) :=
  sequence do return (← identifier, ← value)

/-- Read a set of different parts of a name. -/
def namePartSet : Reader Unit := do
  let parts ← inside Tag.set.byte (many namePart)
  -- In the one way of writing a set no element stands twice.
  if parts.eraseDups.length = parts.length then return () else failure

/-- Read a name. -/
def distinguishedName : Reader Unit := do
  let _ ← sequence (many namePartSet)

/-- Read a serial number, which has at most 21 bytes. -/
def serialNumber : Reader Unit := do
  if (← integerBytes).length ≤ 21 then return () else failure

/-- Read an optional field with a number of its own. Fields with a lower number before it are
passed over; `fuel` bounds how many. -/
def fieldFrom (number : UInt8) (r : Reader Unit) : (fuel : Nat) → Reader Unit
  | 0 => failure
  | fuel + 1 => do
    match ← peek with
    | none => return ()
    | some tag =>
      if !isTag tag then failure
      else if tag < 0x80 ∨ 0xC0 ≤ tag ∨ number < tag % 0x20 then return ()
      else if tag % 0x20 = number then r
      else
        let _ ← value
        fieldFrom number r fuel

/-- Read an optional field with a number of its own. -/
def field (number : UInt8) (r : Reader Unit) : Reader Unit := fun b =>
  fieldFrom number r (b.length + 1) b

/-- Read the version of a certificate, one of three. -/
def version : Reader Unit := do
  match ← inside 0xA0 integerBytes with
  | [v] => if v < 3 then return () else failure
  | _ => failure

/-- Read whether an extension is critical, if that is said. -/
def criticality : Reader Unit := do
  if (← peek) = some Tag.boolean.byte then
    let _ ← boolean
  else return ()

/-- Read an extension. -/
def extension : Reader Unit := sequence do
  let _ ← identifier
  criticality
  let _ ← content Tag.octetString.byte

/-- Read the part of a certificate that is signed, and answer the key. -/
def signedPart : Reader PublicKeyInfo := sequence do
  field 0 version
  serialNumber
  let _ ← algorithm
  distinguishedName
  sequence do
    time
    time
  distinguishedName
  let key ← publicKeyInfo
  -- Two identifiers that are not used any more, and the extensions.
  field 1 do let _ ← bitString 0x81
  field 2 do let _ ← bitString 0x82
  field 3 do let _ ← inside 0xA3 (sequence (many extension))
  return key

/-- Read a certificate, and answer the key. -/
def certificate : Reader PublicKeyInfo := sequence do
  let key ← signedPart
  let _ ← algorithm
  let _ ← bitString Tag.bitString.byte
  return key

/-! ## Keys -/

/-- The name of the algorithm of the supported keys. -/
def rsaIdentifier : Bytes := [0x2A, 0x86, 0x48, 0x86, 0xF7, 0x0D, 0x01, 0x01, 0x01]

/-- The largest public exponent. -/
def maxExponent : Nat := (1 <<< 33) - 1

/-- The most bits of a modulus. -/
def maxModulusBits : Nat := 4096

/-- Read modulus and exponent. -/
def modulusAndExponent : Reader Rsa.PublicKey :=
  sequence do return ⟨← natural, ← natural⟩

/-- Why a public key is no supported RSA key. -/
inductive KeyFault where
  /-- It is a key of another algorithm. -/
  | otherAlgorithm
  /-- The parameters of its algorithm are missing. -/
  | noParameters
  /-- It is not two numbers. -/
  | notNumbers
  /-- Its parts are out of range. -/
  | outOfRange
  deriving Repr, DecidableEq

/-- The text of a fault. -/
def KeyFault.message : KeyFault → String
  | otherAlgorithm => "unknown/unsupported algorithm OID: 1.2.840.113549.1.1.1"
  | noParameters => "AlgorithmIdentifier parameters missing"
  | notNumbers => "ASN.1 error: ASN.1 DER message is malformed"
  | outOfRange => "SPKI cryptographic key data malformed"

/-- The RSA key that a public key is, if its numbers are in range. -/
def rsaKey (info : PublicKeyInfo) : Except KeyFault Rsa.PublicKey := do
  if info.algorithm.identifier ≠ rsaIdentifier then throw .otherAlgorithm
  let some parameters := info.algorithm.parameters | throw .noParameters
  if parameters ≠ ⟨Tag.null.byte, []⟩ ∨ info.key.unused ≠ 0 then throw .outOfRange
  let some key := all? modulusAndExponent info.key.bytes | throw .notNumbers
  if key.n < 1 <<< maxModulusBits ∧ 2 ≤ key.e ∧ key.e ≤ maxExponent then return key
  else throw .outOfRange

end SlotUpdate.Keys
