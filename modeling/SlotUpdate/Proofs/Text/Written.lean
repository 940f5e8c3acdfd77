import SlotUpdate.Text.Utf8

/-!
# The bytes of a text

The bytes of a text give the text back (`decode?_encode`), and bytes below 128 are those of the text
with just these characters (`encode_ofList_ascii`).
-/

namespace SlotUpdate.Utf8

/-- The bytes of a text give it back. -/
theorem decode?_encode (s : String) : decode? (encode s) = some s := by
  have hbytes : (encode s).toByteArray = s.toByteArray := by
    rw [encode, ← List.utf8Encode, String.utf8Encode_toList]
  rw [decode?, hbytes, String.fromUTF8?, dif_pos s.isValidUTF8]
  rfl

/-- Only the empty text has no bytes. -/
theorem encode_eq_nil_iff {s : String} : encode s = [] ↔ s = "" := by
  constructor
  · intro h
    have hs := decode?_encode s
    rw [h] at hs
    exact (Option.some.inj hs).symm
  · rintro rfl
    rfl

/-- A character below 128 is written as one byte. -/
theorem utf8EncodeChar_ascii {c : UInt8} (h : c < 128) :
    String.utf8EncodeChar (Char.ofNat c.toNat) = [c] := by
  have all : ∀ n < 128, String.utf8EncodeChar (Char.ofNat n) = [UInt8.ofNat n] := by decide +kernel
  rw [all c.toNat h, UInt8.ofNat_toNat]

/-- The characters of bytes below 128 are written as just these bytes. -/
theorem encode_ofList_ascii {b : Bytes} (h : ∀ c ∈ b, c < 128) :
    encode (String.ofList (b.map fun c => Char.ofNat c.toNat)) = b := by
  unfold encode
  rw [String.toList_ofList, List.flatMap_map]
  induction b with
  | nil => rfl
  | cons c rest ih =>
    obtain ⟨hc, hrest⟩ := List.forall_mem_cons.1 h
    rw [List.flatMap_cons, utf8EncodeChar_ascii hc, ih hrest]
    rfl

end SlotUpdate.Utf8
