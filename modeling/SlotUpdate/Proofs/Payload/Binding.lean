import SlotUpdate.Proofs.Payload.Checks
import SlotUpdate.Proofs.Payload.Header

/-!
# What a signature binds

A text that a verifier with one key accepts for two payloads binds them: unless two different signed
ranges have one digest, the payloads have the same header and the same manifest
(`signature_binds_manifest`), whatever sizes their headers claim.

The text stands for one byte string, and the key recovers one block from it. The block of a digest
holds the digest, so both signed ranges have the same one (`Verifier.Shows.digest_eq`). What the
signed range says in turn is all that header and manifest are read from (`header_of_signedRange`).
-/

namespace SlotUpdate

namespace Verifier

/-- A signature shows the block of one digest of a given size only. -/
theorem Shows.digest_eq {key : Rsa.PublicKey} {signature digest digest' : Bytes}
    (hlength : digest.length = digest'.length) (h : Shows key signature digest)
    (h' : Shows key signature digest') : digest = digest' := by
  obtain ⟨block, hrecover, hblock⟩ := h
  obtain ⟨block', hrecover', hblock'⟩ := h'
  have hsame : block = block' := Option.some.inj (hrecover.symm.trans hrecover')
  subst hsame
  exact Rsa.padDigest_injective hlength hblock hblock'

/-- A signature that is accepted shows the block of the digest under the only trusted key. -/
theorem shows_of_checkRaw {v : Verifier} {key : Rsa.PublicKey} {signature digest : Bytes}
    (hkeys : v.keys = [key]) (hdigest : digest.length = digestSize)
    (haccept : v.checkRaw signature digest = .ok ()) : Shows key signature digest := by
  obtain ⟨key', hmem, hshows⟩ := (checkRaw_eq_ok_iff hdigest).1 haccept
  rw [hkeys, List.mem_singleton] at hmem
  rw [← hmem]
  exact hshows

end Verifier

namespace Payload

variable {h h' : Header} {data data' : Bytes} {text : String} {expected expected' : Option Bytes}
  {v : Verifier} {key : Rsa.PublicKey} {m m' : Manifest}

/-- The header of a payload is read from its signed range, whatever sizes it claims. -/
theorem header_of_signedRange (hparse : Header.parse data = .ok (.complete h)) :
    h = Header.atStart (h.signedRange data) := by
  obtain ⟨-, -, hstart, -, -⟩ := parse_eq_complete_iff.1 hparse
  have hle : headerSize ≤ h.metadataSize := Nat.le_add_right _ _
  rw [Header.signedRange, Header.atStart_take data hle]
  exact hstart

/-- A payload that is accepted with a text is accepted with the bytes that the text is the written
form of, and its manifest is read from the signed range. -/
theorem accepted_of_text (htext : text ≠ "")
    (haccept : verifyAndParse h data text expected v = .ok m) :
    (∃ raw, Utf8.encode text = Base64.encode raw ∧
      v.checkRaw raw (sha256 (h.signedRange data)) = .ok ()) ∧
    Manifest.decode ((h.signedRange data).drop headerSize) = .ok m := by
  obtain ⟨-, -, hsignature, hdecode⟩ := verifyAndParse_eq_ok_iff.1 haccept
  rcases hsignature with ⟨hempty, -, -⟩ | ⟨-, hraw⟩
  · exact absurd hempty htext
  · exact ⟨hraw, hdecode⟩

/-- The signed ranges of payloads that one key accepts with one text have the same digest. -/
theorem digest_eq_of_accepted (hkeys : v.keys = [key]) (htext : text ≠ "")
    (haccept : verifyAndParse h data text expected v = .ok m)
    (haccept' : verifyAndParse h' data' text expected' v = .ok m') :
    sha256 (h.signedRange data) = sha256 (h'.signedRange data') := by
  obtain ⟨⟨raw, hraw, hcheck⟩, -⟩ := accepted_of_text htext haccept
  obtain ⟨⟨raw', hraw', hcheck'⟩, -⟩ := accepted_of_text htext haccept'
  have hsame : raw = raw' := by
    have hread := Base64.decode_eq_ok_iff.2 hraw
    rw [Base64.decode_eq_ok_iff.2 hraw'] at hread
    exact (Except.ok.inj hread).symm
  subst hsame
  have hshows := Verifier.shows_of_checkRaw hkeys (length_sha256 _) hcheck
  have hshows' := Verifier.shows_of_checkRaw hkeys (length_sha256 _) hcheck'
  exact hshows.digest_eq ((length_sha256 _).trans (length_sha256 _).symm) hshows'

/-- A text that one key accepts for two payloads binds them: either their signed ranges are two byte
strings with the same digest, or they are the same and so are the headers and the manifests. -/
theorem signature_binds_manifest (hkeys : v.keys = [key]) (htext : text ≠ "")
    (hparse : Header.parse data = .ok (.complete h))
    (hparse' : Header.parse data' = .ok (.complete h'))
    (haccept : verifyAndParse h data text expected v = .ok m)
    (haccept' : verifyAndParse h' data' text expected' v = .ok m') :
    (data.take h.metadataSize ≠ data'.take h'.metadataSize ∧
      sha256 (data.take h.metadataSize) = sha256 (data'.take h'.metadataSize)) ∨
    (data.take h.metadataSize = data'.take h'.metadataSize ∧ h = h' ∧ m = m') := by
  by_cases hrange : h.signedRange data = h'.signedRange data'
  · refine .inr ⟨hrange, ?_, ?_⟩
    · rw [header_of_signedRange hparse, header_of_signedRange hparse', hrange]
    · obtain ⟨-, hdecode⟩ := accepted_of_text htext haccept
      obtain ⟨-, hdecode'⟩ := accepted_of_text htext haccept'
      rw [hrange, hdecode'] at hdecode
      exact (Except.ok.inj hdecode).symm
  · exact .inl ⟨hrange, digest_eq_of_accepted hkeys htext haccept haccept'⟩

/-- Every payload that starts as the sample payload and is long enough is accepted with its text. -/
theorem sample_accepted (data : Bytes) (hlen : sampleHeader.totalSize ≤ data.length)
    (hsigned : sampleHeader.signedRange data = sampleSigned) :
    verifyAndParse sampleHeader data sampleText (some (sha256 sampleSigned)) sampleVerifier =
      .ok sampleManifest := by
  have hmanifest : Manifest.decode (sampleSigned.drop headerSize) = .ok sampleManifest := by
    apply eq_ok_of_toOption
    decide +kernel
  rw [verifyAndParse_eq_ok_iff, hsigned]
  exact ⟨.inr rfl, hlen, .inr ⟨by decide, sampleSignature,
    Base64.decode_eq_ok_iff.1 decode_sampleText, checkRaw_sampleSignature⟩, hmanifest⟩

/-- The sample payload and one that ends in other bytes are bound by the text that both are accepted
with. -/
theorem sample_payload_bound :
    verifyAndParse sampleHeader (sampleSigned ++ sampleContainer) sampleText
      (some (sha256 sampleSigned)) sampleVerifier = .ok sampleManifest ∧
    verifyAndParse sampleHeader (sampleSigned ++ List.replicate 80 0xff) sampleText
      (some (sha256 sampleSigned)) sampleVerifier = .ok sampleManifest ∧
    ((sampleSigned ++ sampleContainer).take 59 ≠
        (sampleSigned ++ List.replicate 80 0xff).take 59 ∧
      sha256 ((sampleSigned ++ sampleContainer).take 59) =
        sha256 ((sampleSigned ++ List.replicate 80 0xff).take 59) ∨
      (sampleSigned ++ sampleContainer).take 59 =
        (sampleSigned ++ List.replicate 80 0xff).take 59 ∧
      sampleHeader = sampleHeader ∧ sampleManifest = sampleManifest) := by
  have haccept := sample_accepted (sampleSigned ++ sampleContainer) (by decide +kernel)
    (by decide +kernel)
  have haccept' := sample_accepted (sampleSigned ++ List.replicate 80 0xff) (by decide +kernel)
    (by decide +kernel)
  refine ⟨haccept, haccept', signature_binds_manifest rfl (by decide) ?_ ?_ haccept haccept'⟩
  · apply eq_ok_of_toOption
    decide +kernel
  · apply eq_ok_of_toOption
    decide +kernel

end Payload

end SlotUpdate
