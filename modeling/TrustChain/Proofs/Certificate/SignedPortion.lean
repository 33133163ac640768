import TrustChain.Certificate
import TrustChain.Proofs.Certificate.PortionBounds
import TrustChain.Proofs.Der.Decoder
import TrustChain.Proofs.Path.Building

/-!
# The octets that are verified

A certificate is read twice: once as a whole, into its fields, and once for the octets that its
signature covers. Both readings go by headers, and a header has one spelling, so they agree about
where the signed portion starts and ends, whatever liberties the encoding takes inside it. The
portion decodes on its own to the body that is trusted, and what follows it are the algorithm and
the signature. A certificate that is made from its fields is written first, and its signed portion
is the encoding of its body.
-/

namespace TrustChain

open Der (Decoder Header encodeElement maxLength)

/-! ### Cutting out the portion -/

/-- Of an element inside another one the signed portion is exactly that element. -/
theorem signedPortion_encodeElement {outer tag : Der.Tag} {content rest : Octets}
    (hlength : (encodeElement outer (encodeElement tag content ++ rest)).length ≤ maxLength) :
    signedPortion (encodeElement outer (encodeElement tag content ++ rest)) =
      .ok (encodeElement tag content) := by
  have hcontent : (encodeElement tag content ++ rest).length ≤ maxLength := by
    rw [Der.encodeElement_eq outer, List.length_append] at hlength
    omega
  exact @signedPortion_of_element ⟨outer, _⟩ hcontent tag content rest hlength

/-! ### Certificates and their encodings -/

namespace Certificate

theorem encoding_parseExtension (c : Certificate) (type : Oid) :
    (c.parseExtension type).2.encoding = c.encoding := by
  unfold parseExtension
  split
  · rfl
  · split
    · rfl
    · split <;> rfl

theorem signed_parseExtension (c : Certificate) (type : Oid) :
    (c.parseExtension type).2.signed = c.signed := by
  unfold parseExtension
  split
  · rfl
  · split
    · rfl
    · split <;> rfl

theorem encoding_ofSignedEncoding (encoding : Octets) (signed : SignedCertificate) :
    (ofSignedEncoding encoding signed).encoding = encoding :=
  encoding_parseExtension _ _

theorem signed_ofSignedEncoding (encoding : Octets) (signed : SignedCertificate) :
    (ofSignedEncoding encoding signed).signed = signed :=
  signed_parseExtension _ _

theorem ofDer?_eq_some_iff {encoding : Octets} {c : Certificate} :
    ofDer? encoding = some c ↔
      ∃ signed, SignedCertificate.ofDer? encoding = some signed ∧
        c = ofSignedEncoding encoding signed := by
  rw [ofDer?, Option.map_eq_some_iff]
  simp only [eq_comm]

theorem signedPortion_of_eq_ok {c : Certificate} {encoding portion : Octets}
    (hencoding : c.encoding = encoding) (h : TrustChain.signedPortion encoding = .ok portion) :
    c.signedPortion = .ok portion := by
  rw [signedPortion, hencoding, h]
  rfl

end Certificate

namespace SignedCertificate

/-- An encoding that is accepted consists of three elements in a sequence, and each of them decodes
on its own to a part of the certificate. -/
theorem parts_of_ofDer? {encoding : Octets} {signed : SignedCertificate}
    (h : ofDer? encoding = some signed) :
    ∃ body algorithm signature,
      encoding = encodeElement .sequence
        (encodeElement .sequence body ++ (algorithm ++ signature)) ∧
      CertificateBody.decode.complete (encodeElement .sequence body) = some signed.body ∧
      AlgorithmIdentifier.decode.complete algorithm = some signed.algorithm ∧
      Decoder.bitString.complete signature = some signed.signature := by
  obtain ⟨-, hdecode⟩ := Decoder.complete_eq_some_iff.1 h
  obtain ⟨content, -, hencoding, hcontent⟩ := Decoder.within_eq_some_iff.1 hdecode
  rw [List.append_nil] at hencoding
  obtain ⟨hmax, hparts⟩ := Decoder.complete_eq_some_iff.1 hcontent
  obtain ⟨body, afterBody, hbody, hothers⟩ := Decoder.bind_eq_some_iff.1 hparts
  obtain ⟨algorithm, afterAlgorithm, halgorithm, hlast⟩ := Decoder.bind_eq_some_iff.1 hothers
  obtain ⟨signature, left, hsignature, hend⟩ := Decoder.bind_eq_some_iff.1 hlast
  obtain ⟨rfl, rfl⟩ := Decoder.pure_eq_some_iff.1 hend
  obtain ⟨portion, rfl, hportion⟩ := Decoder.exists_element_of_within hmax hbody
  rw [List.length_append] at hmax
  obtain ⟨middle, rfl, hmiddle⟩ := Decoder.exists_element_of_within (by omega) halgorithm
  rw [List.length_append] at hmax
  obtain ⟨final, rfl, hfinal⟩ := Decoder.exists_element_of_value (by omega) hsignature
  rw [List.append_nil] at hencoding
  exact ⟨portion, _, _, hencoding, hportion, hmiddle, hfinal⟩

theorem signedPortion_of_toDer? {signed : SignedCertificate} {encoding : Octets}
    (h : signed.toDer? = some encoding) : signedPortion encoding = .ok signed.body.encode := by
  rw [toDer?, Option.ite_none_right_eq_some, Option.some.injEq] at h
  obtain ⟨hlength, rfl⟩ := h
  have hwritten : signed.encode = encodeElement .sequence
      (signed.body.encode ++
        (signed.algorithm.encode ++ encodeElement .bitString signed.signature.content)) := by
    rw [← List.append_assoc]
    rfl
  rw [hwritten] at hlength ⊢
  exact signedPortion_encodeElement hlength

end SignedCertificate

/-- **The octets that are verified are the octets that were decoded.** Behind the outer header, an
encoding that is accepted is the signed portion followed by what the algorithm and the signature
were decoded from, and the portion decodes on its own to the body. A certificate made from its
fields has the encoding of its body for the signed portion. -/
theorem Certificate.signedPortion_is_decoded :
    (∀ encoding c, ofDer? encoding = some c →
      ∃ portion algorithm signature,
        c.signedPortion = .ok portion ∧
        encoding = Header.encode ⟨.sequence, (portion ++ (algorithm ++ signature)).length⟩ ++
          portion ++ (algorithm ++ signature) ∧
        CertificateBody.decode.complete portion = some c.body ∧
        AlgorithmIdentifier.decode.complete algorithm = some c.signed.algorithm ∧
        Decoder.bitString.complete signature = some c.signed.signature) ∧
    (∀ signed encoding, SignedCertificate.toDer? signed = some encoding →
      ∃ c, ofSigned? signed = some c ∧ c.signed = signed ∧ c.encoding = encoding ∧
        c.signedPortion = .ok signed.body.encode) := by
  constructor
  · intro encoding c h
    obtain ⟨signed, hdecoded, rfl⟩ := ofDer?_eq_some_iff.1 h
    have hlength := (Decoder.complete_eq_some_iff.1 hdecoded).1
    obtain ⟨body, algorithm, signature, rfl, hbody, halgorithm, hsignature⟩ :=
      SignedCertificate.parts_of_ofDer? hdecoded
    have hportion := signedPortion_of_eq_ok (encoding_ofSignedEncoding _ signed)
      (signedPortion_encodeElement hlength)
    rw [Certificate.body, signed_ofSignedEncoding]
    refine ⟨_, algorithm, signature, hportion, ?_, hbody, halgorithm, hsignature⟩
    rw [List.append_assoc]
    rfl
  · intro signed encoding h
    refine ⟨ofSignedEncoding encoding signed, ?_, signed_ofSignedEncoding _ _,
      encoding_ofSignedEncoding _ _, signedPortion_of_eq_ok (encoding_ofSignedEncoding _ _)
        (SignedCertificate.signedPortion_of_toDer? h)⟩
    rw [ofSigned?, h]
    rfl

/-! ### An encoding that states a default -/

namespace Sample

/-- What a certificate with one extension decodes to, the extension not being critical. -/
def extended : SignedCertificate :=
  { leaf.signed with
    body := { leaf.body with extensions := some [⟨Oid.basicConstraints, false, [0x30, 0x00]⟩] } }

/-- Such a certificate, encoded by an issuer that writes out that the extension is not critical. -/
def outspoken : Octets :=
  encodeElement .sequence
    (encodeElement .sequence
      (CertificateBody.encodeVersion .v3 ++ encodeElement .integer leaf.body.serial.content ++
        leaf.body.signature.encode ++ leaf.body.issuer.encode ++ leaf.body.validity.encode ++
        leaf.body.subject.encode ++ leaf.body.publicKey.encode ++
        encodeElement (.context true ⟨3, by decide⟩) (encodeElement .sequence
          (encodeElement .sequence
            (Oid.basicConstraints.encode ++ encodeElement .boolean (Der.encodeBool false) ++
              encodeElement .octetString [0x30, 0x00])))) ++
      (leaf.signed.algorithm.encode ++ encodeElement .bitString leaf.signed.signature.content))

theorem ofDer?_outspoken : SignedCertificate.ofDer? outspoken = some extended := by
  decide +kernel

/-- The signed portion is as the issuer wrote it, although its body would now be written otherwise.
-/
theorem signedPortion_outspoken :
    Certificate.ofDer? outspoken = some (.ofSignedEncoding outspoken extended) ∧
    (∃ portion, (Certificate.ofSignedEncoding outspoken extended).signedPortion = .ok portion ∧
      CertificateBody.decode.complete portion = some extended.body ∧
      portion ≠ extended.body.encode) ∧
    extended.toDer? = some extended.encode ∧
    ∃ c, Certificate.ofSigned? extended = some c ∧ c.signedPortion = .ok extended.body.encode := by
  have hread : Certificate.ofDer? outspoken = some (.ofSignedEncoding outspoken extended) :=
    Certificate.ofDer?_eq_some_iff.2 ⟨extended, ofDer?_outspoken, rfl⟩
  have hwritten : extended.toDer? = some extended.encode := by
    decide +kernel
  have hother : (Certificate.ofSignedEncoding outspoken extended).signedPortion ≠
      .ok extended.body.encode := by
    decide +kernel
  obtain ⟨hdecoded, hmade⟩ := Certificate.signedPortion_is_decoded
  obtain ⟨portion, -, -, hportion, -, hbody, -⟩ := hdecoded _ _ hread
  obtain ⟨c, hc, -, -, hmadePortion⟩ := hmade _ _ hwritten
  refine ⟨hread, ⟨portion, hportion, ?_, ?_⟩, hwritten, c, hc, hmadePortion⟩
  · rw [hbody, Certificate.body, Certificate.signed_ofSignedEncoding]
  · rintro rfl
    exact hother hportion

end Sample

end TrustChain
