import TrustChain.Certificate.Structure
import TrustChain.Proofs.Der.Reencoding

/-!
# A certificate that was read can be written

The decoders of a certificate are taken apart into the decoders of its parts. What an encoding may
do without being canonical is to write a default out, to put the attributes of a relative name in
another order and to carry fields that have no place, and none of this makes it shorter. A decoded
certificate is therefore encoded in no more octets than it was read from, so that its encoding is
not too long.
-/

namespace TrustChain

open Der Der.Decoder

theorem Oid.contracts_decode : Oid.decode.Contracts Oid.encode := by
  refine contracts_value Oid.content _ fun content oid h => ?_
  unfold Oid.ofContent? at h
  split at h
  · obtain rfl := Option.some.inj h
    exact Nat.le_refl _
  · cases h

theorem AlgorithmIdentifier.contracts_decode :
    AlgorithmIdentifier.decode.Contracts AlgorithmIdentifier.encode := by
  refine contracts_within (fun id : AlgorithmIdentifier => id.algorithm.encode ++
    (id.parameters.map Element.encode).getD []) .sequence ?_
  intro input rest id h
  obtain ⟨algorithm, left, halgorithm, h⟩ := Oid.contracts_decode.bind h
  obtain ⟨parameters, left', hparameters, h⟩ := (contracts_element.optional _).bind h
  obtain ⟨rfl, rfl⟩ := pure_eq_some_iff.1 h
  simp only [List.length_append]
  omega

/-! ### Values of primitive types -/

theorem contracts_bitString_value (tag : Tag) :
    (value tag BitString.ofContent?).Contracts fun bits => encodeElement tag bits.content := by
  refine contracts_value BitString.content _ fun content bits h => ?_
  unfold BitString.ofContent? at h
  split at h
  · cases h
  · split at h
    · obtain rfl := Option.some.inj h
      exact Nat.le_refl _
    · cases h

theorem contracts_bool :
    (value .boolean bool?).Contracts fun b => encodeElement .boolean (encodeBool b) := by
  refine contracts_value encodeBool _ fun content b h => ?_
  unfold bool? at h
  split at h
  · exact Nat.le_refl _
  · exact Nat.le_refl _
  · cases h

theorem Version.contracts_value : (value .integer Version.ofContent?).Contracts
    fun version => encodeElement .integer (encodeOctet version.toOctet) := by
  refine Der.Decoder.contracts_value (fun version : Version => encodeOctet version.toOctet) .integer
    fun content version h => ?_
  have hone : (encodeOctet version.toOctet).length = 1 := by cases version <;> rfl
  match content with
  | [] => simp [Version.ofContent?, octet?, natural?] at h
  | first :: octets =>
      rw [hone, List.length_cons]
      omega

theorem SerialNumber.contracts_value : (value .integer SerialNumber.ofContent?).Contracts
    fun serial => encodeElement .integer serial.content := by
  refine Der.Decoder.contracts_value SerialNumber.content _ fun content serial h => ?_
  unfold SerialNumber.ofContent? at h
  split at h
  · obtain rfl := Option.some.inj h
    exact Nat.le_refl _
  · cases h

/-! ### Times -/

namespace Time

theorem length_asciiDigits (width n : Nat) : (asciiDigits width n).length = width := by
  induction width generalizing n with
  | zero => rfl
  | succ width ih => rw [asciiDigits, List.length_append, ih, List.length_singleton]

theorem inYear?_eq_some {year : Nat} {shortYear : Bool} {octets : Octets} {t : Time}
    (h : inYear? year shortYear octets = some t) :
    t.shortYear = shortYear ∧ octets.length = 11 := by
  unfold inYear? at h
  split at h
  · simp only [Option.bind_eq_bind, Option.bind_eq_some_iff] at h
    obtain ⟨month, -, day, -, hour, -, minute, -, second, -, h⟩ := h
    split at h
    · split at h
      · obtain rfl := Option.some.inj h
        exact ⟨rfl, rfl⟩
      · cases h
    · cases h
  · cases h

theorem ofUtc?_eq_some {octets : Octets} {t : Time} (h : ofUtc? octets = some t) :
    t.shortYear = true ∧ octets.length = 13 := by
  unfold ofUtc? at h
  split at h
  · simp only [Option.bind_eq_bind, Option.bind_eq_some_iff] at h
    obtain ⟨yy, -, h⟩ := h
    obtain ⟨hshort, hlength⟩ := inYear?_eq_some h
    exact ⟨hshort, congrArg (· + 2) hlength⟩
  · cases h

theorem ofGeneralized?_eq_some {octets : Octets} {t : Time} (h : ofGeneralized? octets = some t) :
    t.shortYear = false ∧ octets.length = 15 := by
  unfold ofGeneralized? at h
  split at h
  · simp only [Option.bind_eq_bind, Option.bind_eq_some_iff] at h
    obtain ⟨century, -, year, -, h⟩ := h
    obtain ⟨hshort, hlength⟩ := inYear?_eq_some h
    exact ⟨hshort, congrArg (· + 4) hlength⟩
  · cases h

theorem encode_eq (t : Time) : ∃ digits : Octets,
    digits.length = (if t.shortYear then 13 else 15) ∧
      t.encode = encodeElement (if t.shortYear then .utcTime else .generalizedTime) digits := by
  refine ⟨_, ?_, rfl⟩
  cases t.shortYear <;>
    simp only [List.length_append, length_asciiDigits, if_true, if_false, Bool.false_eq_true,
      List.length_singleton]

theorem length_encode_of_ofElement? {e : Element} {t : Time} (h : ofElement? e = some t) :
    t.encode.length = e.encode.length := by
  obtain ⟨digits, hdigits, hencode⟩ := t.encode_eq
  rw [hencode, Element.encode]
  unfold ofElement? at h
  split at h
  · rename_i htag
    obtain ⟨hshort, hcontent⟩ := ofUtc?_eq_some h
    rw [hshort, if_pos rfl] at hdigits ⊢
    rw [htag, length_encodeElement, length_encodeElement, hdigits, hcontent]
  · rename_i htag
    obtain ⟨hshort, hcontent⟩ := ofGeneralized?_eq_some h
    rw [hshort, if_neg Bool.false_ne_true] at hdigits ⊢
    rw [htag, length_encodeElement, length_encodeElement, hdigits, hcontent]
  · cases h

theorem contracts_decode : Time.decode.Contracts Time.encode := by
  intro input rest t hdecode
  obtain ⟨e, helement, hread⟩ := (bind_elim_eq_some_iff (f := ofElement?)
    fun e => by cases ofElement? e <;> rfl).1 hdecode
  obtain ⟨-, rfl⟩ := element_eq_some_iff.1 helement
  have hlength : t.encode.length + rest.length = (e.encode ++ rest).length := by
    rw [List.length_append, length_encode_of_ofElement? hread]
  exact Nat.le_of_eq hlength

end Time

theorem Validity.contracts_decode : Validity.decode.Contracts Validity.encode := by
  refine contracts_within (fun validity : Validity => validity.notBefore.encode ++
    validity.notAfter.encode) .sequence ?_
  intro input rest validity h
  obtain ⟨notBefore, left, hbefore, h⟩ := Time.contracts_decode.bind h
  obtain ⟨notAfter, left', hafter, h⟩ := Time.contracts_decode.bind h
  obtain ⟨rfl, rfl⟩ := pure_eq_some_iff.1 h
  simp only [List.length_append]
  omega

/-! ### Names -/

theorem Attribute.contracts_decode : Attribute.decode.Contracts Attribute.encode := by
  refine contracts_within (fun attr : Attribute => attr.type.encode ++ attr.value.encode)
    .sequence ?_
  intro input rest attr h
  obtain ⟨type, left, htype, h⟩ := Oid.contracts_decode.bind h
  obtain ⟨value, left', hvalue, h⟩ := contracts_element.bind h
  obtain ⟨rfl, rfl⟩ := pure_eq_some_iff.1 h
  simp only [List.length_append]
  omega

/-- Attributes that are put in order take as many octets as before. -/
theorem RelativeName.length_of_ofAttributes? {attributes : List Attribute} {relative : RelativeName}
    (h : ofAttributes? attributes = some relative) :
    (relative.attributes.flatMap Attribute.encode).length =
      (attributes.flatMap Attribute.encode).length := by
  unfold ofAttributes? at h
  dsimp only at h
  split at h
  · obtain rfl := Option.some.inj h
    exact ((List.mergeSort_perm _ _).flatMap_right Attribute.encode).length_eq
  · cases h

theorem RelativeName.contracts_decode : RelativeName.decode.Contracts RelativeName.encode := by
  intro input rest relative h
  obtain ⟨attributes, hlist, hordered⟩ := (bind_elim_eq_some_iff (f := ofAttributes?)
    fun attributes => by cases ofAttributes? attributes <;> rfl).1 h
  have hle := Attribute.contracts_decode.listOf .set hlist
  dsimp only at hle
  have hsorted := length_encodeElement_le .set (Nat.le_of_eq (length_of_ofAttributes? hordered))
  rw [RelativeName.encode]
  omega

theorem Name.contracts_decode : Name.decode.Contracts Name.encode := by
  intro input rest name h
  obtain ⟨relatives, left, hlist, h⟩ := (RelativeName.contracts_decode.listOf .sequence).bind h
  obtain ⟨rfl, rfl⟩ := pure_eq_some_iff.1 h
  exact hlist

/-! ### Keys and extensions -/

theorem PublicKeyInfo.contracts_decode : PublicKeyInfo.decode.Contracts PublicKeyInfo.encode := by
  refine contracts_within (fun info : PublicKeyInfo => info.algorithm.encode ++
    encodeElement .bitString info.key.content) .sequence ?_
  intro input rest info h
  obtain ⟨algorithm, left, halgorithm, h⟩ := AlgorithmIdentifier.contracts_decode.bind h
  obtain ⟨key, left', hkey, h⟩ := (contracts_bitString_value .bitString).bind h
  obtain ⟨rfl, rfl⟩ := pure_eq_some_iff.1 h
  simp only [List.length_append]
  omega

theorem Extension.length_critical_le (critical : Option Bool) :
    (if critical.getD false then encodeElement .boolean (encodeBool true) else []).length ≤
      ((critical.map fun b => encodeElement .boolean (encodeBool b)).getD []).length := by
  match critical with
  | none => exact Nat.le_refl _
  | some true => exact Nat.le_refl _
  | some false => exact Nat.zero_le _

theorem Extension.contracts_decode : Extension.decode.Contracts Extension.encode := by
  refine contracts_within (fun extension : Extension => extension.type.encode ++
    (if extension.critical then encodeElement .boolean (encodeBool true) else []) ++
    encodeElement .octetString extension.value) .sequence ?_
  intro input rest extension h
  obtain ⟨type, left, htype, h⟩ := Oid.contracts_decode.bind h
  obtain ⟨critical, left', hcritical, h⟩ := (contracts_bool.optional _).bind h
  obtain ⟨value, left'', hvalue, h⟩ := (contracts_content .octetString).bind h
  obtain ⟨rfl, rfl⟩ := pure_eq_some_iff.1 h
  have hle := length_critical_le critical
  simp only [List.length_append]
  omega

/-! ### Certificates -/

namespace CertificateBody

theorem length_encodeVersion_le (version : Option Version) :
    (encodeVersion (version.getD .v1)).length ≤
      ((version.map fun v => encodeElement (.context true 0)
        (encodeElement .integer (encodeOctet v.toOctet))).getD []).length := by
  match version with
  | none => exact Nat.le_refl _
  | some .v1 => exact Nat.zero_le _
  | some .v2 => exact Nat.le_refl _
  | some .v3 => exact Nat.le_refl _

theorem encodeUniqueId_eq (n : Fin 31) (id : Option BitString) : encodeUniqueId n id =
    (id.map fun bits => encodeElement (.context false n) bits.content).getD [] := by
  cases id <;> rfl

theorem encodeExtensions_eq (extensions : Option (List Extension)) : encodeExtensions extensions =
    (extensions.map fun extensions => encodeElement (.context true 3)
      (encodeElement .sequence (extensions.flatMap Extension.encode))).getD [] := by
  cases extensions <;> rfl

theorem contracts_decode : CertificateBody.decode.Contracts CertificateBody.encode := by
  refine contracts_within (fun body : CertificateBody => encodeVersion body.version ++
    encodeElement .integer body.serial.content ++ body.signature.encode ++ body.issuer.encode ++
    body.validity.encode ++ body.subject.encode ++ body.publicKey.encode ++
    encodeUniqueId 1 body.issuerId ++ encodeUniqueId 2 body.subjectId ++
    encodeExtensions body.extensions) .sequence ?_
  intro input rest body h
  have hversion := (contracts_within _ (.context true 0) Version.contracts_value).field 0
  have hextensions :=
    (contracts_within _ (.context true 3) (Extension.contracts_decode.listOf .sequence)).field 3
  obtain ⟨version, left₁, h₁, h⟩ := hversion.bind h
  obtain ⟨serial, left₂, h₂, h⟩ := SerialNumber.contracts_value.bind h
  obtain ⟨signature, left₃, h₃, h⟩ := AlgorithmIdentifier.contracts_decode.bind h
  obtain ⟨issuer, left₄, h₄, h⟩ := Name.contracts_decode.bind h
  obtain ⟨validity, left₅, h₅, h⟩ := Validity.contracts_decode.bind h
  obtain ⟨subject, left₆, h₆, h⟩ := Name.contracts_decode.bind h
  obtain ⟨publicKey, left₇, h₇, h⟩ := PublicKeyInfo.contracts_decode.bind h
  obtain ⟨issuerId, left₈, h₈, h⟩ := ((contracts_bitString_value _).field 1).bind h
  obtain ⟨subjectId, left₉, h₉, h⟩ := ((contracts_bitString_value _).field 2).bind h
  obtain ⟨extensions, left, h₁₀, h⟩ := hextensions.bind h
  obtain ⟨rfl, rfl⟩ := pure_eq_some_iff.1 h
  have hfirst := length_encodeVersion_le version
  rw [← encodeUniqueId_eq] at h₈ h₉
  rw [← encodeExtensions_eq] at h₁₀
  simp only [List.length_append]
  omega

end CertificateBody

namespace SignedCertificate

theorem contracts_decode : SignedCertificate.decode.Contracts SignedCertificate.encode := by
  refine contracts_within (fun signed : SignedCertificate => signed.body.encode ++
    signed.algorithm.encode ++ encodeElement .bitString signed.signature.content) .sequence ?_
  intro input rest signed h
  obtain ⟨body, left₁, hbody, h⟩ := CertificateBody.contracts_decode.bind h
  obtain ⟨algorithm, left₂, halgorithm, h⟩ := AlgorithmIdentifier.contracts_decode.bind h
  obtain ⟨signature, left₃, hsignature, h⟩ := (contracts_bitString_value .bitString).bind h
  obtain ⟨rfl, rfl⟩ := pure_eq_some_iff.1 h
  simp only [List.length_append]
  omega

end SignedCertificate

end TrustChain
