import TrustChain.Crypto.Verification
import TrustChain.Proofs.Certificate.Reencoding
import Mathlib.Data.List.Basic

/-!
# Whether a signature can be evaluated

The lists that the stages of verification keep agree with the table of supported algorithms, so an
algorithm that the first stage lets pass is known to all later ones. What is left to go wrong is the
algorithm itself, the curve that the key names, and the reading of the key. None of these looks at
the message or the signature: for an algorithm and a key, either all signatures can be evaluated or
all fail with the same error.

An RSA key is read from an encoding that is made for it, and a key can be too long for that. It
cannot have been read from anything then, so that the keys of certificates are not concerned.
-/

namespace TrustChain.Crypto

/-! ### The lists of algorithms -/

/-- A table entry for an algorithm. -/
def Names (algorithm : Oid) (scheme : SignatureScheme) : Prop :=
  (algorithm, scheme) ∈ SignatureScheme.table

instance (algorithm : Oid) (scheme : SignatureScheme) : Decidable (Names algorithm scheme) :=
  inferInstanceAs (Decidable (_ ∈ SignatureScheme.table))

variable {algorithm : Oid} {key : PublicKeyInfo} {hash : HashFunction}

theorem KeyFamily.mem_algorithms_iff {family : KeyFamily} :
    algorithm ∈ family.algorithms ↔ ∃ hash, Names algorithm ⟨family, hash⟩ := by
  have hlisted : ∀ entry ∈ SignatureScheme.table,
      entry.2.family = family → entry.1 ∈ family.algorithms := by
    cases family <;> decide
  have hnamed : ∀ other ∈ family.algorithms, ∃ entry ∈ SignatureScheme.table,
      entry.1 = other ∧ entry.2.family = family := by
    cases family <;> decide
  constructor
  · intro h
    obtain ⟨⟨_, ⟨_, hash⟩⟩, hmem, rfl, rfl⟩ := hnamed algorithm h
    exact ⟨hash, hmem⟩
  · rintro ⟨hash, h⟩
    exact hlisted _ h rfl

theorem Names.mem_algorithms {scheme : SignatureScheme} (h : Names algorithm scheme) :
    algorithm ∈ scheme.family.algorithms :=
  KeyFamily.mem_algorithms_iff.2 ⟨scheme.hash, h⟩

theorem KeyFamily.notMem_rsa_algorithms (h : algorithm ∈ KeyFamily.ecdsa.algorithms) :
    algorithm ∉ KeyFamily.rsa.algorithms := by
  have hapart : ∀ other ∈ KeyFamily.ecdsa.algorithms, other ∉ KeyFamily.rsa.algorithms := by decide
  exact hapart algorithm h

theorem Names.hashIn_digestHashes {scheme : SignatureScheme} (h : Names algorithm scheme) :
    hashIn digestHashes algorithm = .ok scheme.hash := by
  have hlisted : ∀ entry ∈ SignatureScheme.table,
      hashIn digestHashes entry.1 = .ok entry.2.hash := by
    decide
  exact hlisted _ h

theorem Names.digest_eq {scheme : SignatureScheme} (h : Names algorithm scheme) (message : Octets) :
    digest algorithm message = .ok (scheme.hash.digest message) := by
  rw [digest, h.hashIn_digestHashes, Except.map]

theorem Names.hashIn_paddingHashes (h : Names algorithm ⟨.rsa, hash⟩) :
    hashIn paddingHashes algorithm = .ok hash := by
  have hlisted : ∀ entry ∈ SignatureScheme.table, entry.2.family = .rsa →
      hashIn paddingHashes entry.1 = .ok entry.2.hash := by
    decide
  exact hlisted _ h rfl

/-! ### What an algorithm and a key determine -/

/-- The identifier that keys of a family carry. -/
def KeyFamily.identifier : KeyFamily → Oid
  | rsa => Oid.rsaEncryption
  | ecdsa => Oid.ecPublicKey

/-- The curve that a key names in its parameters. -/
def OnCurve (key : PublicKeyInfo) (name : Oid) : Prop :=
  key.algorithm.parameters = some ⟨.objectIdentifier, name.content⟩

/-- The algorithm, or the curve of a key for it, is not one of those implemented. -/
inductive Unsupported (algorithm : Oid) (key : PublicKeyInfo) : Prop where
  | algorithm (hunnamed : ∀ scheme, ¬ Names algorithm scheme)
  | curve {hash : HashFunction} {name : Oid} (hscheme : Names algorithm ⟨.ecdsa, hash⟩)
      (hfamily : key.algorithm.algorithm = Oid.ecPublicKey) (hname : OnCurve key name)
      (hp256 : name ≠ Oid.secp256r1) (hp384 : name ≠ Oid.secp384r1)

/-- The algorithm and the key are for RSA, and the key is too long to be encoded. -/
structure Oversized (algorithm : Oid) (key : PublicKeyInfo) : Prop where
  scheme : ∃ hash, Names algorithm ⟨.rsa, hash⟩
  family : key.algorithm.algorithm = Oid.rsaEncryption
  toDer? : key.toDer? = none

/-- The key is of the family of the algorithm, and cannot be read. -/
inductive Unreadable (algorithm : Oid) (key : PublicKeyInfo) : Prop where
  | rsaKey {hash : HashFunction} (hscheme : Names algorithm ⟨.rsa, hash⟩)
      (hfamily : key.algorithm.algorithm = Oid.rsaEncryption) (hencodes : key.toDer? ≠ none)
      (hkey : ∀ read, Rsa.PublicKey.ofInfo key ≠ .ok read)
  | curveName {hash : HashFunction} (hscheme : Names algorithm ⟨.ecdsa, hash⟩)
      (hfamily : key.algorithm.algorithm = Oid.ecPublicKey)
      (hunnamed : ∀ name, ¬ OnCurve key name)
  | point {hash : HashFunction} {name : Oid} {curve : Curve}
      (hscheme : Names algorithm ⟨.ecdsa, hash⟩)
      (hfamily : key.algorithm.algorithm = Oid.ecPublicKey) (hname : OnCurve key name)
      (hcurve : Curve.ofOid? name = some curve) (hpoint : curve.ofOctets? key.key.octets = none)

/-- The key is of a family other than that of the algorithm. -/
def OfOtherFamily (algorithm : Oid) (key : PublicKeyInfo) : Prop :=
  ∃ scheme, Names algorithm scheme ∧ key.algorithm.algorithm ≠ scheme.family.identifier

/-- The algorithm is for RSA with the given hash function, and the key reads as `read`. -/
structure ReadsRsa (algorithm : Oid) (key : PublicKeyInfo) (hash : HashFunction)
    (read : Rsa.PublicKey) : Prop where
  scheme : Names algorithm ⟨.rsa, hash⟩
  family : key.algorithm.algorithm = Oid.rsaEncryption
  encodes : key.toDer? ≠ none
  key_eq : Rsa.PublicKey.ofInfo key = .ok read

/-- The algorithm is for ECDSA with the given hash function, and the key reads as a point of a
curve. -/
structure ReadsEcdsa (algorithm : Oid) (key : PublicKeyInfo) (hash : HashFunction) (curve : Curve)
    (point : Curve.Point) : Prop where
  scheme : Names algorithm ⟨.ecdsa, hash⟩
  family : key.algorithm.algorithm = Oid.ecPublicKey
  onCurve : ∃ name, OnCurve key name ∧ Curve.ofOid? name = some curve
  point_eq : curve.ofOctets? key.key.octets = some point

theorem namedCurve?_eq_some_iff {name : Oid} :
    namedCurve? key.algorithm = some name ↔ OnCurve key name := by
  have hcontent : ∀ content, Oid.ofContent? content = some name ↔ content = name.content := by
    intro content
    unfold Oid.ofContent?
    constructor
    · intro h
      split at h
      · exact congrArg Oid.content (Option.some.inj h)
      · cases h
    · rintro rfl
      rw [dif_pos name.wellFormed]
  unfold namedCurve? OnCurve
  split
  · rename_i content hparameters
    rw [hcontent, hparameters]
    simp
  · rename_i hother
    refine iff_of_false (fun h => ?_) (hother name.content)
    cases h

theorem ofOid?_eq_none_iff {name : Oid} :
    Curve.ofOid? name = none ↔ name ≠ Oid.secp256r1 ∧ name ≠ Oid.secp384r1 := by
  have hne : Oid.secp384r1 ≠ Oid.secp256r1 := by decide
  unfold Curve.ofOid?
  by_cases hp256 : name = Oid.secp256r1
  · simp [hp256]
  · by_cases hp384 : name = Oid.secp384r1
    · simp [hp384, hne]
    · simp [hp256, hp384]

/-! ### The value of an evaluation -/

section Value

variable {query : SignatureQuery}

theorem value_verifySignature_of_unnamed
    (h : ∀ scheme, ¬ Names query.algorithm.algorithm scheme) :
    (verifySignature query).value = .error .unrecognized := by
  have hmissing : ∀ family : KeyFamily, query.algorithm.algorithm ∉ family.algorithms := by
    intro family hmem
    obtain ⟨hash, hnames⟩ := KeyFamily.mem_algorithms_iff.1 hmem
    exact h _ hnames
  unfold verifySignature
  rw [if_neg (hmissing .rsa), if_neg (hmissing .ecdsa)]
  rfl

theorem Names.verifySignature_rsa (h : Names query.algorithm.algorithm ⟨.rsa, hash⟩) :
    verifySignature query = verifyRsa query := by
  unfold verifySignature
  rw [if_pos h.mem_algorithms]

theorem Names.verifySignature_ecdsa (h : Names query.algorithm.algorithm ⟨.ecdsa, hash⟩) :
    verifySignature query = verifyEcdsa query := by
  unfold verifySignature
  rw [if_neg (KeyFamily.notMem_rsa_algorithms h.mem_algorithms), if_pos h.mem_algorithms]

/-- Once the algorithm is known, an RSA key decides whether there is an answer. -/
theorem Names.value_verifyRsa (h : Names query.algorithm.algorithm ⟨.rsa, hash⟩)
    (hfamily : query.key.algorithm.algorithm = Oid.rsaEncryption)
    (hencodes : query.key.toDer? ≠ none) :
    (verifyRsa query).value =
      match Rsa.PublicKey.ofInfo query.key with
      | .error _ => .error .parse
      | .ok key =>
        .ok (.ofBool (Rsa.verify key hash (hash.digest query.message) query.signature)) := by
  unfold verifyRsa
  rw [if_neg (not_not.2 hfamily), if_neg hencodes, h.digest_eq, h.hashIn_paddingHashes]
  cases Rsa.PublicKey.ofInfo query.key with
  | error problem => rfl
  | ok key => rfl

theorem Names.value_verifyEcdsa (h : Names query.algorithm.algorithm ⟨.ecdsa, hash⟩)
    (hfamily : query.key.algorithm.algorithm = Oid.ecPublicKey) :
    (verifyEcdsa query).value =
      match namedCurve? query.key.algorithm with
      | none => .error .parse
      | some name =>
        match Curve.ofOid? name with
        | none => .error .unrecognized
        | some curve =>
          match curve.ofOctets? query.key.key.octets with
          | none => .error .parse
          | some point =>
            match Ecdsa.Signature.ofDer? curve query.signature with
            | none => .ok .invalid
            | some signature =>
              .ok (.ofBool (Ecdsa.verify curve point (hash.digest query.message) signature)) := by
  unfold verifyEcdsa
  rw [if_neg (not_not.2 hfamily), h.digest_eq]
  cases namedCurve? query.key.algorithm with
  | none => rfl
  | some name =>
      dsimp only
      cases Curve.ofOid? name with
      | none => rfl
      | some curve =>
          dsimp only
          cases curve.ofOctets? query.key.key.octets with
          | none => rfl
          | some point =>
              dsimp only
              cases Ecdsa.Signature.ofDer? curve query.signature <;> rfl

theorem Unsupported.value_verifySignature
    (h : Unsupported query.algorithm.algorithm query.key) :
    (verifySignature query).value = .error .unrecognized := by
  cases h with
  | algorithm hunnamed => exact value_verifySignature_of_unnamed hunnamed
  | curve hscheme hfamily hname hp256 hp384 =>
      rw [hscheme.verifySignature_ecdsa, hscheme.value_verifyEcdsa hfamily,
        namedCurve?_eq_some_iff.2 hname]
      dsimp only
      rw [ofOid?_eq_none_iff.2 ⟨hp256, hp384⟩]

theorem Oversized.value_verifySignature (h : Oversized query.algorithm.algorithm query.key) :
    (verifySignature query).value = .error (.asn1 (.unplaced .overflow)) := by
  obtain ⟨hash, hscheme⟩ := h.scheme
  rw [hscheme.verifySignature_rsa, verifyRsa, if_neg (not_not.2 h.family), if_pos h.toDer?]
  rfl

theorem Unreadable.value_verifySignature (h : Unreadable query.algorithm.algorithm query.key) :
    (verifySignature query).value = .error .parse := by
  cases h with
  | rsaKey hscheme hfamily hencodes hkey =>
      rw [hscheme.verifySignature_rsa, hscheme.value_verifyRsa hfamily hencodes]
      cases hread : Rsa.PublicKey.ofInfo query.key with
      | error problem => rfl
      | ok read => exact absurd hread (hkey read)
  | curveName hscheme hfamily hunnamed =>
      have hnone : namedCurve? query.key.algorithm = none := by
        rw [Option.eq_none_iff_forall_ne_some]
        exact fun name hname => hunnamed name (namedCurve?_eq_some_iff.1 hname)
      rw [hscheme.verifySignature_ecdsa, hscheme.value_verifyEcdsa hfamily, hnone]
  | point hscheme hfamily hname hcurve hpoint =>
      rw [hscheme.verifySignature_ecdsa, hscheme.value_verifyEcdsa hfamily,
        namedCurve?_eq_some_iff.2 hname]
      dsimp only
      rw [hcurve]
      dsimp only
      rw [hpoint]

theorem OfOtherFamily.value_verifySignature
    (h : OfOtherFamily query.algorithm.algorithm query.key) :
    (verifySignature query).value = .ok .invalid := by
  obtain ⟨⟨family, hash⟩, hscheme, hfamily⟩ := h
  cases family with
  | rsa =>
      have hother : query.key.algorithm.algorithm ≠ Oid.rsaEncryption := hfamily
      rw [hscheme.verifySignature_rsa, verifyRsa, if_pos hother]
      rfl
  | ecdsa =>
      have hother : query.key.algorithm.algorithm ≠ Oid.ecPublicKey := hfamily
      rw [hscheme.verifySignature_ecdsa, verifyEcdsa, if_pos hother]
      rfl

theorem ReadsRsa.value_verifySignature {read : Rsa.PublicKey}
    (h : ReadsRsa query.algorithm.algorithm query.key hash read) :
    (verifySignature query).value =
      .ok (.ofBool (Rsa.verify read hash (hash.digest query.message) query.signature)) := by
  rw [h.scheme.verifySignature_rsa, h.scheme.value_verifyRsa h.family h.encodes, h.key_eq]

theorem ReadsEcdsa.value_verifySignature {curve : Curve} {point : Curve.Point}
    (h : ReadsEcdsa query.algorithm.algorithm query.key hash curve point) :
    (verifySignature query).value =
      match Ecdsa.Signature.ofDer? curve query.signature with
      | none => .ok .invalid
      | some signature =>
        .ok (.ofBool (Ecdsa.verify curve point (hash.digest query.message) signature)) := by
  obtain ⟨name, hname, hcurve⟩ := h.onCurve
  rw [h.scheme.verifySignature_ecdsa, h.scheme.value_verifyEcdsa h.family,
    namedCurve?_eq_some_iff.2 hname]
  dsimp only
  rw [hcurve]
  dsimp only
  rw [h.point_eq]

end Value

/-! ### Good and bad signatures -/

/-- The primitive of the algorithm accepts the digest of the message under the hash function that
the algorithm names. -/
inductive Accepts (algorithm : Oid) (key : PublicKeyInfo) (message signature : Octets) : Prop where
  | rsa {hash : HashFunction} {read : Rsa.PublicKey} (hkey : ReadsRsa algorithm key hash read)
      (hgood : Rsa.verify read hash (hash.digest message) signature = true)
  | ecdsa {hash : HashFunction} {curve : Curve} {point : Curve.Point} {decoded : Ecdsa.Signature}
      (hkey : ReadsEcdsa algorithm key hash curve point)
      (hdecoded : Ecdsa.Signature.ofDer? curve signature = some decoded)
      (hgood : Ecdsa.verify curve point (hash.digest message) decoded = true)

/-- The signature is not one for the key: it is not as long as the modulus of an RSA key or not
below it, or it is not the encoding of two numbers below the order of the curve. -/
inductive Malformed (algorithm : Oid) (key : PublicKeyInfo) (signature : Octets) : Prop where
  | rsa {hash : HashFunction} {read : Rsa.PublicKey} (hkey : ReadsRsa algorithm key hash read)
      (hsize : signature.length ≠ read.size ∨ read.modulus ≤ Octets.toNat signature)
  | ecdsa {hash : HashFunction} {curve : Curve} {point : Curve.Point}
      (hkey : ReadsEcdsa algorithm key hash curve point)
      (hnone : Ecdsa.Signature.ofDer? curve signature = none)

/-- Why a signature that can be evaluated is not good. -/
inductive Rejects (algorithm : Oid) (key : PublicKeyInfo) (message signature : Octets) : Prop where
  | otherFamily (hother : OfOtherFamily algorithm key)
  | malformed (hmalformed : Malformed algorithm key signature)
  | rsa {hash : HashFunction} {read : Rsa.PublicKey} (hkey : ReadsRsa algorithm key hash read)
      (hbad : Rsa.verify read hash (hash.digest message) signature = false)
  | ecdsa {hash : HashFunction} {curve : Curve} {point : Curve.Point} {decoded : Ecdsa.Signature}
      (hkey : ReadsEcdsa algorithm key hash curve point)
      (hdecoded : Ecdsa.Signature.ofDer? curve signature = some decoded)
      (hbad : Ecdsa.verify curve point (hash.digest message) decoded = false)

/-- The answer to a query. The errors do not depend on the message and the signature. -/
inductive Verdict (algorithm : Oid) (key : PublicKeyInfo) (message signature : Octets) :
    Except Error SignatureStatus → Prop where
  | unsupported (h : Unsupported algorithm key) :
      Verdict algorithm key message signature (.error .unrecognized)
  | oversized (h : Oversized algorithm key) :
      Verdict algorithm key message signature (.error (.asn1 (.unplaced .overflow)))
  | unreadable (h : Unreadable algorithm key) :
      Verdict algorithm key message signature (.error .parse)
  | valid (h : Accepts algorithm key message signature) :
      Verdict algorithm key message signature (.ok .valid)
  | invalid (h : Rejects algorithm key message signature) :
      Verdict algorithm key message signature (.ok .invalid)

section Verdict

variable {query : SignatureQuery}

theorem Accepts.value_verifySignature
    (h : Accepts query.algorithm.algorithm query.key query.message query.signature) :
    (verifySignature query).value = .ok .valid := by
  cases h with
  | rsa hkey hgood =>
      rw [hkey.value_verifySignature, hgood]
      rfl
  | ecdsa hkey hdecoded hgood =>
      rw [hkey.value_verifySignature, hdecoded]
      dsimp only
      rw [hgood]
      rfl

theorem Rsa.verify_eq_false {read : Rsa.PublicKey} {digest signature : Octets}
    (h : signature.length ≠ read.size ∨ read.modulus ≤ Octets.toNat signature) :
    Rsa.verify read hash digest signature = false := by
  unfold Rsa.verify
  rcases h with hlength | hbound
  · simp [hlength]
  · simp [Nat.not_lt.2 hbound]

theorem Malformed.value_verifySignature
    (h : Malformed query.algorithm.algorithm query.key query.signature) :
    (verifySignature query).value = .ok .invalid := by
  cases h with
  | rsa hkey hsize =>
      rw [hkey.value_verifySignature, Rsa.verify_eq_false hsize]
      rfl
  | ecdsa hkey hnone => rw [hkey.value_verifySignature, hnone]

theorem Rejects.value_verifySignature
    (h : Rejects query.algorithm.algorithm query.key query.message query.signature) :
    (verifySignature query).value = .ok .invalid := by
  cases h with
  | otherFamily hother => exact hother.value_verifySignature
  | malformed hmalformed => exact hmalformed.value_verifySignature
  | rsa hkey hbad =>
      rw [hkey.value_verifySignature, hbad]
      rfl
  | ecdsa hkey hdecoded hbad =>
      rw [hkey.value_verifySignature, hdecoded]
      dsimp only
      rw [hbad]
      rfl

theorem ReadsRsa.exists_verdict {algorithm : Oid} {key : PublicKeyInfo} {hash : HashFunction}
    {read : Rsa.PublicKey} (h : ReadsRsa algorithm key hash read) (message signature : Octets) :
    ∃ answer, Verdict algorithm key message signature answer := by
  cases hgood : Rsa.verify read hash (hash.digest message) signature with
  | true => exact ⟨_, .valid (.rsa h hgood)⟩
  | false => exact ⟨_, .invalid (.rsa h hgood)⟩

theorem ReadsEcdsa.exists_verdict {algorithm : Oid} {key : PublicKeyInfo} {hash : HashFunction}
    {curve : Curve} {point : Curve.Point} (h : ReadsEcdsa algorithm key hash curve point)
    (message signature : Octets) : ∃ answer, Verdict algorithm key message signature answer := by
  cases hdecoded : Ecdsa.Signature.ofDer? curve signature with
  | none => exact ⟨_, .invalid (.malformed (.ecdsa h hdecoded))⟩
  | some decoded =>
      cases hgood : Ecdsa.verify curve point (hash.digest message) decoded with
      | true => exact ⟨_, .valid (.ecdsa h hdecoded hgood)⟩
      | false => exact ⟨_, .invalid (.ecdsa h hdecoded hgood)⟩

/-- The cases are those in which an evaluation stops early. In none of them does it matter what is
signed. -/
theorem exists_verdict (algorithm : Oid) (key : PublicKeyInfo) (message signature : Octets) :
    ∃ answer, Verdict algorithm key message signature answer := by
  by_cases hnamed : ∃ scheme, Names algorithm scheme
  · obtain ⟨⟨family, hash⟩, hscheme⟩ := hnamed
    by_cases hfamily : key.algorithm.algorithm = family.identifier
    · cases family with
      | rsa =>
          by_cases hlong : key.toDer? = none
          · exact ⟨_, .oversized ⟨⟨hash, hscheme⟩, hfamily, hlong⟩⟩
          · cases hkey : Rsa.PublicKey.ofInfo key with
            | error problem =>
                have hunreadable : Unreadable algorithm key :=
                  .rsaKey hscheme hfamily hlong fun read hread => by simp [hkey] at hread
                exact ⟨_, .unreadable hunreadable⟩
            | ok read =>
                exact ReadsRsa.exists_verdict ⟨hscheme, hfamily, hlong, hkey⟩ message signature
      | ecdsa =>
          by_cases hcurve : ∃ name, OnCurve key name
          · obtain ⟨name, hname⟩ := hcurve
            cases hof : Curve.ofOid? name with
            | none =>
                obtain ⟨hp256, hp384⟩ := ofOid?_eq_none_iff.1 hof
                exact ⟨_, .unsupported (.curve hscheme hfamily hname hp256 hp384)⟩
            | some curve =>
                cases hpoint : curve.ofOctets? key.key.octets with
                | none => exact ⟨_, .unreadable (.point hscheme hfamily hname hof hpoint)⟩
                | some point =>
                    exact ReadsEcdsa.exists_verdict ⟨hscheme, hfamily, ⟨name, hname, hof⟩, hpoint⟩
                      message signature
          · exact ⟨_, .unreadable (.curveName hscheme hfamily (not_exists.1 hcurve))⟩
    · exact ⟨_, .invalid (.otherFamily ⟨_, hscheme, hfamily⟩)⟩
  · exact ⟨_, .unsupported (.algorithm (not_exists.1 hnamed))⟩

theorem value_verifySignature_eq_iff {answer : Except Error SignatureStatus} :
    (verifySignature query).value = answer ↔
      Verdict query.algorithm.algorithm query.key query.message query.signature answer := by
  have hvalue : ∀ {other}, Verdict query.algorithm.algorithm query.key query.message
      query.signature other → (verifySignature query).value = other := by
    intro other h
    cases h with
    | unsupported h => exact h.value_verifySignature
    | oversized h => exact h.value_verifySignature
    | unreadable h => exact h.value_verifySignature
    | valid h => exact h.value_verifySignature
    | invalid h => exact h.value_verifySignature
  constructor
  · rintro rfl
    obtain ⟨other, hother⟩ := exists_verdict query.algorithm.algorithm query.key query.message
      query.signature
    rwa [hvalue hother]
  · exact hvalue

end Verdict

/-- A key that was read is not too long to be encoded. -/
theorem not_oversized_of_decode {octets : Octets}
    (h : PublicKeyInfo.decode.complete octets = some key) : ¬ Oversized algorithm key := by
  intro hoversized
  obtain ⟨hmax, -⟩ := Der.Decoder.complete_eq_some_iff.1 h
  have hlength : key.encode.length ≤ Der.maxLength :=
    Nat.le_trans (PublicKeyInfo.contracts_decode.complete h) hmax
  have hencodes : key.toDer? = some key.encode := if_pos hlength
  rw [hoversized.toDer?] at hencodes
  cases hencodes

/-- Whether a signature can be evaluated, and the error if it cannot, is a matter of the algorithm
and the key; an algorithm that is let pass has a digest and, if it is for RSA, a padding; and the
length of a key that was read is no reason for an error. -/
theorem evaluability_of_key (algorithm : AlgorithmIdentifier) (key : PublicKeyInfo) :
    ((∃ e, ∀ message signature,
        (verifySignature ⟨message, signature, algorithm, key⟩).value = .error e) ∨
      ∀ message signature, ∃ status,
        (verifySignature ⟨message, signature, algorithm, key⟩).value = .ok status) ∧
    (∀ message signature answer,
      (verifySignature ⟨message, signature, algorithm, key⟩).value = answer ↔
        Verdict algorithm.algorithm key message signature answer) ∧
    (∀ family : KeyFamily, algorithm.algorithm ∈ family.algorithms →
      ∃ hash, (∀ message, digest algorithm.algorithm message = .ok (hash.digest message)) ∧
        (family = .rsa → hashIn paddingHashes algorithm.algorithm = .ok hash)) ∧
    ∀ octets, PublicKeyInfo.decode.complete octets = some key →
      ¬ Oversized algorithm.algorithm key := by
  refine ⟨?_, fun message signature answer => value_verifySignature_eq_iff, ?_,
    fun octets => not_oversized_of_decode⟩
  · by_cases hunsupported : Unsupported algorithm.algorithm key
    · exact .inl ⟨.unrecognized, fun message signature => hunsupported.value_verifySignature⟩
    by_cases hoversized : Oversized algorithm.algorithm key
    · exact .inl ⟨_, fun message signature => hoversized.value_verifySignature⟩
    by_cases hunreadable : Unreadable algorithm.algorithm key
    · exact .inl ⟨.parse, fun message signature => hunreadable.value_verifySignature⟩
    · refine .inr fun message signature => ?_
      obtain ⟨answer, hverdict⟩ := exists_verdict algorithm.algorithm key message signature
      rw [value_verifySignature_eq_iff.2 hverdict]
      cases hverdict with
      | unsupported h => exact absurd h hunsupported
      | oversized h => exact absurd h hoversized
      | unreadable h => exact absurd h hunreadable
      | valid => exact ⟨.valid, rfl⟩
      | invalid => exact ⟨.invalid, rfl⟩
  · intro family hmem
    obtain ⟨hash, hscheme⟩ := KeyFamily.mem_algorithms_iff.1 hmem
    refine ⟨hash, hscheme.digest_eq, ?_⟩
    rintro rfl
    exact hscheme.hashIn_paddingHashes

end TrustChain.Crypto

namespace TrustChain.Sample

open Crypto

/-- A key for elliptic curves that names no curve. -/
def curveless : PublicKeyInfo := ⟨⟨Oid.ecPublicKey, none⟩, ⟨0, [0x04], by simp⟩⟩

/-- Such a key is an error for one family of algorithms and no key at all for the other. -/
theorem curveless_decides :
    (∀ message signature, (verifySignature
      ⟨message, signature, ⟨Oid.ecdsaWithSha256, none⟩, curveless⟩).value = .error .parse) ∧
    (∀ message signature, (verifySignature
      ⟨message, signature, ⟨Oid.sha256WithRsa, none⟩, curveless⟩).value = .ok .invalid) ∧
    Oid.sha256WithRsa ∈ KeyFamily.rsa.algorithms ∧
    ∃ hash, (∀ message, digest Oid.sha256WithRsa message = .ok (hash.digest message)) ∧
      hashIn paddingHashes Oid.sha256WithRsa = .ok hash := by
  have hecdsa : Names Oid.ecdsaWithSha256 ⟨.ecdsa, .sha256⟩ := by decide
  have hrsa : Names Oid.sha256WithRsa ⟨.rsa, .sha256⟩ := by decide
  have hlisted : Oid.sha256WithRsa ∈ KeyFamily.rsa.algorithms := by decide
  have hcurveless : ∀ name, ¬ OnCurve curveless name := fun name h => nomatch h
  have hother : OfOtherFamily Oid.sha256WithRsa curveless := ⟨_, hrsa, by decide⟩
  obtain ⟨-, hparse, -⟩ := evaluability_of_key ⟨Oid.ecdsaWithSha256, none⟩ curveless
  obtain ⟨-, hinvalid, hknown, -⟩ := evaluability_of_key ⟨Oid.sha256WithRsa, none⟩ curveless
  obtain ⟨hash, hdigest, hpadding⟩ := hknown .rsa hlisted
  refine ⟨fun message signature => ?_, fun message signature => ?_, hlisted, hash, hdigest,
    hpadding rfl⟩
  · exact (hparse message signature _).2 (.unreadable (.curveName hecdsa rfl hcurveless))
  · exact (hinvalid message signature _).2 (.invalid (.otherFamily hother))

end TrustChain.Sample
