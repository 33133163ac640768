import TrustChain.Name
import TrustChain.Time

/-!
# The parts of a certificate

A certificate is a body, the algorithm its signature was made with, and the signature. Each part is
given here with its encoding and its decoder. Encodings are canonical: fields that have their
default value are left out. Decoders accept a default that is written out, so that a certificate and
the encoding of what it decodes to may differ.
-/

namespace TrustChain

open Der (Decoder Element BitString encodeElement)

structure AlgorithmIdentifier where
  algorithm : Oid
  parameters : Option Element
  deriving DecidableEq

namespace AlgorithmIdentifier

def encode (id : AlgorithmIdentifier) : Octets :=
  encodeElement .sequence (id.algorithm.encode ++ (id.parameters.map Element.encode).getD [])

def decode : Decoder AlgorithmIdentifier :=
  .within .sequence do
    let algorithm ← Oid.decode
    let parameters ← Decoder.optional (fun _ => true) Decoder.element
    return ⟨algorithm, parameters⟩

end AlgorithmIdentifier

structure PublicKeyInfo where
  algorithm : AlgorithmIdentifier
  key : BitString
  deriving DecidableEq

namespace PublicKeyInfo

def encode (info : PublicKeyInfo) : Octets :=
  encodeElement .sequence
    (info.algorithm.encode ++ encodeElement .bitString info.key.content)

def decode : Decoder PublicKeyInfo :=
  .within .sequence do
    let algorithm ← AlgorithmIdentifier.decode
    let key ← Decoder.bitString
    return ⟨algorithm, key⟩

/-- The encoding of a key, unless it is too long to have one. -/
def toDer? (info : PublicKeyInfo) : Option Octets :=
  if info.encode.length ≤ Der.maxLength then some info.encode else none

end PublicKeyInfo

/-- The period, both ends included, in which a certificate is good. -/
structure Validity where
  notBefore : Time
  notAfter : Time
  deriving DecidableEq

namespace Validity

def encode (validity : Validity) : Octets :=
  encodeElement .sequence (validity.notBefore.encode ++ validity.notAfter.encode)

def decode : Decoder Validity :=
  .within .sequence do
    let notBefore ← Time.decode
    let notAfter ← Time.decode
    return ⟨notBefore, notAfter⟩

end Validity

structure Extension where
  type : Oid
  critical : Bool
  value : Octets
  deriving DecidableEq

namespace Extension

def encode (extension : Extension) : Octets :=
  encodeElement .sequence
    (extension.type.encode ++
      (if extension.critical then encodeElement .boolean (Der.encodeBool true) else []) ++
      encodeElement .octetString extension.value)

def decode : Decoder Extension :=
  .within .sequence do
    let type ← Oid.decode
    let critical ← Decoder.optional (· == .boolean) (.value .boolean Der.bool?)
    let value ← Decoder.content .octetString
    return ⟨type, critical.getD false, value⟩

end Extension

/-- The extension that says whether a certificate may issue others, and how many of them in a row.
-/
structure BasicConstraints where
  ca : Bool
  pathLength : Option UInt8
  deriving DecidableEq, Repr

namespace BasicConstraints

def decode : Decoder BasicConstraints :=
  .within .sequence do
    let ca ← Decoder.optional (· == .boolean) (.value .boolean Der.bool?)
    let pathLength ← Decoder.optional (· == .integer) (.value .integer Der.octet?)
    return ⟨ca.getD false, pathLength⟩

def ofDer? (octets : Octets) : Option BasicConstraints := decode.complete octets

end BasicConstraints

inductive Version where
  | v1
  | v2
  | v3
  deriving DecidableEq, Repr

namespace Version

def toOctet : Version → UInt8
  | v1 => 0
  | v2 => 1
  | v3 => 2

def ofContent? (content : Octets) : Option Version := do
  match ← Der.octet? content with
  | 0 => return v1
  | 1 => return v2
  | 2 => return v3
  | _ => none

end Version

/-- The content of the INTEGER that numbers a certificate, of any sign and at most 21 octets. -/
structure SerialNumber where
  content : Octets
  wellFormed : (Der.isMinimalInteger content && content.length ≤ 21) = true
  deriving DecidableEq

namespace SerialNumber

def ofContent? (content : Octets) : Option SerialNumber :=
  if h : Der.isMinimalInteger content && content.length ≤ 21 then some ⟨content, h⟩ else none

end SerialNumber

structure CertificateBody where
  version : Version
  serial : SerialNumber
  /-- The algorithm that the issuer says it signs with. -/
  signature : AlgorithmIdentifier
  issuer : Name
  validity : Validity
  subject : Name
  publicKey : PublicKeyInfo
  issuerId : Option BitString
  subjectId : Option BitString
  extensions : Option (List Extension)
  deriving DecidableEq

namespace CertificateBody

def encodeVersion : Version → Octets
  | .v1 => []
  | version =>
    encodeElement (.context true 0) (encodeElement .integer (Der.encodeOctet version.toOctet))

def encodeUniqueId (n : Fin 31) : Option BitString → Octets
  | none => []
  | some id => encodeElement (.context false n) id.content

def encodeExtensions : Option (List Extension) → Octets
  | none => []
  | some extensions =>
    encodeElement (.context true 3) (encodeElement .sequence (extensions.flatMap Extension.encode))

def encode (body : CertificateBody) : Octets :=
  encodeElement .sequence
    (encodeVersion body.version ++ encodeElement .integer body.serial.content ++
      body.signature.encode ++ body.issuer.encode ++ body.validity.encode ++ body.subject.encode ++
      body.publicKey.encode ++ encodeUniqueId 1 body.issuerId ++ encodeUniqueId 2 body.subjectId ++
      encodeExtensions body.extensions)

def decode : Decoder CertificateBody :=
  .within .sequence do
    let version ← Decoder.explicitField 0 (.value .integer Version.ofContent?)
    let serial ← Decoder.value .integer SerialNumber.ofContent?
    let signature ← AlgorithmIdentifier.decode
    let issuer ← Name.decode
    let validity ← Validity.decode
    let subject ← Name.decode
    let publicKey ← PublicKeyInfo.decode
    let issuerId ← Decoder.implicitField 1 BitString.ofContent?
    let subjectId ← Decoder.implicitField 2 BitString.ofContent?
    let extensions ← Decoder.explicitField 3 (.listOf .sequence Extension.decode)
    return ⟨version.getD .v1, serial, signature, issuer, validity, subject, publicKey, issuerId,
      subjectId, extensions⟩

end CertificateBody

structure SignedCertificate where
  body : CertificateBody
  algorithm : AlgorithmIdentifier
  signature : BitString
  deriving DecidableEq

namespace SignedCertificate

def encode (signed : SignedCertificate) : Octets :=
  encodeElement .sequence
    (signed.body.encode ++ signed.algorithm.encode ++
      encodeElement .bitString signed.signature.content)

def decode : Decoder SignedCertificate :=
  .within .sequence do
    let body ← CertificateBody.decode
    let algorithm ← AlgorithmIdentifier.decode
    let signature ← Decoder.bitString
    return ⟨body, algorithm, signature⟩

/-- Decodes a certificate; nothing may follow it. -/
def ofDer? (octets : Octets) : Option SignedCertificate := decode.complete octets

/-- The encoding of a certificate, unless it is too long to have one. -/
def toDer? (signed : SignedCertificate) : Option Octets :=
  if signed.encode.length ≤ Der.maxLength then some signed.encode else none

end SignedCertificate

end TrustChain
