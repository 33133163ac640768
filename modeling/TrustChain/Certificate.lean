import TrustChain.Certificate.SignedPortion
import TrustChain.Certificate.Structure
import TrustChain.Error
import TrustChain.Name.Text

/-!
# Certificates

A certificate is handled together with the encoding it came in and with the extensions that have
been decoded so far. The encoding is its identity: certificates are compared and ordered by it, and
the signature is checked against the octets found in it.
-/

namespace TrustChain

inductive ParsedExtension where
  | basicConstraints (constraints : BasicConstraints)
  deriving DecidableEq, Repr

/-- A certificate, its encoding, and its extensions as far as they have been decoded. -/
structure Certificate where
  encoding : Octets
  signed : SignedCertificate
  parsed : List (Oid × ParsedExtension)
  deriving DecidableEq

namespace Certificate

def body (c : Certificate) : CertificateBody := c.signed.body

def subject (c : Certificate) : Name := c.body.subject

def issuer (c : Certificate) : Name := c.body.issuer

/-- The text of the subject name, for messages. -/
def subjectText (c : Certificate) : String := c.subject.text

def validity (c : Certificate) : Validity := c.body.validity

def publicKey (c : Certificate) : PublicKeyInfo := c.body.publicKey

/-- The signature, which is none when it does not consist of whole octets. -/
def signature? (c : Certificate) : Option Octets := c.signed.signature.wholeOctets?

def signedPortion (c : Certificate) : Except Error Octets :=
  (TrustChain.signedPortion c.encoding).mapError .asn1

/-- Certificates are ordered by their encodings. -/
def compare (a b : Certificate) : Ordering := Octets.compare a.encoding b.encoding

/-! ### Extensions -/

def parseValue (extension : Extension) : Except Error ParsedExtension :=
  if extension.type = Oid.basicConstraints then
    match BasicConstraints.ofDer? extension.value with
    | some constraints => .ok (.basicConstraints constraints)
    | none => .error (.asn1 (.unplaced (.undecodable extension.value)))
  else .error .unrecognized

def extension? (c : Certificate) (type : Oid) : Option ParsedExtension := c.parsed.lookup type

/-- Decodes the first extension of the given type, unless that has been done before. Nothing is
remembered of an extension that is absent or does not decode. -/
def parseExtension (c : Certificate) (type : Oid) :
    Except Error (Option ParsedExtension) × Certificate :=
  match c.extension? type with
  | some value => (.ok (some value), c)
  | none =>
    match (c.body.extensions.getD []).find? (·.type = type) with
    | none => (.ok none, c)
    | some extension =>
      match parseValue extension with
      | .ok value => (.ok (some value), { c with parsed := c.parsed ++ [(type, value)] })
      | .error e => (.error e, c)

/-- Decodes extensions of several types and passes over those that fail. -/
def parseExtensions (c : Certificate) (types : List Oid) : Certificate :=
  types.foldl (fun c type => (c.parseExtension type).2) c

def clearParsed (c : Certificate) : Certificate := { c with parsed := [] }

/-- The basic constraints, if they are present, well formed and decoded. -/
def basicConstraints? (c : Certificate) : Option BasicConstraints :=
  match c.extension? Oid.basicConstraints with
  | some (.basicConstraints constraints) => some constraints
  | none => none

/-! ### Reading and writing -/

/-- The extension types that are decoded as soon as a certificate is read. -/
def typesOfInterest : List Oid := [Oid.basicConstraints]

/-- A certificate with the given encoding whose extensions of interest are decoded. -/
def ofSignedEncoding (encoding : Octets) (signed : SignedCertificate) : Certificate :=
  ({ encoding, signed, parsed := [] } : Certificate).parseExtensions typesOfInterest

def ofDer? (encoding : Octets) : Option Certificate :=
  (SignedCertificate.ofDer? encoding).map (ofSignedEncoding encoding)

def ofSigned? (signed : SignedCertificate) : Option Certificate :=
  signed.toDer?.map (ofSignedEncoding · signed)

end Certificate

end TrustChain
