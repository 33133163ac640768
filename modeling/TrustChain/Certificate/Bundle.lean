import TrustChain.Certificate
import TrustChain.Text.Pem

/-!
# Certificates in files

A file holds either the encoding of one certificate or PEM text with any number of them. A
certificate from PEM text is encoded anew, and what follows it in its block is ignored, most of it
without being decoded; the two readings of a canonical encoding therefore agree.
-/

namespace TrustChain

namespace Certificate

/-- Reads the certificate at the front of a PEM block. A block that goes on behind it has to decode
there. -/
def ofBlock? (block : Text.Pem.Block) : Option Certificate :=
  if Der.maxLength < block.size then none
  else do
    let (signed, rest) ← SignedCertificate.decode block.octets
    if rest = [] ∧ block.octets.length < block.size then none else ofSigned? signed

def ofFile? (content : Octets) : Option (List Certificate) :=
  if Text.Pem.isPem content then do
    let blocks ← Text.Pem.read? content
    blocks.mapM ofBlock?
  else (ofDer? content).map ([·])

end Certificate

end TrustChain
