import TrustChain.Certificate
import TrustChain.Text.Quoted

/-!
# Description of a certificate

A one-line description for diagnostics: the two names, quoted, and the size of the encoding.
-/

namespace TrustChain

namespace Certificate

/-- What a certificate looks like in a diagnostic message. -/
def description (c : Certificate) : String :=
  String.ofList ("PDVCertificate \x7b subject: ".toList ++ Text.quoted c.subject.print ++
    ", issuer: ".toList ++ Text.quoted c.issuer.print ++
    (", len: " ++ toString c.encoding.length ++ " \x7d").toList)

end Certificate

end TrustChain
