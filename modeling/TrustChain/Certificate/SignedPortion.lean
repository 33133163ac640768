import TrustChain.Der.Header

/-!
# The signed portion of an encoding

A signature is made over the body of a certificate as its issuer encoded it. The body is therefore
cut out of the encoding, and not encoded anew from what was decoded: it is the first element inside
the outermost one, header included. Only the two headers are looked at, and neither the length of
the outer element nor what follows the body has to be right.
-/

namespace TrustChain

open Der (Header Error)

/-- The first element inside the element at the front of an encoding. -/
def signedPortion (encoding : Octets) : Except Error Octets :=
  let total := encoding.length
  if Der.maxLength < total then .error (.unplaced .overflow)
  else
    match Header.read total encoding with
    | .error e => .error e
    | .ok (_, inner) =>
      match Header.read total inner with
      | .error e => .error e
      | .ok (header, _) =>
        let size := header.size + header.length
        let start := total - inner.length
        if Der.maxLength < size then .error (.unplaced .overflow)
        else if size ≤ inner.length then .ok (inner.take size)
        else if Der.maxLength < start + size then .error (.unplaced .overflow)
        else .error ⟨.incomplete (start + size) total, some start⟩

end TrustChain
