import TrustChain.Certificate.Structure
import TrustChain.Crypto.EllipticCurve
import TrustChain.Crypto.Sha2

/-!
# ECDSA signatures

A signature is two numbers `r` and `s` between zero and the order of the curve, both exclusive. It
is good when the point that the digest, the key and `s` determine has an abscissa congruent to `r`.
-/

namespace TrustChain.Crypto.Ecdsa

open Der (Decoder)

structure Signature where
  r : Nat
  s : Nat
  deriving DecidableEq, Repr

namespace Signature

def decode : Decoder Signature :=
  .within .sequence do
    let r ← Decoder.value .integer Der.natural?
    let s ← Decoder.value .integer Der.natural?
    return ⟨r, s⟩

def ofDer? (c : Curve) (octets : Octets) : Option Signature := do
  let signature ← decode.complete octets
  if 0 < signature.r ∧ signature.r < c.order ∧ 0 < signature.s ∧ signature.s < c.order then
    return signature
  else none

end Signature

/-- The number that a digest stands for: a digest wider than a coordinate is cut on the right. -/
def digestNumber (c : Curve) (digest : Octets) : Nat :=
  Octets.toNat (digest.take c.width) % c.order

def verify (c : Curve) (key : Curve.Point) (digest : Octets) (signature : Signature) : Bool :=
  let w := invMod c.order signature.s
  let generator := Curve.Jacobian.ofPoint ⟨c.generatorX, c.generatorY⟩
  let u := Curve.Jacobian.multiple c (digestNumber c digest * w % c.order) generator
  let v := Curve.Jacobian.multiple c (signature.r * w % c.order) (.ofPoint key)
  match (Curve.Jacobian.add c u v).abscissa? c with
  | some x => x % c.order == signature.r
  | none => false

end TrustChain.Crypto.Ecdsa
