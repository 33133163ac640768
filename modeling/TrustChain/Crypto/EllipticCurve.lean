import TrustChain.Crypto.Modular
import TrustChain.Oid

/-!
# Elliptic curves

The curves P-256 and P-384: points with `y² = x³ + a x + b` modulo a prime, together with a point at
infinity. Sums are computed in Jacobian coordinates, in which `(x, y, z)` stands for the point
`(x / z², y / z³)` and `z = 0` for infinity, so that only the final result needs a division.
-/

namespace TrustChain.Crypto

structure Curve where
  prime : Nat
  a : Nat
  b : Nat
  generatorX : Nat
  generatorY : Nat
  order : Nat
  width : Nat

namespace Curve

def p256 : Curve where
  prime := 0xffffffff00000001000000000000000000000000ffffffffffffffffffffffff
  a := 0xffffffff00000001000000000000000000000000fffffffffffffffffffffffc
  b := 0x5ac635d8aa3a93e7b3ebbd55769886bc651d06b0cc53b0f63bce3c3e27d2604b
  generatorX := 0x6b17d1f2e12c4247f8bce6e563a440f277037d812deb33a0f4a13945d898c296
  generatorY := 0x4fe342e2fe1a7f9b8ee7eb4a7c0f9e162bce33576b315ececbb6406837bf51f5
  order := 0xffffffff00000000ffffffffffffffffbce6faada7179e84f3b9cac2fc632551
  width := 32

def p384 : Curve where
  prime := 0xfffffffffffffffffffffffffffffffffffffffffffffffffffffffffffffffeffffffff0000000000000000ffffffff
  a := 0xfffffffffffffffffffffffffffffffffffffffffffffffffffffffffffffffeffffffff0000000000000000fffffffc
  b := 0xb3312fa7e23ee7e4988e056be3f82d19181d9c6efe8141120314088f5013875ac656398d8a2ed19d2a85c8edd3ec2aef
  generatorX := 0xaa87ca22be8b05378eb1c71ef320ad746e1d3b628ba79b9859f741e082542a385502f25dbf55296c3a545e3872760ab7
  generatorY := 0x3617de4a96262c6f5d9e98bf9292dc29f8f41dbd289a147ce9da3113b5f0b8c00a60b1ce1d7e819d7a431d7c90ea0e5f
  order := 0xffffffffffffffffffffffffffffffffffffffffffffffffc7634d81f4372ddf581a0db248b0a77aecec196accc52973
  width := 48

/-- The curve of a named-curve identifier, if it is supported. -/
def ofOid? (name : Oid) : Option Curve :=
  if name = Oid.secp256r1 then some p256
  else if name = Oid.secp384r1 then some p384
  else none

/-- A point other than the one at infinity, by its coordinates. -/
structure Point where
  x : Nat
  y : Nat
  deriving DecidableEq, Repr

/-- The right-hand side of the curve equation. -/
def cubic (c : Curve) (x : Nat) : Nat := ((x * x + c.a) * x + c.b) % c.prime

/-- Both coordinates are reduced and satisfy the equation. -/
def contains (c : Curve) (p : Point) : Bool :=
  p.x < c.prime && p.y < c.prime && p.y * p.y % c.prime == c.cubic p.x

/-- The point with a given abscissa and a given parity of the ordinate. -/
def decompress? (c : Curve) (x : Nat) (odd : Bool) : Option Point := do
  let y ← if x < c.prime then sqrtMod? c.prime (c.cubic x) else none
  let p : Point := ⟨x, if (y % 2 == 1) = odd then y else subMod c.prime 0 y⟩
  if c.contains p then some p else none

/-- The point with a given abscissa and the smaller of its two ordinates. -/
def decompact? (c : Curve) (x : Nat) : Option Point := do
  let p ← c.decompress? x false
  some ⟨p.x, min p.y (subMod c.prime 0 p.y)⟩

/-- Reads a point: `04` and both coordinates, `02` or `03`, by the parity of the ordinate, and the
abscissa, or `05` and the abscissa alone. -/
def ofOctets? (c : Curve) : Octets → Option Point
  | [] => none
  | form :: coordinates =>
    if form = 0x04 then
      if coordinates.length = 2 * c.width then
        let p : Point :=
          ⟨Octets.toNat (coordinates.take c.width), Octets.toNat (coordinates.drop c.width)⟩
        if c.contains p then some p else none
      else none
    else if form = 0x02 ∨ form = 0x03 then
      if coordinates.length = c.width then
        c.decompress? (Octets.toNat coordinates) (form = 0x03)
      else none
    else if form = 0x05 then
      if coordinates.length = c.width then c.decompact? (Octets.toNat coordinates) else none
    else none

structure Jacobian where
  x : Nat
  y : Nat
  z : Nat

namespace Jacobian

def infinity : Jacobian := ⟨1, 1, 0⟩

def ofPoint (p : Point) : Jacobian := ⟨p.x, p.y, 1⟩

def double (c : Curve) (p : Jacobian) : Jacobian :=
  if p.z = 0 ∨ p.y = 0 then infinity
  else
    let m := c.prime
    let yy := p.y * p.y % m
    let s := 4 * p.x * yy % m
    let zz := p.z * p.z % m
    let t := (3 * p.x * p.x + c.a * zz % m * zz) % m
    let x := subMod m (t * t) (2 * s)
    ⟨x, subMod m (t * subMod m s x) (8 * yy * yy), 2 * p.y * p.z % m⟩

def add (c : Curve) (p q : Jacobian) : Jacobian :=
  if p.z = 0 then q
  else if q.z = 0 then p
  else
    let m := c.prime
    let pzz := p.z * p.z % m
    let qzz := q.z * q.z % m
    let u₁ := p.x * qzz % m
    let u₂ := q.x * pzz % m
    let s₁ := p.y * q.z % m * qzz % m
    let s₂ := q.y * p.z % m * pzz % m
    if u₁ = u₂ then if s₁ = s₂ then double c p else infinity
    else
      let h := subMod m u₂ u₁
      let r := subMod m s₂ s₁
      let hh := h * h % m
      let hhh := h * hh % m
      let v := u₁ * hh % m
      let x := subMod m (r * r) (hhh + 2 * v)
      ⟨x, subMod m (r * subMod m v x) (s₁ * hhh), h * p.z % m * q.z % m⟩

/-- A multiple of a point, by doubling. -/
def multiple (c : Curve) (n : Nat) (p : Jacobian) : Jacobian :=
  if n = 0 then infinity
  else
    let half := double c (multiple c (n / 2) p)
    if n % 2 = 1 then add c half p else half
termination_by n
decreasing_by omega

/-- The abscissa of a point other than infinity. -/
def abscissa? (c : Curve) (p : Jacobian) : Option Nat :=
  if p.z = 0 then none
  else
    let inverse := invMod c.prime p.z
    some (p.x * (inverse * inverse % c.prime) % c.prime)

end Jacobian

end Curve

end TrustChain.Crypto
