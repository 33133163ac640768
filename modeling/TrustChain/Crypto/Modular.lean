/-!
# Modular arithmetic

Powers, inverses and differences of natural numbers modulo a fixed number. Inverses and square roots
are powers, so both want a prime modulus.
-/

namespace TrustChain.Crypto

def powMod (modulus base exponent : Nat) : Nat :=
  if exponent = 0 then 1 % modulus
  else
    let rest := powMod modulus (base * base % modulus) (exponent / 2)
    if exponent % 2 = 1 then base * rest % modulus else rest
termination_by exponent
decreasing_by omega

def subMod (modulus a b : Nat) : Nat := (a + (modulus - b % modulus)) % modulus

/-- The inverse of a number modulo a prime. -/
def invMod (prime a : Nat) : Nat := powMod prime a (prime - 2)

/-- A square root modulo a prime that is three more than a multiple of four, if there is one. -/
def sqrtMod? (prime a : Nat) : Option Nat :=
  let root := powMod prime a ((prime + 1) / 4)
  if root * root % prime = a % prime then some root else none

end TrustChain.Crypto
