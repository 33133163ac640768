import TrustChain.Der.Decoder

/-!
# Primitive DER values

The primitive types a certificate is made of. Each has a reading of content octets that accepts the
one DER spelling of a value and nothing else.
-/

namespace TrustChain.Der

/-- TRUE is `ff`; other non-zero octets are not DER. -/
def encodeBool (b : Bool) : Octets := [if b then 0xff else 0x00]

def bool? : Octets → Option Bool
  | [0x00] => some false
  | [0xff] => some true
  | _ => none

/-- The two's complement content of an INTEGER has no redundant first octet: the nine high bits are
not all equal. -/
def isMinimalInteger : Octets → Bool
  | [] => false
  | [_] => true
  | first :: second :: _ =>
    !(first == 0x00 && second < 0x80) && !(first == 0xff && 0x80 ≤ second)

/-- The number that is the content of a minimal, non-negative INTEGER. -/
def natural? (content : Octets) : Option Nat :=
  match content with
  | [] => none
  | first :: _ =>
    if isMinimalInteger content ∧ first < 0x80 then some (Octets.toNat content) else none

def octet? (content : Octets) : Option UInt8 := do
  let n ← natural? content
  if n < 256 then return UInt8.ofNat n else none

/-- The content of a small INTEGER: an octet of 128 and above needs a zero octet in front. -/
def encodeOctet (n : UInt8) : Octets :=
  if n < 0x80 then [n] else [0x00, n]

/-- A string of bits, kept as octets of which the last has `unused` bits that do not count. -/
structure BitString where
  unused : Nat
  octets : Octets
  wellFormed : unused < 8 ∧ (octets = [] → unused = 0)
  deriving DecidableEq

namespace BitString

/-- The first octet of the content counts the unused bits of the last. -/
def ofContent? : Octets → Option BitString
  | [] => none
  | first :: octets =>
    if h : first.toNat < 8 ∧ (octets = [] → first.toNat = 0) then some ⟨first.toNat, octets, h⟩
    else none

def content (bits : BitString) : Octets :=
  UInt8.ofNat bits.unused :: bits.octets

/-- The value as whole octets, when no bit of them is unused. -/
def wholeOctets? (bits : BitString) : Option Octets :=
  if bits.unused = 0 then some bits.octets else none

end BitString

namespace Decoder

/-- Takes one element of the given tag and reads its content, which has to be a value. -/
def value {α : Type} (tag : Tag) (ofContent : Octets → Option α) : Decoder α := do
  let octets ← content tag
  match ofContent octets with
  | some value => return value
  | none => failure

def bitString : Decoder BitString := value .bitString BitString.ofContent?

end Decoder

end TrustChain.Der
