import TrustChain.Der.Value

/-!
# Object identifiers

An object identifier is kept as the content octets it is encoded in, so that two identifiers are
equal exactly when their encodings are. The first octet holds the first two arcs; each further arc
is a run of octets, seven bits each, all but the last with the high bit set.

An arc is read into 32 bits. The longest arcs have five octets, which is 35 bits: their three
highest bits are lost, so that identifiers with different content may print alike.
-/

namespace TrustChain

namespace Oid

/-- The longest supported content. -/
def maxOctets : Nat := 39

/-- Each arc ends, and none is longer than four octets or five with a small fifth. `taken` counts
the octets of the arc that have been passed. -/
def arcsEnd : (taken : Nat) → Octets → Bool
  | taken, [] => taken == 0
  | taken, octet :: rest =>
    if 4 ≤ taken ∧ 0x10 ≤ octet then false
    else if octet < 0x80 then arcsEnd 0 rest
    else arcsEnd (taken + 1) rest

/-- Content octets of an object identifier: a first octet for two arcs (0 to 2, then 0 to 39), and
at least one arc after it. -/
def isWellFormed (content : Octets) : Bool :=
  match content with
  | [] => false
  | first :: rest =>
    2 ≤ rest.length && content.length ≤ maxOctets && first < 120 && arcsEnd 0 rest

end Oid

/-- An object identifier, by its content octets. -/
structure Oid where
  content : Octets
  wellFormed : Oid.isWellFormed content = true
  deriving DecidableEq

namespace Oid

def ofContent? (content : Octets) : Option Oid :=
  if h : isWellFormed content then some ⟨content, h⟩ else none

/-- The arcs after the first two. `value` is what has been read of the current arc; the shift drops
the bits above the lowest 32. -/
def laterArcs : (value : UInt32) → Octets → List UInt32
  | _, [] => []
  | value, octet :: rest =>
    let value := value <<< 7 ||| (octet &&& 0x7f).toUInt32
    if octet < 0x80 then value :: laterArcs 0 rest else laterArcs value rest

def arcs (oid : Oid) : List UInt32 :=
  match oid.content with
  | [] => []
  | first :: rest => (first / 40).toUInt32 :: (first % 40).toUInt32 :: laterArcs 0 rest

/-- The last arc is `0x7ffffff8f`, and `0xffffff8f` is left of it. -/
example : (⟨[0x2a, 0xff, 0xff, 0xff, 0xff, 0x0f], by decide⟩ : Oid).arcs =
    [1, 2, 4294967183] := by
  decide

def toDotted (oid : Oid) : String :=
  String.intercalate "." (oid.arcs.map toString)

/-- The base-128 digits of a number above its lowest digit, each with the high bit set, in front of
`tail`. -/
def highDigits (n : Nat) (tail : Octets) : Octets :=
  if n = 0 then tail else highDigits (n / 128) (UInt8.ofNat (0x80 + n % 128) :: tail)

def arcOctets (n : Nat) : Octets :=
  highDigits (n / 128) [UInt8.ofNat (n % 128)]

def ofArcs? : List Nat → Option Oid
  | first :: second :: rest =>
    if first < 3 ∧ second < 40 then
      ofContent? (UInt8.ofNat (first * 40 + second) :: rest.flatMap arcOctets)
    else none
  | _ => none

def ofDotted? (text : String) : Option Oid := do
  let arcs ← (text.splitOn ".").mapM String.toNat?
  ofArcs? arcs

instance : Ord Oid := ⟨fun a b => Octets.compare a.content b.content⟩

def encode (oid : Oid) : Octets := Der.encodeElement .objectIdentifier oid.content

def decode : Der.Decoder Oid := .value .objectIdentifier ofContent?

/-! ### Identifiers the library knows -/

def basicConstraints : Oid := ⟨[0x55, 0x1d, 0x13], by decide⟩

def rsaEncryption : Oid :=
  ⟨[0x2a, 0x86, 0x48, 0x86, 0xf7, 0x0d, 0x01, 0x01, 0x01], by decide⟩

def sha224WithRsa : Oid :=
  ⟨[0x2a, 0x86, 0x48, 0x86, 0xf7, 0x0d, 0x01, 0x01, 0x0e], by decide⟩

def sha256WithRsa : Oid :=
  ⟨[0x2a, 0x86, 0x48, 0x86, 0xf7, 0x0d, 0x01, 0x01, 0x0b], by decide⟩

def sha384WithRsa : Oid :=
  ⟨[0x2a, 0x86, 0x48, 0x86, 0xf7, 0x0d, 0x01, 0x01, 0x0c], by decide⟩

def sha512WithRsa : Oid :=
  ⟨[0x2a, 0x86, 0x48, 0x86, 0xf7, 0x0d, 0x01, 0x01, 0x0d], by decide⟩

def ecPublicKey : Oid := ⟨[0x2a, 0x86, 0x48, 0xce, 0x3d, 0x02, 0x01], by decide⟩

def ecdsaWithSha224 : Oid := ⟨[0x2a, 0x86, 0x48, 0xce, 0x3d, 0x04, 0x03, 0x01], by decide⟩

def ecdsaWithSha256 : Oid := ⟨[0x2a, 0x86, 0x48, 0xce, 0x3d, 0x04, 0x03, 0x02], by decide⟩

def ecdsaWithSha384 : Oid := ⟨[0x2a, 0x86, 0x48, 0xce, 0x3d, 0x04, 0x03, 0x03], by decide⟩

def ecdsaWithSha512 : Oid := ⟨[0x2a, 0x86, 0x48, 0xce, 0x3d, 0x04, 0x03, 0x04], by decide⟩

def secp256r1 : Oid := ⟨[0x2a, 0x86, 0x48, 0xce, 0x3d, 0x03, 0x01, 0x07], by decide⟩

def secp384r1 : Oid := ⟨[0x2b, 0x81, 0x04, 0x00, 0x22], by decide⟩

end Oid

end TrustChain
