import TrustChain.Der.Error

/-!
# DER headers

An element starts with a tag octet and a length. Lengths below 128 are one octet; longer ones are
written big-endian in the fewest octets, behind an octet that counts them. Lengths have at most four
such octets and are at most `maxLength`. A header that is read has therefore exactly one spelling,
the one `Header.encode` writes.
-/

namespace TrustChain.Der

/-- The longest supported content, and the longest supported input. -/
def maxLength : Nat := 0x0fffffff

/-- The number of base-256 digits that the long form of a length needs. -/
def lengthDigits (length : Nat) : Nat :=
  if length < 0x100 then 1
  else if length < 0x10000 then 2
  else if length < 0x1000000 then 3
  else 4

/-- The octets of a length, in the fewest possible. -/
def encodeLength (length : Nat) : Octets :=
  if length < 0x80 then [UInt8.ofNat length]
  else UInt8.ofNat (0x80 + lengthDigits length) :: Octets.ofNat (lengthDigits length) length

structure Header where
  tag : Tag
  length : Nat
  deriving DecidableEq, Repr

namespace Header

def size (header : Header) : Nat :=
  if header.length < 0x80 then 2 else 2 + lengthDigits header.length

def encode (header : Header) : Octets :=
  header.tag.octet :: encodeLength header.length

/-- Reads a length from the front of `input`, which is the end of an input of `total` octets. -/
def readLength (total : Nat) (tag : Tag) : (input : Octets) → Except Error (Nat × Octets)
  | [] => .error (.endOfInput total)
  | first :: rest =>
    if first < 0x80 then .ok (first.toNat, rest)
    else if first = 0x80 then .error (.unplaced .indefiniteLength)
    else if first ≤ 0x84 then
      let digits := first.toNat - 0x80
      let length := Octets.toNat (rest.take digits)
      if rest.length < digits then .error (.endOfInput total)
      else if maxLength < length then .error (.unplaced .overflow)
      else if length < 0x80 ∨ lengthDigits length ≠ digits then .error (.unplaced (.length tag))
      else .ok (length, rest.drop digits)
    else .error (.unplaced (.length tag))

/-- Reads a header from the front of `input`, which is the end of an input of `total` octets.
Content is not looked at. -/
def read (total : Nat) : (input : Octets) → Except Error (Header × Octets)
  | [] => .error (.endOfInput total)
  | first :: rest =>
    match Tag.ofOctet? first with
    | none =>
      if Tag.numberContinues first then .error (.unplaced .tagNumber)
      else .error (.unplaced (.unknownTag first))
    | some tag =>
      match readLength total tag rest with
      | .error e => .error e
      | .ok (length, rest) => .ok (⟨tag, length⟩, rest)

end Header

end TrustChain.Der
