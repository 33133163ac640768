/-!
# Octet strings

Encodings, keys, digests and signatures are all strings of octets. This module has the two readings
of such a string that the rest of the library needs: as a big-endian natural number, and as
hexadecimal text with two digits to the octet.
-/

namespace TrustChain

/-- A string of octets. Its order `<` is lexicographic, which is the order DER prescribes for the
members of a set. -/
abbrev Octets := List UInt8

namespace Octets

/-- Whether an octet string is one of several is decided by comparing it with each. -/
instance (octets : Octets) (list : List Octets) : Decidable (octets ∈ list) :=
  decidable_of_iff (list.elem octets = true) List.elem_iff

/-- The natural number written in base 256, most significant octet first. -/
def toNat (octets : Octets) : Nat :=
  octets.foldl (fun n octet => n * 256 + octet.toNat) 0

/-- The `width` lowest base-256 digits of a number, most significant first. -/
def ofNat : (width n : Nat) → Octets
  | 0, _ => []
  | width + 1, n => ofNat width (n / 256) ++ [UInt8.ofNat n]

@[simp] theorem length_ofNat (width n : Nat) : (ofNat width n).length = width := by
  induction width generalizing n with
  | zero => rfl
  | succ width ih => simp [ofNat, ih]

/-- The three-way form of the lexicographic order. -/
def compare : Octets → Octets → Ordering
  | [], [] => .eq
  | [], _ :: _ => .lt
  | _ :: _, [] => .gt
  | a :: as, b :: bs => (Ord.compare a b).then (compare as bs)

/-- The hexadecimal digit of a number below 16, in lower case. -/
def hexDigit (n : Nat) : Char :=
  if n < 10 then Char.ofNat (48 + n) else Char.ofNat (87 + n)

/-- The value of a hexadecimal digit of either case. -/
def hexValue? (c : Char) : Option Nat :=
  if '0' ≤ c ∧ c ≤ '9' then some (c.toNat - 48)
  else if 'a' ≤ c ∧ c ≤ 'f' then some (c.toNat - 87)
  else if 'A' ≤ c ∧ c ≤ 'F' then some (c.toNat - 55)
  else none

/-- The two digits of an octet, the high one first. -/
def hexPair (octet : UInt8) : List Char :=
  [hexDigit (octet.toNat / 16), hexDigit (octet.toNat % 16)]

def toHex (octets : Octets) : String :=
  String.ofList (octets.flatMap hexPair)

/-- Reads digits in pairs; an odd digit at the end, or any other character, is refused. -/
def ofHexDigits? : List Char → Option Octets
  | [] => some []
  | [_] => none
  | high :: low :: rest => do
    let h ← hexValue? high
    let l ← hexValue? low
    let octets ← ofHexDigits? rest
    return UInt8.ofNat (h * 16 + l) :: octets

def ofHex? (text : String) : Option Octets :=
  ofHexDigits? text.toList

end Octets

end TrustChain
