import TrustChain.Octets

/-!
# Base64

Three octets are written as four characters, and the one or two octets that may be left at the end
as two or three characters, filled up to four with equals signs. The bits of the last character that
count for nothing have to be zero, so that every octet string has exactly one spelling. Characters
are kept in ASCII.
-/

namespace TrustChain.Text.Base64

/-- The character that fills up the last group. -/
def pad : UInt8 := 0x3d

def digit (n : Nat) : UInt8 :=
  if n < 26 then UInt8.ofNat (65 + n)
  else if n < 52 then UInt8.ofNat (71 + n)
  else if n < 62 then UInt8.ofNat (n - 4)
  else if n = 62 then 0x2b
  else 0x2f

def value? (c : UInt8) : Option Nat :=
  if 65 ≤ c ∧ c ≤ 90 then some (c.toNat - 65)
  else if 97 ≤ c ∧ c ≤ 122 then some (c.toNat - 71)
  else if 48 ≤ c ∧ c ≤ 57 then some (c.toNat + 4)
  else if c = 0x2b then some 62
  else if c = 0x2f then some 63
  else none

def encode : Octets → Octets
  | [] => []
  | [a] => [digit (a.toNat / 4), digit (a.toNat % 4 * 16), pad, pad]
  | [a, b] =>
    [digit (a.toNat / 4), digit (a.toNat % 4 * 16 + b.toNat / 16), digit (b.toNat % 16 * 4), pad]
  | a :: b :: c :: rest =>
    digit (a.toNat / 4) :: digit (a.toNat % 4 * 16 + b.toNat / 16) ::
      digit (b.toNat % 16 * 4 + c.toNat / 64) :: digit (c.toNat % 64) :: encode rest

/-- The octet that two digits written with two characters of padding stand for. -/
def decodeOne? (a b : UInt8) : Option Octets := do
  let a ← value? a
  let b ← value? b
  if b % 16 = 0 then return [UInt8.ofNat (a * 4 + b / 16)] else none

/-- The octets that three digits written with one character of padding stand for. -/
def decodeTwo? (a b c : UInt8) : Option Octets := do
  let a ← value? a
  let b ← value? b
  let c ← value? c
  if c % 4 = 0 then
    return [UInt8.ofNat (a * 4 + b / 16), UInt8.ofNat (b % 16 * 16 + c / 4)]
  else none

/-- The octets that four digits stand for. -/
def decodeThree? (a b c d : UInt8) : Option Octets := do
  let a ← value? a
  let b ← value? b
  let c ← value? c
  let d ← value? d
  return [UInt8.ofNat (a * 4 + b / 16), UInt8.ofNat (b % 16 * 16 + c / 4),
    UInt8.ofNat (c % 4 * 64 + d)]

/-- The octets that a last group stands for, which may be filled up. -/
def decodeLast? : Octets → Option Octets
  | [a, b, c, d] =>
    if d = pad then if c = pad then decodeOne? a b else decodeTwo? a b c
    else decodeThree? a b c d
  | _ => none

/-- The octets that groups of four digits stand for, up to the first group that is not one. -/
def decodeGroups : Octets → Octets
  | a :: b :: c :: d :: rest =>
    match decodeThree? a b c d with
    | some octets => octets ++ decodeGroups rest
    | none => []
  | _ => []

end TrustChain.Text.Base64
