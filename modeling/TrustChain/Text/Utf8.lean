import TrustChain.Octets

/-!
# UTF-8

Reading of octets as UTF-8 or as ASCII. Only the shortest form of a character is accepted, and no
code point that is a surrogate or above `10ffff`.
-/

namespace TrustChain.Text

/-- The payload of a continuation octet. -/
def continuation? (octet : UInt8) : Option Nat :=
  if 0x80 ≤ octet ∧ octet < 0xc0 then some (octet.toNat - 0x80) else none

/-- The character of a code point that is at least `least`. -/
def charFrom? (least codePoint : Nat) : Option Char :=
  if least ≤ codePoint ∧ codePoint.isValidChar then some (Char.ofNat codePoint) else none

def ofUtf8? : Octets → Option (List Char)
  | [] => some []
  | a :: rest =>
    if a < 0x80 then return Char.ofNat a.toNat :: (← ofUtf8? rest)
    else
      match rest with
      | [] => none
      | b :: rest => do
        let x ← continuation? b
        if a < 0xe0 then
          if a < 0xc0 then none
          else
            let c ← charFrom? 0x80 ((a.toNat - 0xc0) * 0x40 + x)
            return c :: (← ofUtf8? rest)
        else
          match rest with
          | [] => none
          | b :: rest => do
            let y ← continuation? b
            if a < 0xf0 then
              let c ← charFrom? 0x800 (((a.toNat - 0xe0) * 0x40 + x) * 0x40 + y)
              return c :: (← ofUtf8? rest)
            else
              match rest with
              | [] => none
              | b :: rest => do
                let z ← continuation? b
                if a < 0xf8 then
                  let c ← charFrom? 0x10000
                    ((((a.toNat - 0xf0) * 0x40 + x) * 0x40 + y) * 0x40 + z)
                  return c :: (← ofUtf8? rest)
                else none

def ofAscii? : Octets → Option (List Char)
  | [] => some []
  | a :: rest => if a < 0x80 then (ofAscii? rest).map (Char.ofNat a.toNat :: ·) else none

/-- The octets of ASCII text, and of the low eight bits of any other. -/
def ascii (text : String) : Octets :=
  text.toList.map fun c => UInt8.ofNat c.toNat

end TrustChain.Text
