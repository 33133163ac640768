import TrustChain.Octets

/-!
# JSON strings

Strings as RFC 8259 writes them. Any character may be written as an escape sequence of its UTF-16
units; half of a surrogate pair stands for no character and is refused, and so is a control
character that is not escaped. Writing escapes only what has to be.
-/

namespace TrustChain.Text.JsonString

/-- The number that four hexadecimal digits write. -/
def unit? (a b c d : Char) : Option Nat := do
  let a ← Octets.hexValue? a
  let b ← Octets.hexValue? b
  let c ← Octets.hexValue? c
  let d ← Octets.hexValue? d
  return ((a * 16 + b) * 16 + c) * 16 + d

/-- The characters that have an escape sequence of two characters, by the second of them. -/
def shortEscapes : List (Char × Char) := [
  ('"', '"'), ('\\', '\\'), ('/', '/'), ('b', '\x08'), ('f', '\x0c'), ('n', '\n'), ('r', '\r'),
  ('t', '\t')]

/-- Reads what stands between the opening quote and the closing one, and returns what follows. -/
def readRest : List Char → Option (List Char × List Char)
  | [] => none
  | '"' :: rest => some ([], rest)
  | '\\' :: 'u' :: a :: b :: c :: d :: rest => do
    let high ← unit? a b c d
    if 0xd800 ≤ high ∧ high < 0xdc00 then
      match rest with
      | '\\' :: 'u' :: a :: b :: c :: d :: rest =>
        let low ← unit? a b c d
        if 0xdc00 ≤ low ∧ low < 0xe000 then
          let (text, left) ← readRest rest
          return (Char.ofNat (0x10000 + (high - 0xd800) * 0x400 + (low - 0xdc00)) :: text, left)
        else none
      | _ => none
    else if 0xdc00 ≤ high ∧ high < 0xe000 then none
    else
      let (text, left) ← readRest rest
      return (Char.ofNat high :: text, left)
  | '\\' :: key :: rest => do
    let c ← shortEscapes.lookup key
    let (text, left) ← readRest rest
    return (c :: text, left)
  | c :: rest =>
    if c.toNat < 0x20 then none
    else (readRest rest).map fun (text, left) => (c :: text, left)

/-- Reads a string from the front of a text and returns what follows it. -/
def read : List Char → Option (List Char × List Char)
  | '"' :: rest => readRest rest
  | _ => none

def writeChar (c : Char) : List Char :=
  if c = '"' then ['\\', '"']
  else if c = '\\' then ['\\', '\\']
  else if c = '\x08' then ['\\', 'b']
  else if c = '\x0c' then ['\\', 'f']
  else if c = '\n' then ['\\', 'n']
  else if c = '\r' then ['\\', 'r']
  else if c = '\t' then ['\\', 't']
  else if c.toNat < 0x20 then '\\' :: 'u' :: '0' :: '0' :: Octets.hexPair (UInt8.ofNat c.toNat)
  else [c]

def write (text : List Char) : List Char := '"' :: text.flatMap writeChar ++ ['"']

end TrustChain.Text.JsonString
