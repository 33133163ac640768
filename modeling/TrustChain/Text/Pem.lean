import TrustChain.Text.Base64
import TrustChain.Text.Utf8

/-!
# PEM text

A certificate in PEM text stands in base64 between a line that begins the block and a line that ends
it. All lines of the block have 64 characters, except that the last may be shorter; a line ends with
a line feed, a carriage return, or both. Text in front of a block is passed over if the block starts
a line, and a block may also follow the previous one directly.

The lines of a block and the number of octets it stands for, which its last group decides, are
looked at first. The text is then decoded in pieces, each when it is wanted: who stops reading early
does not see what is wrong with a later piece.
-/

namespace TrustChain.Text.Pem

def lineFeed : UInt8 := 0x0a

def carriageReturn : UInt8 := 0x0d

/-- What a block of any kind begins with. -/
def blockStart : Octets := ascii "-----BEGIN "

def firstLine : Octets := blockStart ++ ascii "CERTIFICATE-----"

def lastLine : Octets := ascii "-----END CERTIFICATE-----"

def lineWidth : Nat := 64

/-! ### Writing -/

def takeLineEnd? : Octets → Option Octets
  | 0x0d :: 0x0a :: rest => some rest
  | 0x0d :: rest => some rest
  | 0x0a :: rest => some rest
  | _ => none

def dropLineEnd? (text : Octets) : Option Octets :=
  match text.reverse with
  | 0x0a :: 0x0d :: rest => some rest.reverse
  | 0x0a :: rest => some rest.reverse
  | 0x0d :: rest => some rest.reverse
  | _ => none

def takeText? : (text input : Octets) → Option Octets
  | [], input => some input
  | _, [] => none
  | a :: text, b :: input => if a = b then takeText? text input else none

/-- Cuts behind the first occurrence of a text. -/
def cutAfter? (text : Octets) : Octets → Option (Octets × Octets)
  | [] => none
  | octet :: input =>
    match takeText? text (octet :: input) with
    | some rest => some (text, rest)
    | none => (cutAfter? text input).map fun (front, rest) => (octet :: front, rest)

/-- Passes over text up to a line that begins a block. There is no such text with a zero octet. -/
def skipToBlock? : Octets → Option Octets
  | [] => none
  | octet :: rest =>
    if octet = 0 then none
    else if octet = lineFeed ∧ blockStart.isPrefixOf rest then some rest
    else skipToBlock? rest

/-- The lines of base64 text. Full lines have to end; the last may or may not. -/
def lines? (text : Octets) : Option (List Octets) :=
  if text = [] then some []
  else if text.length ≤ lineWidth then some [(dropLineEnd? text).getD text]
  else
    match takeLineEnd? (text.drop lineWidth) with
    | some rest =>
      if rest.length < text.length then (lines? rest).map (text.take lineWidth :: ·) else none
    | none => none
termination_by text.length

/-- What can be read of a block. -/
structure Block where
  /-- The number of octets that the text stands for. -/
  size : Nat
  /-- The octets of the pieces in front of the first one that does not decode. -/
  octets : Octets
  deriving DecidableEq, Repr

/-- A block of which all pieces decode. -/
def Block.whole (octets : Octets) : Block := ⟨octets.length, octets⟩

/-- The number of octets that are decoded together. -/
def pieceSize : Nat := 256

/-- Decodes base64 text in lines. A last group that is filled up has to stand in the last line. -/
def decodeText? (text : Octets) : Option Block := do
  let lines ← lines? text
  let digits := lines.flatten
  let front := digits.take (digits.length - 4)
  let last ← Base64.decodeLast? (digits.drop (digits.length - 4))
  if front.length % 4 = 0 then
    let size := front.length / 4 * 3 + last.length
    let known := Base64.decodeGroups front
    if known.length + last.length = size ∧ (last.length = 3 ∨ lines.getLast? ≠ some []) then
      return .whole (known ++ last)
    else return ⟨size, known.take (known.length / pieceSize * pieceSize)⟩
  else none

/-- Reads a text that ends with the last line of a certificate. -/
def readBlock? (input : Octets) : Option Block := do
  let input ← if blockStart.isPrefixOf input then some input else skipToBlock? input
  let input ← takeText? firstLine input
  let input ← takeLineEnd? input
  let text ← dropLineEnd? (input.take (input.length - lastLine.length))
  decodeText? text

/-- Reads blocks. Every block ends with the last line of a certificate, and a single octet after the
last block is no text. -/
def readBlocks? (input : Octets) : Option (List Block) :=
  if input.length ≤ 1 then some []
  else
    match cutAfter? lastLine input with
    | none => none
    | some (text, rest) =>
      if rest.length < input.length then do
        let block ← readBlock? text
        return block :: (← readBlocks? rest)
      else none
termination_by input.length

/-- Whether a text is PEM rather than a bare encoding. -/
def isPem (input : Octets) : Bool := (ascii "-----BEGIN").isPrefixOf input

/-- The blocks of a text. Empty lines at the end do not count. -/
def read? (input : Octets) : Option (List Block) :=
  readBlocks? (input.reverse.dropWhile fun c => c == lineFeed || c == carriageReturn).reverse

end TrustChain.Text.Pem
