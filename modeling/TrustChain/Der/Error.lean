import TrustChain.Der.Tag

/-!
# DER errors

What can be wrong with an encoding, and how it is reported: a text for the problem, followed by the
position of the octet it was found at where one is known.
-/

namespace TrustChain.Der

inductive Problem where
  | failed
  | dateTime
  /-- A length, or a sum of lengths, is above the largest supported one. -/
  | overflow
  | setOrdering
  | setDuplicate
  /-- The length octet announces content of indefinite length. -/
  | indefiniteLength
  | tagNumber
  | unknownTag (octet : UInt8)
  /-- The length of an element of this tag is not written in the fewest octets. -/
  | length (tag : Tag)
  /-- The input has `actual` octets where at least `expected` are needed. -/
  | incomplete (expected actual : Nat)
  /-- The input does not decode to a value of the type that is wanted. What is wrong with it, and at
  which octet, follows from the input and is not told apart here. -/
  | undecodable (input : Octets)
  deriving DecidableEq, Repr

/-- A problem and, where it is known, the position of the octet it was found at. -/
structure Error where
  problem : Problem
  position : Option Nat
  deriving DecidableEq, Repr

namespace Problem

def message : Problem → String
  | failed => "operation failed"
  | dateTime => "date/time error"
  | overflow => "integer overflow"
  | setOrdering => "SET OF ordering error"
  | setDuplicate => "SET OF contains duplicate"
  | indefiniteLength => "indefinite length disallowed"
  | tagNumber => "invalid tag number"
  | unknownTag octet =>
    "unknown/unsupported ASN.1 DER tag: 0x" ++ Octets.toHex [octet]
  | length tag => "incorrect length for " ++ tag.name
  | incomplete expected actual =>
    "ASN.1 DER message is incomplete: expected " ++ toString expected ++
      ", actual " ++ toString actual
  | undecodable input => "undecodable ASN.1 DER value: " ++ Octets.toHex input

end Problem

namespace Error

/-- A problem that is reported without a position. -/
def unplaced (problem : Problem) : Error := ⟨problem, none⟩

/-- The input ends at `position`, before the octet that is needed next. -/
def endOfInput (position : Nat) : Error :=
  ⟨.incomplete (position + 1) position, some position⟩

def message (error : Error) : String :=
  match error.position with
  | none => error.problem.message
  | some position => error.problem.message ++ " at DER byte " ++ toString position

end Error

end TrustChain.Der
