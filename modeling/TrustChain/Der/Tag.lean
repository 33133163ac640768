import TrustChain.Octets

/-!
# DER tags

A tag is one octet: the class in the two high bits, the constructed bit, and a number below 31. Of
the universal class only the types below are known; in the other three classes every number is.
Each tag has exactly one octet, so a tag may be kept in place of the octet it was read from.
-/

namespace TrustChain.Der

/-- The classes whose tag numbers are free for each protocol to assign. -/
inductive TagClass where
  | application
  | contextSpecific
  | «private»
  deriving DecidableEq, Repr

/-- A known tag. The universal types carry their own constructed bit: a sequence and a set are
constructed, everything else is primitive. -/
inductive Tag where
  | boolean
  | integer
  | bitString
  | octetString
  | null
  | objectIdentifier
  | real
  | enumerated
  | utf8String
  | numericString
  | printableString
  | teletexString
  | videotexString
  | ia5String
  | utcTime
  | generalizedTime
  | visibleString
  | bmpString
  | sequence
  | set
  | classed (tagClass : TagClass) (constructed : Bool) (number : Fin 31)
  deriving DecidableEq, Repr

namespace TagClass

def bits : TagClass → Nat
  | application => 0x40
  | contextSpecific => 0x80
  | «private» => 0xc0

def name : TagClass → String
  | application => "APPLICATION"
  | contextSpecific => "CONTEXT-SPECIFIC"
  | «private» => "PRIVATE"

end TagClass

namespace Tag

def octet : Tag → UInt8
  | boolean => 0x01
  | integer => 0x02
  | bitString => 0x03
  | octetString => 0x04
  | null => 0x05
  | objectIdentifier => 0x06
  | real => 0x09
  | enumerated => 0x0a
  | utf8String => 0x0c
  | numericString => 0x12
  | printableString => 0x13
  | teletexString => 0x14
  | videotexString => 0x15
  | ia5String => 0x16
  | utcTime => 0x17
  | generalizedTime => 0x18
  | visibleString => 0x1a
  | bmpString => 0x1e
  | sequence => 0x30
  | set => 0x31
  | classed tagClass constructed number =>
    UInt8.ofNat (tagClass.bits + (if constructed then 0x20 else 0) + number)

/-- The five low bits, all ones, announce a tag number in the octets that follow; such numbers are
not supported. -/
def numberContinues (octet : UInt8) : Bool :=
  octet.toNat % 32 == 31

/-- The tag of an octet in one of the three assignable classes. -/
def ofClassed? (tagClass : TagClass) (octet : UInt8) : Option Tag :=
  if h : octet.toNat % 32 < 31 then
    some (classed tagClass (octet.toNat / 32 % 2 == 1) ⟨octet.toNat % 32, h⟩)
  else none

def ofOctet? (octet : UInt8) : Option Tag :=
  if octet.toNat < 0x40 then
    match octet.toNat with
    | 0x01 => some boolean
    | 0x02 => some integer
    | 0x03 => some bitString
    | 0x04 => some octetString
    | 0x05 => some null
    | 0x06 => some objectIdentifier
    | 0x09 => some real
    | 0x0a => some enumerated
    | 0x0c => some utf8String
    | 0x12 => some numericString
    | 0x13 => some printableString
    | 0x14 => some teletexString
    | 0x15 => some videotexString
    | 0x16 => some ia5String
    | 0x17 => some utcTime
    | 0x18 => some generalizedTime
    | 0x1a => some visibleString
    | 0x1e => some bmpString
    | 0x30 => some sequence
    | 0x31 => some set
    | _ => none
  else if octet.toNat < 0x80 then ofClassed? .application octet
  else if octet.toNat < 0xc0 then ofClassed? .contextSpecific octet
  else ofClassed? .private octet

def name : Tag → String
  | boolean => "BOOLEAN"
  | integer => "INTEGER"
  | bitString => "BIT STRING"
  | octetString => "OCTET STRING"
  | null => "NULL"
  | objectIdentifier => "OBJECT IDENTIFIER"
  | real => "REAL"
  | enumerated => "ENUMERATED"
  | utf8String => "UTF8String"
  | numericString => "NumericString"
  | printableString => "PrintableString"
  | teletexString => "TeletexString"
  | videotexString => "VideotexString"
  | ia5String => "IA5String"
  | utcTime => "UTCTime"
  | generalizedTime => "GeneralizedTime"
  | visibleString => "VisibleString"
  | bmpString => "BMPString"
  | sequence => "SEQUENCE"
  | set => "SET"
  | classed tagClass constructed number =>
    tagClass.name ++ " [" ++ toString number.val ++ "] (" ++
      (if constructed then "constructed" else "primitive") ++ ")"

/-- The context-specific tag `[n]`, constructed or primitive. -/
def context (constructed : Bool) (n : Fin 31) : Tag :=
  classed .contextSpecific constructed n

def contextNumber? : Tag → Option Nat
  | classed .contextSpecific _ number => some number
  | _ => none

end Tag

end TrustChain.Der
