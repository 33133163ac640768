import TrustChain.Name
import TrustChain.Text.Utf8

/-!
# Names as text

A name prints in the style of RFC 4514: relative names from the last to the first, joined by commas,
and the attributes of each joined by plus signs. A value that is a character string prints as its
characters with the ones that would be ambiguous escaped; any other value prints as the hexadecimal
octets of its encoding, behind the attribute type in dotted decimal.

There are two readings of a value as characters. `text?` is the one that comparisons use;
`displayText?`, which printing uses, also reads TeletexString.
-/

namespace TrustChain

def isPrintableChar (octet : UInt8) : Bool :=
  let c := Char.ofNat octet.toNat
  octet < 0x80 && (c.isAlphanum || " '()+,-./:=?".toList.contains c)

namespace Der.Element

/-- The characters of a value that is a PrintableString, UTF8String or IA5String. -/
def text? (value : Element) : Option (List Char) :=
  match value.tag with
  | .printableString =>
    if value.content.all isPrintableChar then Text.ofAscii? value.content else none
  | .utf8String => Text.ofUtf8? value.content
  | .ia5String => Text.ofAscii? value.content
  | _ => none

/-- The characters of a value that prints as text. -/
def displayText? (value : Element) : Option (List Char) :=
  match value.tag with
  | .teletexString => Text.ofAscii? value.content
  | _ => value.text?

end Der.Element

namespace Attribute

def isSpecial (c : Char) : Bool :=
  c == '"' || c == '+' || c == ',' || c == ';' || c == '<' || c == '>' || c == '\\'

/-- The spelling of one character: a number sign is escaped at the start of a text, a space at
either end, and a control character is written as the hexadecimal digits of its code. -/
def escapeChar (isFirst isLast : Bool) (c : Char) : List Char :=
  if c = '#' ∧ isFirst then ['\\', '#']
  else if c = ' ' ∧ (isFirst ∨ isLast) then ['\\', ' ']
  else if isSpecial c then ['\\', c]
  else if c.toNat < 0x20 ∨ c.toNat = 0x7f then '\\' :: Octets.hexPair (UInt8.ofNat c.toNat)
  else [c]

/-- The spelling of the characters from some point on. -/
def escapeFrom (isFirst : Bool) : List Char → List Char
  | [] => []
  | c :: rest => escapeChar isFirst rest.isEmpty c ++ escapeFrom false rest

def escape (text : List Char) : List Char := escapeFrom true text

/-- The spelling of an attribute whose value is not text: the attribute type, `=#`, and the
hexadecimal octets of the encoded value. A value that was read can be encoded, in no more octets
than it was read from. -/
def octetText (attr : Attribute) : List Char :=
  attr.type.toDotted.toList ++ '=' :: '#' :: attr.value.encode.flatMap Octets.hexPair

/-- The value of an attribute as it is compared: escaped text, or the octets of the encoding. -/
def valueText (attr : Attribute) : List Char :=
  match attr.value.text? with
  | some text => escape text
  | none => attr.octetText

def keywords : List (Octets × String) := [
  ([0x55, 0x04, 0x03], "CN"),
  ([0x55, 0x04, 0x04], "SN"),
  ([0x55, 0x04, 0x05], "SERIALNUMBER"),
  ([0x55, 0x04, 0x06], "C"),
  ([0x55, 0x04, 0x07], "L"),
  ([0x55, 0x04, 0x08], "ST"),
  ([0x55, 0x04, 0x09], "STREET"),
  ([0x55, 0x04, 0x0a], "O"),
  ([0x55, 0x04, 0x0b], "OU"),
  ([0x55, 0x04, 0x0c], "TITLE"),
  ([0x55, 0x04, 0x2a], "GIVENNAME"),
  ([0x09, 0x92, 0x26, 0x89, 0x93, 0xf2, 0x2c, 0x64, 0x01, 0x01], "UID"),
  ([0x09, 0x92, 0x26, 0x89, 0x93, 0xf2, 0x2c, 0x64, 0x01, 0x19], "DC"),
  ([0x2a, 0x86, 0x48, 0x86, 0xf7, 0x0d, 0x01, 0x09, 0x01], "EMAIL")]

def keyword? (type : Oid) : Option String := keywords.lookup type.content

/-- An attribute prints by keyword and text when it has both. -/
def print (attr : Attribute) : List Char :=
  match keyword? attr.type, attr.value.displayText? with
  | some keyword, some text => keyword.toList ++ '=' :: escape text
  | _, _ => attr.octetText

end Attribute

namespace RelativeName

def print (relative : RelativeName) : List Char :=
  ['+'].intercalate (relative.attributes.map Attribute.print)

end RelativeName

namespace Name

def print (name : Name) : List Char :=
  [','].intercalate (name.relatives.reverse.map RelativeName.print)

def text (name : Name) : String := String.ofList name.print

end Name

end TrustChain
