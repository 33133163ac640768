import TrustChain.Oid

/-!
# Distinguished names

A name is a sequence of relative names, each of them a set of attributes. The attributes of a set
have no order of their own; they are kept in the order of their encodings, which is the order DER
writes them in, and no two of them are equal. A relative name therefore has one representation, and
decoding a name in any order and encoding it again gives the canonical form.
-/

namespace TrustChain

/-- A type and its value, which may be of any type. -/
structure Attribute where
  type : Oid
  value : Der.Element
  deriving DecidableEq

namespace Attribute

def encode (attr : Attribute) : Octets :=
  Der.encodeElement .sequence (attr.type.encode ++ attr.value.encode)

def decode : Der.Decoder Attribute :=
  .within .sequence do
    let type ← Oid.decode
    let value ← Der.Decoder.element
    return ⟨type, value⟩

end Attribute

/-- A set of attributes, in the order of their encodings. -/
structure RelativeName where
  attributes : List Attribute
  ordered : attributes.Pairwise fun a b => a.encode < b.encode
  deriving DecidableEq

namespace RelativeName

/-- Puts attributes in order. Equal attributes are refused. -/
def ofAttributes? (attributes : List Attribute) : Option RelativeName :=
  let sorted := attributes.mergeSort fun a b => decide ¬ b.encode < a.encode
  if h : sorted.Pairwise fun a b => a.encode < b.encode then some ⟨sorted, h⟩ else none

def encode (relative : RelativeName) : Octets :=
  Der.encodeElement .set (relative.attributes.flatMap Attribute.encode)

def decode : Der.Decoder RelativeName := do
  let attributes ← Der.Decoder.listOf .set Attribute.decode
  match ofAttributes? attributes with
  | some relative => return relative
  | none => failure

end RelativeName

/-- A distinguished name, from the root of the directory down. -/
structure Name where
  relatives : List RelativeName
  deriving DecidableEq

namespace Name

def encode (name : Name) : Octets :=
  Der.encodeElement .sequence (name.relatives.flatMap RelativeName.encode)

def decode : Der.Decoder Name := do
  let relatives ← Der.Decoder.listOf .sequence RelativeName.decode
  return ⟨relatives⟩

end Name

end TrustChain
