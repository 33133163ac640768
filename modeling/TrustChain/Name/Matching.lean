import TrustChain.Name.Text
import TrustChain.Text.Blank
import TrustChain.Text.Lowercase

/-!
# Name matching

Two names match when they have the same number of relative names and these match pairwise. Relative
names match when they are identical, or when they have the same number of attributes and the
attributes, each set taken in its order, agree in type and in value. Values are compared as text
without regard to letter case, to blanks at the ends and to the length of runs of blanks inside.
-/

namespace TrustChain

namespace Attribute

/-- Undoes the escaping of spaces, and of nothing else. -/
def plainSpaces : List Char → List Char
  | '\\' :: ' ' :: rest => ' ' :: plainSpaces rest
  | c :: rest => c :: plainSpaces rest
  | [] => []

/-- The value without the distinctions of case and of blanks at the ends. -/
def foldedValue (attr : Attribute) : List Char :=
  Text.lowercase (Text.trim (plainSpaces attr.valueText))

/-- Attributes agree when their types are equal and their values are equal as they stand or after
collapsing runs of blanks. -/
def agrees (left right : Attribute) : Bool :=
  left.type == right.type &&
    (left.foldedValue == right.foldedValue ||
      Text.collapse left.foldedValue == Text.collapse right.foldedValue)

end Attribute

namespace RelativeName

/-- Relative names of one size match when they are identical or their attributes agree in turn. -/
def agrees (left right : RelativeName) : Bool :=
  left.attributes.length == right.attributes.length &&
    (left == right ||
      (left.attributes.zip right.attributes).all fun (l, r) => l.agrees r)

end RelativeName

namespace Name

def agrees (left right : Name) : Bool :=
  left.relatives.length == right.relatives.length &&
    (left.relatives.zip right.relatives).all fun (l, r) => l.agrees r

end Name

end TrustChain
