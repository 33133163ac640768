import TrustChain.Der.Header

/-!
# DER elements and decoders

An element is a tag and the content under it. A decoder takes a value from the front of its input
and leaves the rest, or fails; sequences, sets and tagged fields are decoded by handing the content
of an element to another decoder, which has to use it up.
-/

namespace TrustChain.Der

/-- One tag-length-value triple with its length left implicit. -/
structure Element where
  tag : Tag
  content : Octets
  deriving DecidableEq, Repr

def encodeElement (tag : Tag) (content : Octets) : Octets :=
  Header.encode ⟨tag, content.length⟩ ++ content

def Element.encode (element : Element) : Octets :=
  encodeElement element.tag element.content

/-- A decoder takes a value from the front of an octet string and leaves the rest. -/
abbrev Decoder (α : Type) := StateT Octets Option α

namespace Decoder

variable {α : Type}

/-- Takes one element, whatever its tag. -/
def element : Decoder Element := fun input =>
  match Header.read input.length input with
  | .error _ => none
  | .ok (header, rest) =>
    if header.length ≤ rest.length then
      some (⟨header.tag, rest.take header.length⟩, rest.drop header.length)
    else none

/-- Takes one element of the given tag and returns its content. -/
def content (tag : Tag) : Decoder Octets := do
  let e ← element
  if e.tag = tag then return e.content else failure

/-- Decodes all of an input, which has to be of a supported length: nothing may be left. -/
def complete (decoder : Decoder α) (input : Octets) : Option α :=
  if maxLength < input.length then none
  else
    match decoder input with
    | some (value, []) => some value
    | _ => none

/-- Takes one element of the given tag and decodes all of its content. -/
def within (tag : Tag) (inner : Decoder α) : Decoder α := do
  let octets ← content tag
  match inner.complete octets with
  | some value => return value
  | none => failure

/-- The tag of the element at the front; `none` at the end of the input. An unknown tag fails. -/
def peekTag : Decoder (Option Tag) := fun input =>
  match input with
  | [] => some (none, [])
  | first :: rest => (Tag.ofOctet? first).map fun tag => (some tag, first :: rest)

/-- Decodes a value if the element at the front has a tag that it can start with. -/
def optional (accepts : Tag → Bool) (decoder : Decoder α) : Decoder (Option α) := do
  match ← peekTag with
  | some tag => if accepts tag then some <$> decoder else return none
  | none => return none

/-- Decodes values until the input is used up. Each of them has to take at least one octet. -/
def many (item : Decoder α) (input : Octets) : Option (List α) :=
  if input = [] then some []
  else
    match item input with
    | none => none
    | some (value, rest) =>
      if rest.length < input.length then (many item rest).map (value :: ·) else none
termination_by input.length

def listOf (tag : Tag) (item : Decoder α) : Decoder (List α) := do
  let octets ← content tag
  match many item octets with
  | some values => return values
  | none => failure

/-- Looks for the context-specific field `[n]`: elements with a smaller context-specific number are
passed over, and anything else at the front means that the field is absent. -/
def field (n : Nat) (decoder : Decoder α) (input : Octets) : Option (Option α × Octets) :=
  match input with
  | [] => some (none, [])
  | first :: rest =>
    match Tag.ofOctet? first with
    | none => none
    | some tag =>
      match tag.contextNumber? with
      | none => some (none, first :: rest)
      | some k =>
        if k = n then (decoder (first :: rest)).map fun (value, left) => (some value, left)
        else if n < k then some (none, first :: rest)
        else
          match element (first :: rest) with
          | none => none
          | some (_, left) =>
            if left.length < (first :: rest).length then field n decoder left else none
termination_by input.length
decreasing_by assumption

/-- The field `[n] EXPLICIT`: the value is wrapped in a constructed element. -/
def explicitField (n : Fin 31) (inner : Decoder α) : Decoder (Option α) :=
  field n (within (.context true n) inner)

/-- The field `[n] IMPLICIT` of a primitive type, whose content is read by `ofContent`. -/
def implicitField (n : Fin 31) (ofContent : Octets → Option α) : Decoder (Option α) :=
  field n do
    let octets ← content (.context false n)
    match ofContent octets with
    | some value => return value
    | none => failure

end Decoder

end TrustChain.Der
