import TrustChain.Text.CaseData

/-!
# Lower case

The full Unicode lower case mapping of a text, without regard to language. Two letters do not map to
one letter of their own: the capital I with a dot above becomes a small i and a combining dot, and a
capital sigma becomes the final form at the end of a word.
-/

namespace TrustChain.Text

/-- The lower case form of a character on its own. -/
def lowerChar (c : Char) : List Char :=
  if c.toNat < 0x80 then [c.toLower]
  else if c.toNat = 0x130 then ['i', Char.ofNat 0x307]
  else
    match caseRuns.find? fun run =>
      run.first ≤ c.toNat && c.toNat ≤ run.last && (c.toNat - run.first) % run.step == 0 with
    | some run => [Char.ofNat (c.toNat + run.shift).toNat]
    | none => [c]

/-- Whether the nearest character that counts is a letter with case. -/
def nextIsCased (neighbours : List Char) : Bool :=
  match neighbours.dropWhile fun c => inRanges caseIgnorableRanges c.toNat with
  | [] => false
  | c :: _ => inRanges casedRanges c.toNat

/-- The form of a capital sigma in lower case: final after a letter and before none. -/
def lowerSigma (before after : List Char) : Char :=
  if nextIsCased before && !nextIsCased after then Char.ofNat 0x3c2 else Char.ofNat 0x3c3

/-- Lower case of a text that follows `before`, which is given last character first. -/
def lowercaseAfter (before : List Char) : List Char → List Char
  | [] => []
  | c :: rest =>
    (if c.toNat = 0x3a3 then [lowerSigma before rest] else lowerChar c) ++
      lowercaseAfter (c :: before) rest

def lowercase (text : List Char) : List Char := lowercaseAfter [] text

end TrustChain.Text
