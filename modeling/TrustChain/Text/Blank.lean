/-!
# White space

The characters with the Unicode White_Space property, and the two ways in which a comparison of
names disregards them: blanks at the ends are dropped and runs of blanks inside count as one space.
-/

namespace TrustChain.Text

def isBlank (c : Char) : Bool :=
  let n := c.toNat
  (0x09 ≤ n && n ≤ 0x0d) || n == 0x20 || n == 0x85 || n == 0xa0 || n == 0x1680 ||
    (0x2000 ≤ n && n ≤ 0x200a) || n == 0x2028 || n == 0x2029 || n == 0x202f || n == 0x205f ||
    n == 0x3000

def trim (text : List Char) : List Char :=
  ((text.dropWhile isBlank).reverse.dropWhile isBlank).reverse

/-- Writes each run of blanks as one space. `inRun` says that a blank was just written. -/
def collapseFrom (inRun : Bool) : List Char → List Char
  | [] => []
  | c :: rest =>
    if isBlank c then
      if inRun then collapseFrom true rest else ' ' :: collapseFrom true rest
    else c :: collapseFrom false rest

/-- Writes each run of blanks as one space. -/
def collapse (text : List Char) : List Char := collapseFrom false text

end TrustChain.Text
