import TrustChain.Octets
import TrustChain.Text.Unprintable

/-!
# Quoted text

Text between double quotes, in which a quote, a backslash and a character that has no shape of its
own are written as escape sequences. It is the form in which texts appear inside the description of
a value.
-/

namespace TrustChain.Text

/-- The hexadecimal digits of a number, without leading zeros, in front of `tail`. -/
def hexDigits (n : Nat) (tail : List Char) : List Char :=
  if n < 16 then Octets.hexDigit n :: tail
  else hexDigits (n / 16) (Octets.hexDigit (n % 16) :: tail)

def quotedChar (c : Char) : List Char :=
  if c = '"' ∨ c = '\\' then ['\\', c]
  else if c = '\n' then ['\\', 'n']
  else if c = '\r' then ['\\', 'r']
  else if c = '\t' then ['\\', 't']
  else if c.toNat = 0 then ['\\', '0']
  else if isUnprintable c then
    '\\' :: 'u' :: '{' :: hexDigits c.toNat ['}']
  else [c]

def quoted (text : List Char) : List Char :=
  '"' :: text.flatMap quotedChar ++ ['"']

end TrustChain.Text
