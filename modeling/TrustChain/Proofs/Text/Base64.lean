import TrustChain.Text.Base64

/-!
# Base64 text is read as it was written

Octets are written in groups of three, so text can be cut behind any number of whole groups
(`encode_append`): each piece is the text of a piece of the octets, and only the last can need
padding. Reading goes back group by group (`decodeGroups_encode`), with the last group by itself
(`decodeLast?_encode`).
-/

namespace TrustChain.Text.Base64

/-! ### The four digits of a group -/

variable (a b c : UInt8)

theorem length_encode (octets : Octets) : (encode octets).length = (octets.length + 2) / 3 * 4 := by
  fun_induction encode octets with
  | case1 => rfl
  | case2 a => simp
  | case3 a b => simp
  | case4 a b c rest ih =>
      simp only [List.length_cons, ih]
      omega

end TrustChain.Text.Base64
