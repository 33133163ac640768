import TrustChain.Proofs.Name.Equivalence

/-!
# Escaping can be undone

An escaped text is read back from left to right. Behind a backslash stands either a character that
was escaped as it is, or two hexadecimal digits, and no digit is escaped as it is, so that a reader
can tell the two apart; where the text begins and ends does not matter to it. The spelling of a
value that is text therefore has the text in it, and shows the characters that are escaped nowhere
else than behind a backslash.
-/

namespace TrustChain

namespace Attribute

/-- Undoes the escaping. Characters that have to be escaped are refused where they are not, and so
is a backslash in front of anything that is not an escape. -/
def unescape? : List Char → Option (List Char)
  | [] => some []
  | '\\' :: c :: rest =>
    if c = '#' ∨ c = ' ' ∨ isSpecial c then (unescape? rest).map (c :: ·)
    else
      match rest with
      | [] => none
      | d :: rest => do
        let high ← Octets.hexValue? c
        let low ← Octets.hexValue? d
        (unescape? rest).map (Char.ofNat (high * 16 + low) :: ·)
  | c :: rest => if isSpecial c ∨ isControl c then none else (unescape? rest).map (c :: ·)

theorem hexDigit_not_escaped {n : Nat} (h : n < 16) :
    ¬ (Octets.hexDigit n = '#' ∨ Octets.hexDigit n = ' ' ∨
      isSpecial (Octets.hexDigit n) = true) ∧ isControl (Octets.hexDigit n) = false := by
  have hall : ∀ n : Fin 16, ¬ (Octets.hexDigit n = '#' ∨ Octets.hexDigit n = ' ' ∨
      isSpecial (Octets.hexDigit n) = true) ∧ isControl (Octets.hexDigit n) = false := by
    decide
  exact hall ⟨n, h⟩

theorem unescape?_backslash {c : Char} (h : c = '#' ∨ c = ' ' ∨ isSpecial c = true)
    (rest : List Char) : unescape? ('\\' :: c :: rest) = (unescape? rest).map (c :: ·) := by
  cases rest with
  | nil => exact if_pos h
  | cons d rest => exact if_pos h

/-- The spelling of a character is read as this character, whatever stands behind it. -/
theorem Spells.unescape?_append {c : Char} {spelling : List Char} (h : Spells c spelling)
    (rest : List Char) : unescape? (spelling ++ rest) = (unescape? rest).map (c :: ·) := by
  cases h with
  | space => exact unescape?_backslash (.inr (.inl rfl)) rest
  | special hspecial => exact unescape?_backslash (hspecial.imp_right Or.inr) rest
  | control hcontrol =>
      -- No digit is escaped as it is, so the reader goes on to the second one.
      obtain ⟨hhigh, hlow⟩ := hexDigits_lt hcontrol
      have hcode : c.toNat / 16 * 16 + c.toNat % 16 = c.toNat := Nat.div_add_mod' _ _
      rw [List.cons_append, List.cons_append, List.cons_append, List.nil_append, unescape?,
        if_neg (hexDigit_not_escaped hhigh).1]
      simp only [hexValue?_hexDigit hhigh, hexValue?_hexDigit hlow, Option.bind_eq_bind,
        Option.bind_some]
      rw [hcode, Char.ofNat_toNat]
  | plain hspecial hcontrol =>
      rw [List.cons_append, List.nil_append, unescape?, if_neg (by simp [hspecial, hcontrol])]
      rintro d rest' ⟨⟩
      exact absurd rfl (ne_backslash_of_not_special hspecial)

theorem Spells.isControl_eq_false {c : Char} {spelling : List Char} (h : Spells c spelling)
    {d : Char} (hd : d ∈ spelling) : isControl d = false := by
  cases h with
  | space =>
      rw [List.mem_pair] at hd
      rcases hd with rfl | rfl <;> rfl
  | special hspecial =>
      rw [List.mem_pair] at hd
      rcases hd with rfl | rfl
      · rfl
      · rcases special_cases hspecial with rfl | rfl | rfl | rfl | rfl | rfl | rfl | rfl <;> rfl
  | control hcontrol =>
      obtain ⟨hhigh, hlow⟩ := hexDigits_lt hcontrol
      rw [List.mem_cons, List.mem_pair] at hd
      rcases hd with rfl | rfl | rfl
      · rfl
      · exact (hexDigit_not_escaped hhigh).2
      · exact (hexDigit_not_escaped hlow).2
  | plain hspecial hcontrol =>
      rwa [List.mem_singleton.1 hd]

/-! ### Texts -/

theorem exists_spellings_escapeFrom (isFirst : Bool) (text : List Char) :
    ∃ spellings, List.Forall₂ Spells text spellings ∧
      escapeFrom isFirst text = spellings.flatten := by
  induction text generalizing isFirst with
  | nil => exact ⟨[], .nil, rfl⟩
  | cons c text ih =>
      obtain ⟨spelling, hspells, hescape⟩ := exists_spells_escapeFrom isFirst c text
      obtain ⟨spellings, hall, hrest⟩ := ih false
      exact ⟨spelling :: spellings, .cons hspells hall, by rw [hescape, hrest, List.flatten_cons]⟩

theorem unescape?_flatten {text : List Char} {spellings : List (List Char)}
    (h : List.Forall₂ Spells text spellings) : unescape? spellings.flatten = some text := by
  induction h with
  | nil => rfl
  | cons hspells _ ih => rw [List.flatten_cons, hspells.unescape?_append, ih, Option.map_some]

theorem unescape?_escape (text : List Char) : unescape? (escape text) = some text := by
  obtain ⟨spellings, hall, hescape⟩ := exists_spellings_escapeFrom true text
  rw [escape, hescape, unescape?_flatten hall]

theorem isControl_eq_false_of_mem_flatten {text : List Char} {spellings : List (List Char)}
    (h : List.Forall₂ Spells text spellings) {d : Char} (hd : d ∈ spellings.flatten) :
    isControl d = false := by
  induction h with
  | nil => cases hd
  | cons hspells _ ih =>
      rw [List.flatten_cons, List.mem_append] at hd
      exact hd.elim hspells.isControl_eq_false ih

theorem valueText_eq_escape {attr : Attribute} {text : List Char}
    (h : attr.value.text? = some text) : attr.valueText = escape text := by
  rw [valueText, h]

/-- **The spelling of a text can be undone.** From the spelling of a value that is text the text is
read back, so different texts are never spelled alike. The spelling has no control character in it,
and it falls into spellings of the characters one by one, in which special characters stand as part
of an escape and nowhere else. -/
theorem unescape?_valueText :
    (∀ (attr : Attribute) text, attr.value.text? = some text →
      unescape? attr.valueText = some text) ∧
    (∀ (left right : Attribute) leftText rightText, left.value.text? = some leftText →
      right.value.text? = some rightText → left.valueText = right.valueText →
      leftText = rightText) ∧
    ∀ (attr : Attribute) text, attr.value.text? = some text →
      (∀ c ∈ attr.valueText, isControl c = false) ∧
      ∃ spellings, List.Forall₂ Spells text spellings ∧ attr.valueText = spellings.flatten := by
  have hread : ∀ (attr : Attribute) text, attr.value.text? = some text →
      unescape? attr.valueText = some text := by
    intro attr text h
    rw [valueText_eq_escape h, unescape?_escape]
  refine ⟨hread, ?_, ?_⟩
  · intro left right leftText rightText hleft hright hsame
    have hsameText := hread left leftText hleft
    rw [hsame, hread right rightText hright] at hsameText
    exact (Option.some.inj hsameText).symm
  · intro attr text h
    obtain ⟨spellings, hall, hescape⟩ := exists_spellings_escapeFrom true text
    rw [valueText_eq_escape h, escape, hescape]
    exact ⟨fun c hc => isControl_eq_false_of_mem_flatten hall hc, spellings, hall, rfl⟩

end Attribute

/-! ### A text with every kind of escape -/

namespace Sample

open Attribute

/-- A number sign, a space, special characters, control characters and digits, ending in a space. -/
def awkward : Attribute := common .ia5String (Text.ascii "# \\20\"\t\x7f+ ")

/-- The text comes back, and the digits behind the backslash in it are not taken for an escape. -/
theorem unescape?_awkward :
    awkward.value.text? = some "# \\20\"\t\x7f+ ".toList ∧
    unescape? awkward.valueText = some "# \\20\"\t\x7f+ ".toList ∧
    (∀ c ∈ awkward.valueText, isControl c = false) ∧
    awkward.valueText = "\\# \\\\20\\\"\\09\\7f\\+\\ ".toList := by
  have htext : awkward.value.text? = some "# \\20\"\t\x7f+ ".toList := by decide +kernel
  obtain ⟨hread, -, hshown⟩ := unescape?_valueText
  exact ⟨htext, hread _ _ htext, (hshown _ _ htext).1, by decide +kernel⟩

end Sample

end TrustChain
