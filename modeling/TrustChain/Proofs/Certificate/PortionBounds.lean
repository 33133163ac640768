import TrustChain.Certificate.SignedPortion
import TrustChain.Proofs.Der.Decoder

/-!
# Where the signed portion is found

The signed portion is cut out of any octets at all, whether or not they are a certificate. What
decides is two well-formed headers: the one in front, whose length is not looked at, and the one
behind it, which with the content it announces has to be there. So the portion is found in exactly
the octets that start with these, no shorter part of them has one, and what stands behind the
portion does not matter.
-/

namespace TrustChain

open Der (Header IsHeader encodeElement maxLength)

variable {encoding portion : Octets}

theorem encodeElement_take {header : Header} {after : Octets}
    (henough : header.length ≤ after.length) :
    encodeElement header.tag (after.take header.length) =
      header.encode ++ after.take header.length := by
  rw [Der.encodeElement_eq, List.length_take_of_le henough]

theorem exists_element_of_signedPortion (h : signedPortion encoding = .ok portion) :
    encoding.length ≤ maxLength ∧ ∃ (outer : Header) (tag : Der.Tag) (content rest : Octets),
      outer.length ≤ maxLength ∧ encoding = outer.encode ++ (encodeElement tag content ++ rest) ∧
      portion = encodeElement tag content := by
  unfold signedPortion at h
  dsimp only at h
  split at h
  · cases h
  · rename_i hlimit
    refine ⟨Nat.not_lt.1 hlimit, ?_⟩
    split at h
    · cases h
    · rename_i outer inner houter
      obtain ⟨hlength, rfl⟩ := Header.read_eq_ok_iff.1 houter
      split at h
      · cases h
      · rename_i header after hinner
        obtain ⟨-, rfl⟩ := Header.read_eq_ok_iff.1 hinner
        split at h
        · cases h
        · split at h
          · rename_i hsize
            rw [List.length_append, header.length_encode] at hsize
            have henough : header.length ≤ after.length := by omega
            refine ⟨outer, header.tag, after.take header.length, after.drop header.length,
              hlength, ?_, ?_⟩
            · rw [encodeElement_take henough, List.append_assoc, List.take_append_drop]
            · rw [encodeElement_take henough, ← Except.ok.inj h, ← header.length_encode,
                List.take_length_add_append]
          · split at h <;> cases h

theorem signedPortion_of_element {outer : Header} (houter : outer.length ≤ maxLength)
    {tag : Der.Tag} {content rest : Octets}
    (hlimit : (outer.encode ++ (encodeElement tag content ++ rest)).length ≤ maxLength) :
    signedPortion (outer.encode ++ (encodeElement tag content ++ rest)) =
      .ok (encodeElement tag content) := by
  have hsize : (encodeElement tag content).length =
      (Header.mk tag content.length).size + content.length := by
    rw [Der.encodeElement_eq, List.length_append, Header.length_encode]
  have hbound : (encodeElement tag content).length + rest.length ≤ maxLength := by
    rw [List.length_append, List.length_append] at hlimit
    omega
  have houterRead : ∀ total,
      Header.read total (outer.encode ++ (encodeElement tag content ++ rest)) =
        .ok (outer, encodeElement tag content ++ rest) :=
    fun total => Header.read_eq_ok_iff.2 ⟨houter, rfl⟩
  have hinnerRead : ∀ total, Header.read total (encodeElement tag content ++ rest) =
      .ok (⟨tag, content.length⟩, content ++ rest) := by
    intro total
    refine Header.read_eq_ok_iff.2 ⟨?_, by rw [Der.encodeElement_eq, List.append_assoc]⟩
    dsimp only
    omega
  unfold signedPortion
  dsimp only
  rw [if_neg (Nat.not_lt.2 hlimit), houterRead]
  dsimp only
  rw [hinnerRead]
  dsimp only
  rw [← hsize, if_neg (by omega), if_pos (by rw [List.length_append]; omega), List.take_left]

theorem signedPortion_eq_ok_iff :
    signedPortion encoding = .ok portion ↔
      encoding.length ≤ maxLength ∧ ∃ (outer : Header) (tag : Der.Tag) (content rest : Octets),
        outer.length ≤ maxLength ∧ encoding = outer.encode ++ (encodeElement tag content ++ rest) ∧
        portion = encodeElement tag content := by
  refine ⟨exists_element_of_signedPortion, ?_⟩
  rintro ⟨hlimit, outer, tag, content, rest, houter, rfl, rfl⟩
  exact signedPortion_of_element houter hlimit

/-! ### In octets -/

/-- A header that announces anything, and an element behind it, in a header and content of the
length that is announced there. -/
structure Encloses (outer inner content : Octets) : Prop where
  outer_isHeader : ∃ length, IsHeader outer length
  inner_isHeader : IsHeader inner content.length
  length_le : inner.length + content.length ≤ maxLength

theorem encloses_iff {outer inner content : Octets} :
    Encloses outer inner content ↔
      (∃ header : Header, header.length ≤ maxLength ∧ outer = header.encode) ∧
      (∃ tag, inner ++ content = encodeElement tag content) ∧
      inner.length + content.length ≤ maxLength := by
  constructor
  · rintro ⟨⟨length, houter⟩, hinner, hlength⟩
    obtain ⟨hmax, tag, rfl⟩ := Der.isHeader_iff.1 houter
    obtain ⟨-, tag', rfl⟩ := Der.isHeader_iff.1 hinner
    exact ⟨⟨⟨tag, length⟩, hmax, rfl⟩, ⟨tag', rfl⟩, hlength⟩
  · rintro ⟨⟨header, hmax, rfl⟩, ⟨tag, helement⟩, hlength⟩
    obtain rfl : inner = Header.encode ⟨tag, content.length⟩ := List.append_cancel_right helement
    exact ⟨⟨header.length, Der.isHeader_iff.2 ⟨hmax, header.tag, rfl⟩⟩,
      Der.isHeader_iff.2 ⟨by omega, tag, rfl⟩, hlength⟩

theorem signedPortion_eq_ok_iff_encloses {encoding portion : Octets}
    (hlimit : encoding.length ≤ maxLength) :
    signedPortion encoding = .ok portion ↔
      ∃ outer inner content rest, Encloses outer inner content ∧
        encoding = outer ++ (inner ++ content) ++ rest ∧ portion = inner ++ content := by
  rw [signedPortion_eq_ok_iff, and_iff_right hlimit]
  constructor
  · rintro ⟨header, tag, content, rest, hmax, rfl, rfl⟩
    have hlength : (encodeElement tag content).length ≤ maxLength := by
      rw [List.length_append, List.length_append] at hlimit
      omega
    rw [Der.encodeElement_eq, List.length_append] at hlength
    exact ⟨header.encode, Header.encode ⟨tag, content.length⟩, content, rest,
      encloses_iff.2 ⟨⟨header, hmax, rfl⟩, ⟨tag, rfl⟩, hlength⟩, (List.append_assoc _ _ _).symm,
      rfl⟩
  · rintro ⟨outer, inner, content, rest, hencloses, rfl, rfl⟩
    obtain ⟨⟨header, hmax, rfl⟩, ⟨tag, helement⟩, -⟩ := encloses_iff.1 hencloses
    exact ⟨header, tag, content, rest, hmax, by rw [helement, List.append_assoc], helement⟩

/-- What encloses is found again, and ends where it ended, in everything that starts with it. -/
theorem Encloses.length_eq {outer inner content rest outer' inner' content' rest' : Octets}
    (h : Encloses outer inner content) (h' : Encloses outer' inner' content')
    (hsame : outer ++ (inner ++ content) ++ rest = outer' ++ (inner' ++ content') ++ rest') :
    (outer ++ (inner ++ content)).length = (outer' ++ (inner' ++ content')).length := by
  obtain ⟨⟨header, hmax, rfl⟩, ⟨tag, helement⟩, hlength⟩ := encloses_iff.1 h
  obtain ⟨⟨header', hmax', rfl⟩, ⟨tag', helement'⟩, hlength'⟩ := encloses_iff.1 h'
  rw [helement, helement', List.append_assoc, List.append_assoc] at hsame
  -- Of the same octets the two outer headers are the same, and then the two elements are.
  have hread := (@Header.read_eq_ok_iff 0 _ _ header).2 ⟨hmax, hsame.symm⟩
  rw [Header.read_eq_ok_iff.2 ⟨hmax', rfl⟩] at hread
  obtain ⟨rfl, hinner⟩ := Prod.mk.inj (Except.ok.inj hread)
  have htake : Der.Decoder.element (encodeElement tag' content' ++ rest') =
      some (⟨tag', content'⟩, rest') :=
    Der.Decoder.element_eq_some_iff.2 ⟨by dsimp only; omega, rfl⟩
  have htake' : Der.Decoder.element (encodeElement tag' content' ++ rest') =
      some (⟨tag, content⟩, rest) :=
    Der.Decoder.element_eq_some_iff.2 ⟨by dsimp only; omega, hinner⟩
  rw [htake] at htake'
  obtain ⟨hsameElement, -⟩ := Prod.mk.inj (Option.some.inj htake')
  obtain ⟨rfl, rfl⟩ := Der.Element.mk.inj hsameElement
  rw [helement, helement']

/-- Cut off before its end, the portion is not found, and neither is a shorter one. -/
theorem signedPortion_take_eq_error {outer inner content rest : Octets}
    (hencloses : Encloses outer inner content)
    (hlimit : (outer ++ (inner ++ content) ++ rest).length ≤ maxLength) {n : Nat}
    (hn : n < (outer ++ (inner ++ content)).length) :
    ∃ e, signedPortion ((outer ++ (inner ++ content) ++ rest).take n) = .error e := by
  have hshort : ((outer ++ (inner ++ content) ++ rest).take n).length ≤ n := List.length_take_le _ _
  cases hresult : signedPortion ((outer ++ (inner ++ content) ++ rest).take n) with
  | error e => exact ⟨e, rfl⟩
  | ok portion =>
      rw [List.length_append] at hlimit
      obtain ⟨outer', inner', content', rest', hencloses', htake, -⟩ :=
        (signedPortion_eq_ok_iff_encloses (by omega)).1 hresult
      have hwhole := List.take_append_drop n (outer ++ (inner ++ content) ++ rest)
      rw [htake, List.append_assoc _ rest'] at hwhole
      have hlength := hencloses'.length_eq hencloses hwhole
      rw [htake, List.length_append] at hshort
      omega

/-- **The signed portion is bounded by two headers.** Of octets that are not too many, it is found
exactly in those that start with a header and an element, and then it is the element. If they are
cut off anywhere before its end, there is an error; and what stands behind it may be anything. -/
theorem signedPortion_isBounded {encoding : Octets} (hlimit : encoding.length ≤ maxLength) :
    (∀ portion, signedPortion encoding = .ok portion ↔
      ∃ outer inner content rest, Encloses outer inner content ∧
        encoding = outer ++ (inner ++ content) ++ rest ∧ portion = inner ++ content) ∧
    ∀ outer inner content rest, Encloses outer inner content →
      encoding = outer ++ (inner ++ content) ++ rest →
      (∀ n < (outer ++ (inner ++ content)).length,
        ∃ e, signedPortion (encoding.take n) = .error e) ∧
      ∀ other, (outer ++ (inner ++ content) ++ other).length ≤ maxLength →
        signedPortion (outer ++ (inner ++ content) ++ other) = .ok (inner ++ content) := by
  refine ⟨fun portion => signedPortion_eq_ok_iff_encloses hlimit, ?_⟩
  rintro outer inner content rest hencloses rfl
  refine ⟨fun n hn => signedPortion_take_eq_error hencloses hlimit hn, ?_⟩
  intro other hother
  exact (signedPortion_eq_ok_iff_encloses hother).2
    ⟨outer, inner, content, other, hencloses, rfl, rfl⟩

/-! ### An outer length that is wrong -/

namespace Sample

/-- A header that announces 128 octets, an INTEGER, and one octet more. -/
def overstated : Octets := [0x30, 0x81, 0x80] ++ ([0x02, 0x01] ++ [0x07]) ++ [0xff]

theorem encloses_overstated : Encloses [0x30, 0x81, 0x80] [0x02, 0x01] [0x07] where
  outer_isHeader := ⟨128, @IsHeader.tagged 0x30 .sequence [0x81, 0x80] 128 rfl
    (@Der.SpellsLength.long 0x81 0x80 [] rfl (by decide) (by decide) (by decide))⟩
  inner_isHeader := @IsHeader.tagged 0x02 .integer [0x01] 1 rfl
    (@Der.SpellsLength.short 0x01 (by decide))
  length_le := by decide

/-- The INTEGER is the signed portion, with or without the octet behind it, and not without any
other octet. -/
theorem signedPortion_overstated :
    overstated.length ≤ maxLength ∧
    signedPortion overstated = .ok [0x02, 0x01, 0x07] ∧
    (∀ n < 6, ∃ e, signedPortion (overstated.take n) = .error e) ∧
    signedPortion [0x30, 0x81, 0x80, 0x02, 0x01, 0x07] = .ok [0x02, 0x01, 0x07] := by
  have hlimit : overstated.length ≤ maxLength := by decide
  obtain ⟨hfound, hbounded⟩ := signedPortion_isBounded hlimit
  obtain ⟨hcut, hreplaced⟩ := hbounded _ _ _ _ encloses_overstated rfl
  exact ⟨hlimit, (hfound _).2 ⟨_, _, _, _, encloses_overstated, rfl, rfl⟩, hcut,
    hreplaced [] (by decide)⟩

end Sample

end TrustChain
