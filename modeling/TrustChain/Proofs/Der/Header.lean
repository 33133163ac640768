import TrustChain.Der.Header
import Mathlib.Algebra.Group.Nat.Defs
import Mathlib.Data.List.Induction

/-!
# A header has one spelling

A tag is determined by its octet, and a length by its octets, because the long form has to use as
few of them as it can. So reading a header and writing it are inverse to each other: what
`Header.read` takes from the front of an input is exactly `Header.encode` of what it returns. Two
readers of the same octets can therefore not disagree about where a header ends. `IsHeader` says
without either of them which octets are a header: the octet of a known tag, and a length in its one
spelling.
-/

namespace TrustChain

namespace Octets

theorem toNat_concat (octets : Octets) (last : UInt8) :
    toNat (octets ++ [last]) = toNat octets * 256 + last.toNat := by
  unfold toNat
  rw [List.foldl_append]
  rfl

theorem toNat_ofNat (width n : Nat) : toNat (ofNat width n) = n % 256 ^ width := by
  induction width generalizing n with
  | zero =>
      rw [Nat.pow_zero, Nat.mod_one]
      rfl
  | succ width ih =>
      have hdigit : (UInt8.ofNat n).toNat = n % 256 := UInt8.toNat_ofNat'
      rw [ofNat, toNat_concat, ih, hdigit, Nat.pow_succ', Nat.mod_mul]
      omega

theorem ofNat_toNat (octets : Octets) : ofNat octets.length (toNat octets) = octets := by
  induction octets using List.reverseRecOn with
  | nil => rfl
  | append_singleton octets last ih =>
      have hlast := last.toNat_lt
      have hhigh : (toNat octets * 256 + last.toNat) / 256 = toNat octets := by omega
      have hlow : UInt8.ofNat (toNat octets * 256 + last.toNat) = last := by
        apply UInt8.toNat_inj.1
        rw [UInt8.toNat_ofNat']
        omega
      rw [List.length_append, List.length_singleton, ofNat, toNat_concat, hhigh, hlow, ih]

theorem toNat_cons (first : UInt8) (rest : Octets) :
    toNat (first :: rest) = first.toNat * 256 ^ rest.length + toNat rest := by
  induction rest using List.reverseRecOn with
  | nil => simp [toNat]
  | append_singleton rest last ih =>
      rw [← List.cons_append, toNat_concat, toNat_concat, ih, List.length_append,
        List.length_singleton, Nat.pow_succ, Nat.add_mul, Nat.mul_assoc, Nat.add_assoc]

theorem toNat_lt (octets : Octets) : toNat octets < 256 ^ octets.length := by
  have hvalue := toNat_ofNat octets.length (toNat octets)
  rw [ofNat_toNat] at hvalue
  rw [hvalue]
  exact Nat.mod_lt _ (Nat.pow_pos (by decide))

/-- With no zero in front, all the octets count. -/
theorem pow_le_toNat_cons {first : UInt8} (h : first ≠ 0) (rest : Octets) :
    256 ^ rest.length ≤ toNat (first :: rest) := by
  have hpos : 1 ≤ first.toNat := by
    rw [Nat.one_le_iff_ne_zero]
    exact fun hzero => h (UInt8.toNat_inj.1 hzero)
  rw [toNat_cons]
  exact Nat.le_add_right_of_le (Nat.le_mul_of_pos_left _ hpos)

end Octets

namespace Der

/-! ### Tags -/

theorem Tag.ofOctet?_octet (tag : Tag) : ofOctet? tag.octet = some tag := by
  cases tag with
  | classed tagClass constructed number =>
      cases tagClass <;> revert constructed number <;> decide
  | _ => rfl

theorem Tag.octet_of_ofOctet? {octet : UInt8} {tag : Tag} (h : ofOctet? octet = some tag) :
    tag.octet = octet := by
  have hall : ∀ n : Fin 256, ∀ tag ∈ ofOctet? (UInt8.ofNat n), tag.octet = UInt8.ofNat n := by
    decide +kernel
  have hspec := hall ⟨octet.toNat, octet.toNat_lt⟩ tag
  rw [UInt8.ofNat_toNat] at hspec
  exact hspec h

/-! ### Lengths -/

theorem lengthDigits_pos (length : Nat) : 1 ≤ lengthDigits length := by
  unfold lengthDigits
  split_ifs <;> omega

theorem lengthDigits_le (length : Nat) : lengthDigits length ≤ 4 := by
  unfold lengthDigits
  split_ifs <;> omega

theorem lt_pow_lengthDigits {length : Nat} (h : length ≤ maxLength) :
    length < 256 ^ lengthDigits length := by
  unfold maxLength at h
  unfold lengthDigits
  split_ifs <;> omega

theorem pow_lengthDigits_le {length : Nat} (h : 0 < length) :
    256 ^ (lengthDigits length - 1) ≤ length := by
  unfold lengthDigits
  split_ifs <;> omega

/-- The number of digits is the one that the size of a length calls for. -/
theorem lengthDigits_eq {length digits : Nat} (hlower : 256 ^ digits ≤ length)
    (hupper : length < 256 ^ (digits + 1)) (hmax : length ≤ maxLength) :
    lengthDigits length = digits + 1 := by
  have hpos := lengthDigits_pos length
  have hdigits := Nat.lt_of_le_of_lt hlower (lt_pow_lengthDigits hmax)
  have hfewest := Nat.lt_of_le_of_lt
    (pow_lengthDigits_le (Nat.lt_of_lt_of_le (Nat.pow_pos (by decide)) hlower)) hupper
  rw [Nat.pow_lt_pow_iff_right (by decide)] at hdigits hfewest
  omega

theorem lengthDigits_mono {a b : Nat} (h : a ≤ b) : lengthDigits a ≤ lengthDigits b := by
  unfold lengthDigits
  split_ifs <;> omega

theorem toNat_longForm (length : Nat) :
    (UInt8.ofNat (0x80 + lengthDigits length)).toNat = 0x80 + lengthDigits length := by
  have hle := lengthDigits_le length
  rw [UInt8.toNat_ofNat']
  omega

namespace Header

/-- The long form in the fewest digits is the one that is written. -/
theorem cons_eq_encodeLength {first : UInt8} {input : Octets} {length : Nat}
    (hfirst : 0x80 + lengthDigits length = first.toNat)
    (henough : lengthDigits length ≤ input.length)
    (hread : Octets.toNat (input.take (lengthDigits length)) = length)
    (hlong : ¬ length < 0x80) :
    first :: input = encodeLength length ++ input.drop (lengthDigits length) := by
  have htaken : (input.take (lengthDigits length)).length = lengthDigits length :=
    List.length_take_of_le henough
  have hdigits := Octets.ofNat_toNat (input.take (lengthDigits length))
  rw [htaken, hread] at hdigits
  rw [encodeLength, if_neg hlong, hdigits, hfirst, UInt8.ofNat_toNat, List.cons_append,
    List.take_append_drop]

/-- A length that is read is the one that is written in these octets. -/
theorem encodeLength_of_readLength {total length : Nat} {tag : Tag} {input rest : Octets}
    (h : readLength total tag input = .ok (length, rest)) :
    length ≤ maxLength ∧ input = encodeLength length ++ rest := by
  cases input with
  | nil => cases h
  | cons first input =>
      rw [readLength] at h
      split at h
      · rename_i hshort
        obtain ⟨rfl, rfl⟩ := Prod.mk.inj (Except.ok.inj h)
        have hlt : first.toNat < 0x80 := UInt8.lt_iff_toNat_lt.1 hshort
        refine ⟨by unfold maxLength; omega, ?_⟩
        rw [encodeLength, if_pos hlt, UInt8.ofNat_toNat]
        rfl
      · rename_i hshort
        split at h
        · cases h
        · split at h
          · dsimp only at h
            split at h
            · cases h
            · rename_i henough
              split at h
              · cases h
              · rename_i hmax
                split at h
                · cases h
                · rename_i hfewest
                  obtain ⟨hlength, rfl⟩ := Prod.mk.inj (Except.ok.inj h)
                  rw [hlength] at hmax hfewest
                  rw [not_or, not_not] at hfewest
                  have hlong : 0x80 ≤ first.toNat :=
                    Nat.not_lt.1 fun hlt => hshort (UInt8.lt_iff_toNat_lt.2 hlt)
                  have hfirst : 0x80 + lengthDigits length = first.toNat := by omega
                  rw [← hfewest.2] at hlength henough ⊢
                  exact ⟨Nat.not_lt.1 hmax,
                    cons_eq_encodeLength hfirst (Nat.not_lt.1 henough) hlength hfewest.1⟩
          · cases h

theorem readLength_encodeLength (total : Nat) (tag : Tag) {length : Nat} (h : length ≤ maxLength)
    (rest : Octets) : readLength total tag (encodeLength length ++ rest) = .ok (length, rest) := by
  unfold encodeLength
  split
  · rename_i hshort
    have hoctet : (UInt8.ofNat length).toNat = length := by
      rw [UInt8.toNat_ofNat']
      omega
    have hlt : UInt8.ofNat length < 0x80 := UInt8.lt_iff_toNat_lt.2 (by rw [hoctet]; exact hshort)
    rw [List.singleton_append, readLength, if_pos hlt, hoctet]
  · rename_i hlong
    have hfirst := toNat_longForm length
    have hpos := lengthDigits_pos length
    have hle := lengthDigits_le length
    generalize UInt8.ofNat (0x80 + lengthDigits length) = first at hfirst ⊢
    have hlow : (0x80 : UInt8).toNat = 0x80 := rfl
    have hhigh : (0x84 : UInt8).toNat = 0x84 := rfl
    have hnotShort : ¬ first < 0x80 := by
      rw [UInt8.lt_iff_toNat_lt]
      omega
    have hdefinite : first ≠ 0x80 := by
      rintro rfl
      omega
    have hfour : first ≤ 0x84 := by
      rw [UInt8.le_iff_toNat_le]
      omega
    have hdigits : first.toNat - 0x80 = lengthDigits length := by omega
    have hwidth := Octets.length_ofNat (lengthDigits length) length
    have hread : Octets.toNat (Octets.ofNat (lengthDigits length) length) = length := by
      rw [Octets.toNat_ofNat, Nat.mod_eq_of_lt (lt_pow_lengthDigits h)]
    rw [List.cons_append, readLength, if_neg hnotShort, if_neg hdefinite, if_pos hfour]
    dsimp only
    rw [hdigits, List.take_left' hwidth, List.drop_left' hwidth, hread,
      if_neg (by rw [List.length_append]; omega), if_neg (by omega), if_neg (by simp [hlong])]

/-- Reading takes exactly what writing produces, whatever follows it. -/
theorem read_eq_ok_iff {total : Nat} {input rest : Octets} {header : Header} :
    read total input = .ok (header, rest) ↔
      header.length ≤ maxLength ∧ input = header.encode ++ rest := by
  constructor
  · intro h
    cases input with
    | nil => cases h
    | cons first input =>
        rw [read] at h
        split at h
        · split at h <;> cases h
        · rename_i tag htag
          split at h
          · cases h
          · rename_i length after hlength
            obtain ⟨rfl, rfl⟩ := Prod.mk.inj (Except.ok.inj h)
            obtain ⟨hmax, rfl⟩ := encodeLength_of_readLength hlength
            refine ⟨hmax, ?_⟩
            rw [encode, Tag.octet_of_ofOctet? htag]
            rfl
  · rintro ⟨hmax, rfl⟩
    rw [encode, List.cons_append, read, Tag.ofOctet?_octet]
    dsimp only
    rw [readLength_encodeLength total header.tag hmax]

theorem length_encode (header : Header) : header.encode.length = header.size := by
  unfold encode size encodeLength
  split
  · rfl
  · rw [List.length_cons, List.length_cons, Octets.length_ofNat]
    omega

theorem size_mono {a b : Header} (h : a.length ≤ b.length) : a.size ≤ b.size := by
  have hdigits := lengthDigits_mono h
  have hpos := lengthDigits_pos b.length
  unfold size
  split_ifs <;> omega

end Header

/-! ### Well-formed headers -/

/-- The octets of a length that is minimal and not too long: one octet below 128, or a count and as
many digits, of which the first is not zero, of a number that needs them. -/
inductive SpellsLength : Octets → Nat → Prop where
  | short {octet : UInt8} (hshort : octet.toNat < 0x80) : SpellsLength [octet] octet.toNat
  | long {count first : UInt8} {rest : Octets}
      (hcount : count.toNat = 0x80 + (first :: rest).length) (hfirst : first ≠ 0)
      (hlong : 0x80 ≤ Octets.toNat (first :: rest))
      (hmax : Octets.toNat (first :: rest) ≤ maxLength) :
      SpellsLength (count :: first :: rest) (Octets.toNat (first :: rest))

/-- The octets of a header that announces content of the given length: a known tag, and the length.
-/
inductive IsHeader : Octets → Nat → Prop where
  | tagged {first : UInt8} {tag : Tag} {octets : Octets} {length : Nat}
      (hknown : Tag.ofOctet? first = some tag) (hlength : SpellsLength octets length) :
      IsHeader (first :: octets) length

theorem spellsLength_encodeLength {length : Nat} (h : length ≤ maxLength) :
    SpellsLength (encodeLength length) length := by
  unfold encodeLength
  split
  · rename_i hshort
    have hoctet : (UInt8.ofNat length).toNat = length := by
      rw [UInt8.toNat_ofNat']
      omega
    have hspells := @SpellsLength.short (UInt8.ofNat length) (by rwa [hoctet])
    rwa [hoctet] at hspells
  · rename_i hlong
    have hwidth := Octets.length_ofNat (lengthDigits length) length
    have hvalue : Octets.toNat (Octets.ofNat (lengthDigits length) length) = length := by
      rw [Octets.toNat_ofNat, Nat.mod_eq_of_lt (lt_pow_lengthDigits h)]
    have hpos := lengthDigits_pos length
    have hfewest := @pow_lengthDigits_le length (by omega)
    have hcount := toNat_longForm length
    generalize Octets.ofNat (lengthDigits length) length = digits at hwidth hvalue ⊢
    cases digits with
    | nil =>
        rw [List.length_nil] at hwidth
        omega
    | cons first rest =>
        have hfirst : first ≠ 0 := by
          rintro rfl
          have hless := Octets.toNat_lt rest
          rw [← hwidth, List.length_cons, Nat.add_sub_cancel, ← hvalue, Octets.toNat_cons,
            UInt8.toNat_zero, Nat.zero_mul, Nat.zero_add] at hfewest
          omega
        have hspells := @SpellsLength.long (UInt8.ofNat (0x80 + lengthDigits length)) first rest
          (by rw [hcount, hwidth]) hfirst (by omega) (by rwa [hvalue])
        rwa [hvalue] at hspells

theorem encodeLength_of_spellsLength {octets : Octets} {length : Nat}
    (h : SpellsLength octets length) : length ≤ maxLength ∧ octets = encodeLength length := by
  cases h with
  | @short octet hshort =>
      refine ⟨by unfold maxLength; omega, ?_⟩
      rw [encodeLength, if_pos hshort, UInt8.ofNat_toNat]
  | @long count first rest hcount hfirst hlong hmax =>
      -- As the first digit is not zero, there are no more digits than the length needs.
      have hdigits : lengthDigits (Octets.toNat (first :: rest)) = (first :: rest).length :=
        lengthDigits_eq (Octets.pow_le_toNat_cons hfirst rest) (Octets.toNat_lt _) hmax
      have htake := List.take_length (l := first :: rest)
      rw [← hdigits] at hcount htake
      have hwritten := Header.cons_eq_encodeLength hcount.symm (Nat.le_of_eq hdigits)
        (by rw [htake]) (Nat.not_lt.2 hlong)
      rw [hdigits, List.drop_length, List.append_nil] at hwritten
      exact ⟨hmax, hwritten⟩

/-- Well-formed headers are those that are written. -/
theorem isHeader_iff {octets : Octets} {length : Nat} :
    IsHeader octets length ↔
      length ≤ maxLength ∧ ∃ tag, octets = Header.encode ⟨tag, length⟩ := by
  constructor
  · rintro (@⟨first, tag, octets, length, hknown, hlength⟩)
    obtain ⟨hmax, rfl⟩ := encodeLength_of_spellsLength hlength
    refine ⟨hmax, tag, ?_⟩
    rw [Header.encode, Tag.octet_of_ofOctet? hknown]
  · rintro ⟨hmax, tag, rfl⟩
    exact .tagged (Tag.ofOctet?_octet tag) (spellsLength_encodeLength hmax)

end Der

end TrustChain
