import TrustChain.Name
import TrustChain.Proofs.Der.Header
import Mathlib.Data.List.Forall2

/-!
# The order of a relative name

The attributes of a relative name stand in the order of their encodings. An encoding starts with its
length, and the type of the attribute comes next, so between attributes of different types nothing
depends on what the values are, only on how long they are. Other values of the same lengths stand in
the same order.
-/

namespace TrustChain

/-! ### Octets that decide an order -/

/-- Where neither of two octet strings begins with the other, they decide the order of all that
begin with them. -/
theorem Octets.append_lt_append_iff {front other : Octets} (h : ¬ front <+: other)
    (h' : ¬ other <+: front) (rest back : Octets) :
    front ++ rest < other ++ back ↔ front < other := by
  induction front generalizing other with
  | nil => exact absurd List.nil_prefix h
  | cons a front ih =>
      cases other with
      | nil => exact absurd List.nil_prefix h'
      | cons b other =>
          rw [List.cons_append, List.cons_append, List.cons_lt_cons_iff, List.cons_lt_cons_iff]
          rw [List.cons_prefix_cons, not_and] at h h'
          exact or_congr_right (and_congr_right fun hab => ih (h hab) (h' hab.symm))

/-- The first octet of a length tells how many follow. -/
theorem Der.exists_encodeLength_eq_cons (length : Nat) :
    ∃ first digits, encodeLength length = first :: digits ∧
      digits.length = first.toNat - 0x80 := by
  unfold encodeLength
  split
  · rename_i hshort
    refine ⟨_, _, rfl, ?_⟩
    rw [UInt8.toNat_ofNat', List.length_nil]
    omega
  · refine ⟨_, _, rfl, ?_⟩
    rw [toNat_longForm, Octets.length_ofNat]
    omega

theorem Der.Header.encode_eq_of_prefix {header other : Header}
    (h : header.encode <+: other.encode) : header.encode = other.encode := by
  obtain ⟨first, digits, hlength, hdigits⟩ := exists_encodeLength_eq_cons header.length
  obtain ⟨first', digits', hlength', hdigits'⟩ := exists_encodeLength_eq_cons other.length
  unfold encode at h ⊢
  rw [hlength, hlength', List.cons_prefix_cons, List.cons_prefix_cons] at h
  obtain ⟨htag, rfl, hprefix⟩ := h
  rw [hlength, hlength', htag, hprefix.eq_of_length (hdigits.trans hdigits'.symm)]

namespace Oid

theorem length_content_le (oid : Oid) : oid.content.length ≤ maxOctets := by
  have h := oid.wellFormed
  cases hcontent : oid.content with
  | nil => exact Nat.zero_le _
  | cons first rest =>
      rw [hcontent] at h
      simp only [isWellFormed, Bool.and_eq_true, decide_eq_true_eq] at h
      exact h.1.1.2

theorem encode_eq (oid : Oid) :
    oid.encode = 0x06 :: UInt8.ofNat oid.content.length :: oid.content := by
  have hshort : oid.content.length < 0x80 := Nat.lt_of_le_of_lt oid.length_content_le (by decide)
  rw [encode, Der.encodeElement, Der.Header.encode, Der.encodeLength, if_pos hshort]
  rfl

theorem eq_of_encode_prefix {oid other : Oid} (h : oid.encode <+: other.encode) : oid = other := by
  rw [encode_eq, encode_eq, List.cons_prefix_cons, List.cons_prefix_cons] at h
  obtain ⟨-, hlength, hprefix⟩ := h
  have hle := oid.length_content_le
  have hle' := other.length_content_le
  rw [← UInt8.toNat_inj, UInt8.toNat_ofNat', UInt8.toNat_ofNat'] at hlength
  unfold maxOctets at hle hle'
  have hcontent := hprefix.eq_of_length (by omega)
  cases oid
  cases other
  cases hcontent
  rfl

end Oid

namespace Attribute

/-- How the encoding begins: the length, and the type. -/
def lead (attr : Attribute) : Octets :=
  Der.Header.encode ⟨.sequence, (attr.type.encode ++ attr.value.encode).length⟩ ++
    attr.type.encode

theorem encode_eq_lead (attr : Attribute) : attr.encode = attr.lead ++ attr.value.encode := by
  rw [encode, Der.encodeElement, lead, List.append_assoc]

theorem type_eq_of_lead_prefix {left right : Attribute} (h : left.lead <+: right.lead) :
    left.type = right.type := by
  have hheader : Der.Header.encode ⟨.sequence, (left.type.encode ++ left.value.encode).length⟩ =
      Der.Header.encode ⟨.sequence, (right.type.encode ++ right.value.encode).length⟩ := by
    rcases List.prefix_or_prefix_of_prefix ((List.prefix_append _ _).trans h)
      (List.prefix_append _ _) with hprefix | hprefix
    · exact Der.Header.encode_eq_of_prefix hprefix
    · exact (Der.Header.encode_eq_of_prefix hprefix).symm
  unfold lead at h
  rw [hheader, List.prefix_append_right_inj] at h
  exact Oid.eq_of_encode_prefix h

theorem encode_lt_encode_iff {left right : Attribute} (h : left.type ≠ right.type) :
    left.encode < right.encode ↔ left.lead < right.lead := by
  rw [encode_eq_lead, encode_eq_lead]
  exact Octets.append_lt_append_iff (mt type_eq_of_lead_prefix h)
    (mt type_eq_of_lead_prefix (Ne.symm h)) _ _

/-- Two attributes are of one type and equally long. -/
structure SameShape (left right : Attribute) : Prop where
  type : left.type = right.type
  length : left.value.content.length = right.value.content.length

theorem SameShape.lead_eq {left right : Attribute} (h : left.SameShape right) :
    left.lead = right.lead := by
  have hvalue : left.value.encode.length = right.value.encode.length := by
    unfold Der.Element.encode Der.encodeElement
    simp only [List.length_append, Der.Header.length_encode, Der.Header.size, h.length]
  unfold lead
  rw [List.length_append, List.length_append, h.type, hvalue]

/-- Attributes of different types stand in the same order as others of the same shapes. -/
theorem SameShape.encode_lt {left right left' right' : Attribute} (hleft : left.SameShape left')
    (hright : right.SameShape right') (hne : left.type ≠ right.type)
    (h : left.encode < right.encode) : left'.encode < right'.encode := by
  rw [encode_lt_encode_iff hne, hleft.lead_eq, hright.lead_eq] at h
  rwa [encode_lt_encode_iff (hleft.type ▸ hright.type ▸ hne)]

end Attribute

namespace RelativeName

theorem exists_mem_of_forall₂ {α β : Type} {related : α → β → Prop} {items : List α}
    {others : List β} (h : List.Forall₂ related items others) {b : β} (hb : b ∈ others) :
    ∃ a ∈ items, related a b := by
  induction h with
  | nil => cases hb
  | @cons a first items others hfirst _ ih =>
      rcases List.mem_cons.1 hb with rfl | hrest
      · exact ⟨a, List.mem_cons_self, hfirst⟩
      · obtain ⟨c, hc, hrelated⟩ := ih hrest
        exact ⟨c, List.mem_cons_of_mem a hc, hrelated⟩

/-- Attributes of the same shapes, all of different types, are in order too. -/
theorem ordered_of_sameShape {attributes paired : List Attribute}
    (hordered : attributes.Pairwise fun a b => a.encode < b.encode)
    (hdistinct : (attributes.map Attribute.type).Nodup)
    (hpaired : List.Forall₂ Attribute.SameShape attributes paired) :
    paired.Pairwise fun a b => a.encode < b.encode := by
  induction hpaired with
  | nil => exact .nil
  | @cons first _ _ _ hshape hrest ih =>
      rw [List.pairwise_cons] at hordered ⊢
      rw [List.map_cons, List.nodup_cons] at hdistinct
      refine ⟨fun other hother => ?_, ih hordered.2 hdistinct.2⟩
      obtain ⟨attr, hmem, hsame⟩ := exists_mem_of_forall₂ hrest hother
      have hne : first.type ≠ attr.type := fun heq =>
        hdistinct.1 (heq ▸ List.mem_map_of_mem hmem)
      exact hshape.encode_lt hsame hne (hordered.1 attr hmem)

/-- In a relative name whose attributes are all of different types, others of the same shapes stand
in the same order. -/
theorem eq_of_sameShape {left right : RelativeName} {paired : List Attribute}
    (hdistinct : (left.attributes.map Attribute.type).Nodup)
    (hpaired : List.Forall₂ Attribute.SameShape left.attributes paired)
    (hperm : paired.Perm right.attributes) : paired = right.attributes :=
  List.Perm.eq_of_pairwise (fun _ _ _ _ hlt hgt => absurd hgt (List.lt_asymm hlt))
    (ordered_of_sameShape left.ordered hdistinct hpaired) right.ordered hperm

end RelativeName

end TrustChain
