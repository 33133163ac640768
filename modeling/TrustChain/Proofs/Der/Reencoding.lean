import TrustChain.Proofs.Der.Decoder

/-!
# Encoding anew does not lengthen

Decoders accept encodings that are not canonical: a default may be written out, a set need not be in
order, fields that have no place are passed over. Encoding what was decoded undoes all this, and
each correction leaves out octets or moves them. So a value is never written in more octets than it
was read from (`Contracts`), for each kind of decoder if for the decoders it is made of. A value
that was decoded is thus never too long to be encoded.
-/

namespace TrustChain.Der

theorem length_encodeElement (tag : Tag) (content : Octets) :
    (encodeElement tag content).length = (Header.mk tag content.length).size + content.length := by
  rw [encodeElement_eq, List.length_append, Header.length_encode]

theorem length_encodeElement_le {a b : Octets} (tag : Tag) (h : a.length ≤ b.length) :
    (encodeElement tag a).length ≤ (encodeElement tag b).length := by
  have hsize : (Header.mk tag a.length).size ≤ (Header.mk tag b.length).size := Header.size_mono h
  rw [length_encodeElement, length_encodeElement]
  omega

namespace Decoder

variable {α β : Type}

/-- What is decoded is written again in no more octets than it was read from. -/
def Contracts (decoder : Decoder α) (encode : α → Octets) : Prop :=
  ∀ ⦃input rest : Octets⦄ ⦃a : α⦄, decoder input = some (a, rest) →
    (encode a).length + rest.length ≤ input.length

variable {decoder : Decoder α} {encode : α → Octets}

/-- The first of two decoders takes its share, and the second goes on from there. -/
theorem Contracts.bind (hdecoder : decoder.Contracts encode) {f : α → Decoder β}
    {input rest : Octets} {b : β} (h : (decoder >>= f) input = some (b, rest)) :
    ∃ a left, (encode a).length + left.length ≤ input.length ∧ f a left = some (b, rest) := by
  obtain ⟨a, left, hfirst, hsecond⟩ := bind_eq_some_iff.1 h
  exact ⟨a, left, hdecoder hfirst, hsecond⟩

theorem Contracts.complete (hdecoder : decoder.Contracts encode) {input : Octets} {a : α}
    (h : decoder.complete input = some a) : (encode a).length ≤ input.length :=
  hdecoder (complete_eq_some_iff.1 h).2

/-! ### Elements -/

theorem contracts_element : element.Contracts Element.encode := by
  intro input rest e h
  obtain ⟨-, rfl⟩ := element_eq_some_iff.1 h
  exact Nat.le_of_eq List.length_append.symm

theorem contracts_content (tag : Tag) : (Decoder.content tag).Contracts (encodeElement tag) := by
  intro input rest content h
  obtain ⟨-, rfl⟩ := content_eq_some_iff.1 h
  exact Nat.le_of_eq List.length_append.symm

theorem contracts_value {ofContent : Octets → Option α} (encode : α → Octets) (tag : Tag)
    (h : ∀ content a, ofContent content = some a → (encode a).length ≤ content.length) :
    (value tag ofContent).Contracts fun a => encodeElement tag (encode a) := by
  intro input rest a hvalue
  obtain ⟨content, -, rfl, hcontent⟩ := value_eq_some_iff.1 hvalue
  rw [List.length_append]
  exact Nat.add_le_add_right (length_encodeElement_le tag (h content a hcontent)) _

theorem contracts_within (encode : α → Octets) (tag : Tag) (hinner : decoder.Contracts encode) :
    (within tag decoder).Contracts fun a => encodeElement tag (encode a) := by
  intro input rest a h
  obtain ⟨content, -, rfl, hcontent⟩ := within_eq_some_iff.1 h
  rw [List.length_append]
  exact Nat.add_le_add_right (length_encodeElement_le tag (hinner.complete hcontent)) _

/-! ### Lists -/

theorem Contracts.length_many (hitem : decoder.Contracts encode) {input : Octets} {as : List α}
    (h : many decoder input = some as) : (as.flatMap encode).length ≤ input.length := by
  induction hn : input.length using Nat.strongRecOn generalizing input as with
  | _ n ih =>
      rw [many] at h
      split at h
      · obtain rfl := Option.some.inj h
        exact Nat.zero_le _
      · split at h
        · cases h
        · rename_i a rest hfirst
          split at h
          · rename_i hlt
            obtain ⟨others, hothers, rfl⟩ := Option.map_eq_some_iff.1 h
            have hle := hitem hfirst
            have hrest := ih rest.length (hn ▸ hlt) hothers rfl
            rw [List.flatMap_cons, List.length_append]
            omega
          · cases h

theorem Contracts.listOf (hitem : decoder.Contracts encode) (tag : Tag) :
    (listOf tag decoder).Contracts fun as => encodeElement tag (as.flatMap encode) := by
  intro input rest as h
  obtain ⟨content, -, rfl, hcontent⟩ := listOf_eq_some_iff.1 h
  rw [List.length_append]
  exact Nat.add_le_add_right (length_encodeElement_le tag (hitem.length_many hcontent)) _

/-! ### Values that may be absent -/

theorem optional_eq_some {accepts : Tag → Bool} {input rest : Octets} {value : Option α}
    (h : optional accepts decoder input = some (value, rest)) :
    value = none ∧ input = rest ∨ ∃ a, value = some a ∧ decoder input = some (a, rest) := by
  obtain ⟨front, left, hpeek, h⟩ := bind_eq_some_iff.1 h
  have hleft : input = left := by
    unfold peekTag at hpeek
    split at hpeek
    · exact (Prod.mk.inj (Option.some.inj hpeek)).2
    · obtain ⟨tag, -, heq⟩ := Option.map_eq_some_iff.1 hpeek
      exact (Prod.mk.inj heq).2
  subst hleft
  split at h
  · split at h
    · obtain ⟨a, hdecoded, rfl⟩ := map_eq_some_iff.1 h
      exact .inr ⟨a, rfl, hdecoded⟩
    · obtain ⟨rfl, rfl⟩ := pure_eq_some_iff.1 h
      exact .inl ⟨rfl, rfl⟩
  · obtain ⟨rfl, rfl⟩ := pure_eq_some_iff.1 h
    exact .inl ⟨rfl, rfl⟩

theorem Contracts.optional (hdecoder : decoder.Contracts encode) (accepts : Tag → Bool) :
    (optional accepts decoder).Contracts fun value => (value.map encode).getD [] := by
  intro input rest value h
  rcases optional_eq_some h with ⟨rfl, rfl⟩ | ⟨a, rfl, hdecoded⟩
  · exact Nat.le_of_eq (Nat.zero_add _)
  · exact hdecoder hdecoded

/-- A field is absent, or it stands in front, or it is looked for behind an element that is passed
over. -/
theorem field_eq_some {n : Nat} {input rest : Octets} {value : Option α}
    (h : field n decoder input = some (value, rest)) :
    (value = none ∧ input = rest) ∨ (∃ a, value = some a ∧ decoder input = some (a, rest)) ∨
      ∃ left, left.length < input.length ∧ field n decoder left = some (value, rest) := by
  rw [Decoder.field.eq_def] at h
  split at h
  · obtain ⟨rfl, rfl⟩ := Prod.mk.inj (Option.some.inj h)
    exact .inl ⟨rfl, rfl⟩
  · split at h
    · cases h
    · split at h
      · obtain ⟨rfl, rfl⟩ := Prod.mk.inj (Option.some.inj h)
        exact .inl ⟨rfl, rfl⟩
      · split at h
        · obtain ⟨⟨a, left⟩, hdecoded, heq⟩ := Option.map_eq_some_iff.1 h
          obtain ⟨rfl, rfl⟩ := Prod.mk.inj heq
          exact .inr (.inl ⟨a, rfl, hdecoded⟩)
        · split at h
          · obtain ⟨rfl, rfl⟩ := Prod.mk.inj (Option.some.inj h)
            exact .inl ⟨rfl, rfl⟩
          · split at h
            · cases h
            · split at h
              · rename_i hlt
                exact .inr (.inr ⟨_, hlt, h⟩)
              · cases h

theorem Contracts.field (hdecoder : decoder.Contracts encode) (n : Nat) :
    Contracts (α := Option α) (field n decoder) fun value => (value.map encode).getD [] := by
  intro input
  -- an element that is passed over leaves a shorter input, and the bound only gets better
  induction hlength : input.length using Nat.strongRecOn generalizing input with
  | _ length ih =>
      subst hlength
      intro rest value h
      rcases field_eq_some h with ⟨rfl, rfl⟩ | ⟨a, rfl, hdecoded⟩ | ⟨left, hlt, hleft⟩
      · exact Nat.le_of_eq (Nat.zero_add _)
      · exact hdecoder hdecoded
      · exact Nat.le_trans (ih left.length hlt rfl hleft) (Nat.le_of_lt hlt)

end Decoder

end TrustChain.Der
