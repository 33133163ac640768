import TrustChain.Der.Value
import TrustChain.Proofs.Der.Header

/-!
# What a decoder takes

An element that is taken from the front of an input is spelt there exactly as it would be written
(`element_eq_some_iff`), and whether it is taken does not depend on what follows. All decoders that
read one element and then look at its content alone inherit both facts: `within`, `value` and
`listOf`.
-/

namespace TrustChain.Der

theorem encodeElement_eq (tag : Tag) (content : Octets) :
    encodeElement tag content = Header.encode ⟨tag, content.length⟩ ++ content := rfl

namespace Decoder

variable {α β : Type}

/-! ### Composition -/

theorem bind_eq_some_iff {decoder : Decoder α} {f : α → Decoder β} {input rest : Octets} {b : β} :
    (decoder >>= f) input = some (b, rest) ↔
      ∃ a left, decoder input = some (a, left) ∧ f a left = some (b, rest) := by
  have hbind : (decoder >>= f) input =
      (decoder input).bind fun taken => f taken.1 taken.2 := rfl
  rw [hbind, Option.bind_eq_some_iff]
  exact Prod.exists

theorem pure_eq_some_iff {a b : α} {input rest : Octets} :
    (pure a : Decoder α) input = some (b, rest) ↔ a = b ∧ input = rest := by
  have hpure : (pure a : Decoder α) input = some (a, input) := rfl
  rw [hpure, Option.some.injEq, Prod.mk.injEq]

theorem map_eq_some_iff {f : α → β} {decoder : Decoder α} {input rest : Octets} {b : β} :
    (f <$> decoder) input = some (b, rest) ↔ ∃ a, decoder input = some (a, rest) ∧ f a = b := by
  have hmap : (f <$> decoder) input = (decoder >>= fun a => pure (f a)) input := rfl
  rw [hmap, bind_eq_some_iff]
  simp only [pure_eq_some_iff]
  constructor
  · rintro ⟨a, left, hdecoded, hvalue, rfl⟩
    exact ⟨a, hdecoded, hvalue⟩
  · rintro ⟨a, hdecoded, hvalue⟩
    exact ⟨a, rest, hdecoded, hvalue, rfl⟩

theorem bind_elim_eq_some_iff {decoder : Decoder α} {f : α → Option β} {g : α → Decoder β}
    (hg : ∀ a, g a = (f a).elim failure pure) {input rest : Octets} {b : β} :
    (decoder >>= g) input = some (b, rest) ↔
      ∃ a, decoder input = some (a, rest) ∧ f a = some b := by
  rw [bind_eq_some_iff]
  constructor
  · rintro ⟨a, left, hdecoded, h⟩
    rw [hg] at h
    cases hvalue : f a with
    | none =>
        rw [hvalue] at h
        cases h
    | some value =>
        rw [hvalue] at h
        obtain ⟨rfl, rfl⟩ := pure_eq_some_iff.1 h
        exact ⟨a, hdecoded, hvalue⟩
  · rintro ⟨a, hdecoded, hvalue⟩
    refine ⟨a, rest, hdecoded, ?_⟩
    rw [hg, hvalue]
    rfl

theorem complete_eq_some_iff {decoder : Decoder α} {input : Octets} {a : α} :
    decoder.complete input = some a ↔
      input.length ≤ maxLength ∧ decoder input = some (a, []) := by
  unfold complete
  by_cases hlength : maxLength < input.length
  · rw [if_pos hlength]
    simp [Nat.not_le.2 hlength]
  · rw [if_neg hlength, and_iff_right (Nat.not_lt.1 hlength)]
    rcases decoder input with _ | ⟨value, _ | ⟨octet, left⟩⟩ <;> simp

/-! ### One element -/

theorem element_eq_some_iff {input rest : Octets} {e : Element} :
    element input = some (e, rest) ↔
      e.content.length ≤ maxLength ∧ input = e.encode ++ rest := by
  constructor
  · intro h
    unfold element at h
    split at h
    · cases h
    · rename_i header after hread
      obtain ⟨hmax, rfl⟩ := Header.read_eq_ok_iff.1 hread
      split at h
      · rename_i henough
        obtain ⟨rfl, rfl⟩ := Prod.mk.inj (Option.some.inj h)
        have hlength : (after.take header.length).length = header.length :=
          List.length_take_of_le henough
        refine ⟨hlength.symm ▸ hmax, ?_⟩
        rw [Element.encode, encodeElement_eq, hlength, List.append_assoc, List.take_append_drop]
      · cases h
  · rintro ⟨hmax, rfl⟩
    have hread : Header.read (e.encode ++ rest).length (e.encode ++ rest) =
        .ok (⟨e.tag, e.content.length⟩, e.content ++ rest) :=
      Header.read_eq_ok_iff.2 ⟨hmax, List.append_assoc _ _ _⟩
    unfold element
    rw [hread]
    dsimp only
    rw [if_pos (by simp), List.take_left, List.drop_left]

theorem content_eq_some_iff {tag : Tag} {input rest content : Octets} :
    Decoder.content tag input = some (content, rest) ↔
      content.length ≤ maxLength ∧ input = encodeElement tag content ++ rest := by
  rw [Decoder.content, bind_eq_some_iff]
  constructor
  · rintro ⟨⟨found, octets⟩, left, helement, h⟩
    obtain ⟨hmax, rfl⟩ := element_eq_some_iff.1 helement
    split at h
    · rename_i htag
      obtain ⟨rfl, rfl⟩ := pure_eq_some_iff.1 h
      exact ⟨hmax, htag ▸ rfl⟩
    · cases h
  · rintro ⟨hmax, rfl⟩
    refine ⟨⟨tag, content⟩, rest, element_eq_some_iff.2 ⟨hmax, rfl⟩, ?_⟩
    rw [if_pos rfl]
    rfl

/-- A decoder of one element that looks at nothing but the content. -/
theorem content_bind_eq_some_iff {tag : Tag} {f : Octets → Option α} {g : Octets → Decoder α}
    (hg : ∀ content, g content = (f content).elim failure pure) {input rest : Octets} {a : α} :
    (Decoder.content tag >>= g) input = some (a, rest) ↔
      ∃ content, content.length ≤ maxLength ∧ input = encodeElement tag content ++ rest ∧
        f content = some a := by
  simp only [bind_elim_eq_some_iff hg, content_eq_some_iff, and_assoc]

theorem within_eq_some_iff {tag : Tag} {inner : Decoder α} {input rest : Octets} {a : α} :
    within tag inner input = some (a, rest) ↔
      ∃ content, content.length ≤ maxLength ∧ input = encodeElement tag content ++ rest ∧
        inner.complete content = some a :=
  content_bind_eq_some_iff fun content => by cases inner.complete content <;> rfl

theorem value_eq_some_iff {tag : Tag} {ofContent : Octets → Option α} {input rest : Octets}
    {a : α} :
    value tag ofContent input = some (a, rest) ↔
      ∃ content, content.length ≤ maxLength ∧ input = encodeElement tag content ++ rest ∧
        ofContent content = some a :=
  content_bind_eq_some_iff fun content => by cases ofContent content <;> rfl

/-- An element that is taken decodes on its own to the same value. -/
theorem exists_element_of_within {tag : Tag} {inner : Decoder α} {input rest : Octets} {a : α}
    (hlength : input.length ≤ maxLength) (h : within tag inner input = some (a, rest)) :
    ∃ content, input = encodeElement tag content ++ rest ∧
      (within tag inner).complete (encodeElement tag content) = some a := by
  obtain ⟨content, hmax, rfl, hinner⟩ := within_eq_some_iff.1 h
  rw [List.length_append] at hlength
  refine ⟨content, rfl, complete_eq_some_iff.2 ⟨by omega, ?_⟩⟩
  exact within_eq_some_iff.2 ⟨content, hmax, (List.append_nil _).symm, hinner⟩

theorem exists_element_of_value {tag : Tag} {ofContent : Octets → Option α} {input rest : Octets}
    {a : α} (hlength : input.length ≤ maxLength) (h : value tag ofContent input = some (a, rest)) :
    ∃ content, input = encodeElement tag content ++ rest ∧
      (value tag ofContent).complete (encodeElement tag content) = some a := by
  obtain ⟨content, hmax, rfl, hcontent⟩ := value_eq_some_iff.1 h
  rw [List.length_append] at hlength
  refine ⟨content, rfl, complete_eq_some_iff.2 ⟨by omega, ?_⟩⟩
  exact value_eq_some_iff.2 ⟨content, hmax, (List.append_nil _).symm, hcontent⟩

theorem listOf_eq_some_iff {tag : Tag} {item : Decoder α} {input rest : Octets} {as : List α} :
    listOf tag item input = some (as, rest) ↔
      ∃ content, content.length ≤ maxLength ∧ input = encodeElement tag content ++ rest ∧
        many item content = some as :=
  content_bind_eq_some_iff fun content => by cases many item content <;> rfl

end Decoder

end TrustChain.Der
