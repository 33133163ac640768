import TrustChain.Proofs.Der.Decoder
import TrustChain.Proofs.Name.Spelling
import Mathlib.Data.List.Forall2

/-!
# What matching accepts

Names are meant to match when their attributes pair up by type with values that are identical, or
that are text and equal in normal form. Matching goes by spellings, and two different values may be
spelled alike in two ways. A text may itself look like the octets of a value that is not text, type
and all. And a capital sigma behind a control character may be read as the sigma at the end of a
word. Nothing else is accepted that is not meant to be.
-/

namespace TrustChain

/-! ### The octets of a value -/

theorem Octets.ofHexDigits?_flatMap_hexPair (octets : Octets) :
    Octets.ofHexDigits? (octets.flatMap Octets.hexPair) = some octets := by
  induction octets with
  | nil => rfl
  | cons octet octets ih =>
      have hlt := octet.toNat_lt
      have hhigh : octet.toNat / 16 < 16 := by omega
      have hlow : octet.toNat % 16 < 16 := Nat.mod_lt _ (by decide)
      have hcode : octet.toNat / 16 * 16 + octet.toNat % 16 = octet.toNat := Nat.div_add_mod' _ _
      rw [List.flatMap_cons, hexPair, List.cons_append, List.cons_append, List.nil_append,
        ofHexDigits?, Attribute.hexValue?_hexDigit hhigh, Attribute.hexValue?_hexDigit hlow, ih]
      simp only [Option.bind_eq_bind, Option.bind_some]
      rw [hcode, UInt8.ofNat_toNat]
      rfl

/-- Longer contents have headers that are no shorter, so one encoding is that of one element. -/
theorem Der.Element.encode_injective {left right : Element} (h : left.encode = right.encode) :
    left = right := by
  obtain ⟨ltag, lcontent⟩ := left
  obtain ⟨rtag, rcontent⟩ := right
  change encodeElement ltag lcontent = encodeElement rtag rcontent at h
  rw [encodeElement_eq, encodeElement_eq] at h
  have hlength : lcontent.length = rcontent.length := by
    have htotal := congrArg List.length h
    rw [List.length_append, List.length_append, Header.length_encode, Header.length_encode]
      at htotal
    rcases Nat.le_total lcontent.length rcontent.length with hle | hle
    · have hsize := @Header.size_mono ⟨ltag, lcontent.length⟩ ⟨rtag, rcontent.length⟩ hle
      omega
    · have hsize := @Header.size_mono ⟨rtag, rcontent.length⟩ ⟨ltag, lcontent.length⟩ hle
      omega
  have hheader : (Header.encode ⟨ltag, lcontent.length⟩).length =
      (Header.encode ⟨rtag, rcontent.length⟩).length := by
    rw [Header.length_encode, Header.length_encode, hlength]
    rfl
  obtain ⟨hheader, rfl⟩ := List.append_inj h hheader
  have htag : ltag.octet = rtag.octet := (List.cons.inj hheader).1
  have hread := Tag.ofOctet?_octet ltag
  rw [htag, Tag.ofOctet?_octet] at hread
  rw [Option.some.inj hread]

namespace Attribute

/-- Characters that stay as they are in every step of a comparison. -/
def Inert (c : Char) : Prop := c.toNat < 0x80 ∧ Text.isMark c = false ∧ c.toLower = c

instance (c : Char) : Decidable (Inert c) :=
  inferInstanceAs (Decidable (c.toNat < 0x80 ∧ Text.isMark c = false ∧ c.toLower = c))

theorem inert_of_isDigit {c : Char} (h : c.isDigit = true) : Inert c := by
  have hascii : c.toNat < 0x80 := by
    have hrange := Char.isDigit_iff_toNat.1 h
    exact Nat.lt_of_le_of_lt hrange.2 (by decide)
  exact @Text.forall_ascii (fun c => c.isDigit = true → Inert c) (by decide +kernel) c hascii h

theorem inert_of_mem_hexPair {octet : UInt8} {c : Char} (h : c ∈ Octets.hexPair octet) :
    Inert c := by
  have hall : ∀ n : Fin 16, Inert (Octets.hexDigit n) := by decide +kernel
  have hlt := octet.toNat_lt
  simp only [Octets.hexPair, List.mem_cons, List.not_mem_nil, or_false] at h
  rcases h with rfl | rfl
  · exact hall ⟨octet.toNat / 16, by omega⟩
  · exact hall ⟨octet.toNat % 16, Nat.mod_lt _ (by decide)⟩

theorem forall_mem_intercalate {α : Type} {P : α → Prop} {sep : List α} (hsep : ∀ x ∈ sep, P x)
    {lists : List (List α)} (hlists : ∀ l ∈ lists, ∀ x ∈ l, P x) :
    ∀ x ∈ sep.intercalate lists, P x := by
  induction lists with
  | nil => exact fun _ hx => nomatch hx
  | cons l lists ih =>
      obtain ⟨hl, hlists⟩ := List.forall_mem_cons.1 hlists
      cases lists with
      | nil => rwa [List.intercalate_singleton]
      | cons next lists =>
          rw [List.intercalate_cons_cons]
          simp only [List.mem_append]
          rintro x ((hx | hx) | hx)
          · exact hl x hx
          · exact hsep x hx
          · exact ih hlists x hx

theorem inert_of_mem_toDotted {oid : Oid} {c : Char} (h : c ∈ oid.toDotted.toList) : Inert c := by
  have hdot : ∀ d ∈ ['.'], Inert d := List.forall_mem_singleton.2 (by decide)
  unfold Oid.toDotted at h
  rw [String.toList_intercalate, List.map_map] at h
  refine forall_mem_intercalate hdot ?_ c h
  intro digits hdigits d hd
  obtain ⟨arc, -, rfl⟩ := List.mem_map.1 hdigits
  have hnat : toString arc = toString arc.toNat := rfl
  rw [Function.comp_apply, hnat, Nat.toString_eq_ofList_toDigits, String.toList_ofList] at hd
  exact inert_of_isDigit (Nat.isDigit_of_mem_toDigits (by decide) (by decide) hd)

theorem inert_of_mem_octetText {attr : Attribute} {c : Char} (h : c ∈ attr.octetText) :
    Inert c := by
  have hequals : Inert '=' := by decide
  have hsign : Inert '#' := by decide
  unfold octetText at h
  simp only [List.mem_append, List.mem_cons, List.mem_flatMap] at h
  rcases h with hdotted | rfl | rfl | ⟨octet, -, hpair⟩
  · exact inert_of_mem_toDotted hdotted
  · exact hequals
  · exact hsign
  · exact inert_of_mem_hexPair hpair

theorem octetText_injective {left right : Attribute} (htype : left.type = right.type)
    (h : left.octetText = right.octetText) : left.value = right.value := by
  unfold octetText at h
  rw [htype] at h
  have hdigits := (List.cons.inj (List.cons.inj (List.append_cancel_left h)).2).2
  have hoctets := Octets.ofHexDigits?_flatMap_hexPair left.value.encode
  rw [hdigits, Octets.ofHexDigits?_flatMap_hexPair] at hoctets
  exact (Der.Element.encode_injective (Option.some.inj hoctets)).symm

/-! ### Readings -/

/-- The words of a value as they are compared. -/
def words (attr : Attribute) : List Char :=
  Text.spaced (Text.lowercase (plainSpaces attr.valueText))

theorem spaced_foldedValue (attr : Attribute) : Text.spaced attr.foldedValue = attr.words :=
  Text.spaced_lowercase_trim (plainSpaces attr.valueText)

/-- Collapsing what is left of a value leaves its words. -/
theorem collapse_foldedValue (attr : Attribute) :
    Text.collapse attr.foldedValue = attr.words.dropLast := by
  have htrimmed : Text.IsTrimmed attr.foldedValue := by
    rw [foldedValue, Text.lowercase_eq]
    exact Text.isTrimmed_lowercaseWith (Text.isTrimmed_trim _) []
  rw [htrimmed.collapse_eq, spaced_foldedValue]

theorem agrees_iff {left right : Attribute} :
    left.agrees right = true ↔ left.type = right.type ∧ left.words = right.words := by
  simp only [agrees, Bool.and_eq_true, Bool.or_eq_true, beq_iff_eq]
  refine and_congr_right fun _ => ⟨?_, fun h => .inr ?_⟩
  · rw [← spaced_foldedValue left, ← spaced_foldedValue right]
    rintro (hsame | hcollapsed)
    · rw [hsame]
    · rw [← Text.spaced_collapse, hcollapsed, Text.spaced_collapse]
  · rw [collapse_foldedValue, collapse_foldedValue, h]

/-- The words of a value as they are read back from what is compared. -/
def reading (attr : Attribute) : List Char :=
  Text.spaced (unspell (Text.lowercase (plainSpaces attr.valueText)))

theorem reading_eq_of_agrees {left right : Attribute} (h : left.agrees right = true) :
    left.type = right.type ∧ left.reading = right.reading :=
  (agrees_iff.1 h).imp_right spaced_unspell_congr

theorem valueText_of_text {attr : Attribute} {text : List Char}
    (h : attr.value.text? = some text) : attr.valueText = escape text := by
  unfold valueText
  rw [h]

theorem reading_of_text {attr : Attribute} {text : List Char} (h : attr.value.text? = some text) :
    attr.reading = Text.spaced (Text.lowercaseWith seemsCased [] text) := by
  rw [reading, valueText_of_text h]
  exact congrArg Text.spaced (unspell_lowercaseAfter rfl true text)

theorem lowercaseWith_of_inert {cased : List Char → Bool} {text : List Char}
    (hinert : ∀ c ∈ text, Inert c) (before : List Char) :
    Text.lowercaseWith cased before text = text := by
  induction text generalizing before with
  | nil => rfl
  | cons c text ih =>
      obtain ⟨⟨hascii, -, hlower⟩, hinert⟩ := List.forall_mem_cons.1 hinert
      have hsame : Text.lowerChar c = [c] := by rw [Text.lowerChar_of_ascii hascii, hlower]
      rw [Text.lowercaseWith_cons_of_lowerChar hsame, ih hinert]

theorem plainSpaces_of_not_mem {text : List Char} (h : '\\' ∉ text) : plainSpaces text = text := by
  induction text with
  | nil => rfl
  | cons c text ih =>
      rw [List.mem_cons, not_or] at h
      rw [plainSpaces_cons (Ne.symm h.1), ih h.2]

theorem reading_of_octets {attr : Attribute} (h : attr.value.text? = none) :
    attr.reading = attr.octetText ++ [' '] := by
  have hinert : ∀ c ∈ attr.octetText, Inert c := fun _ hc => inert_of_mem_octetText hc
  have hspelled : attr.valueText = attr.octetText := by
    unfold valueText
    rw [h]
  have hbackslash : '\\' ∉ attr.octetText := by
    intro hmem
    cases (hinert _ hmem).2.1
  have hsolid : ∀ c ∈ attr.octetText, Text.isBlank c = false :=
    fun c hc => Text.isBlank_eq_false_of_isMark (hinert c hc).2.1
  have hne : attr.octetText ≠ [] := List.append_ne_nil_of_right_ne_nil _ (List.cons_ne_nil _ _)
  rw [reading, hspelled, plainSpaces_of_not_mem hbackslash, Text.lowercase_eq,
    lowercaseWith_of_inert hinert, unspell_of_not_mem hbackslash, Text.spaced_of_solid hsolid hne]

/-! ### Equivalence and confusion -/

/-- Attributes that are meant to agree: of one type, and with values that are identical or that are
text and equal in normal form. -/
def Equivalent (left right : Attribute) : Prop :=
  left.type = right.type ∧ (left.value = right.value ∨
    ∃ text other, left.value.text? = some text ∧ right.value.text? = some other ∧
      Text.normal text = Text.normal other)

/-- There is a capital sigma, not before a letter, that stands behind a letter or seems to, but not
both. -/
def MisreadsSigma (text : List Char) : Prop :=
  ∃ front back, text = front ++ 'Σ' :: back ∧ Text.nextIsCased back = false ∧
    seemsCased front.reverse ≠ Text.nextIsCased front.reverse

/-- Attributes of one type that may agree although they are not meant to. -/
inductive Confused (left right : Attribute) : Prop where
  | sigmas {text other : List Char} (htype : left.type = right.type)
      (hleft : left.value.text? = some text) (hright : right.value.text? = some other)
      (hmisread : MisreadsSigma text ∨ MisreadsSigma other)
      (hsame : (Text.normal text).map Text.unfinal = (Text.normal other).map Text.unfinal) :
      Confused left right
  | textForOctets {text : List Char} (htype : left.type = right.type)
      (hleft : left.value.text? = some text) (hright : right.value.text? = none)
      (hsame : Text.normal text = right.octetText) : Confused left right
  | octetsForText {text : List Char} (htype : left.type = right.type)
      (hleft : left.value.text? = none) (hright : right.value.text? = some text)
      (hsame : Text.normal text = left.octetText) : Confused left right

theorem lowercaseWith_seemsCased_of_not_misreads {text : List Char} (h : ¬ MisreadsSigma text) :
    Text.lowercaseWith seemsCased [] text = Text.lowercase text := by
  rw [Text.lowercase_eq]
  apply Text.lowercaseWith_congr
  intro front back htext hback
  by_contra hdiffer
  rw [List.append_nil] at hdiffer
  exact h ⟨front, back, htext, hback, hdiffer⟩

theorem not_misreadsSigma_of_not_mem {text : List Char} (h : 'Σ' ∉ text) :
    ¬ MisreadsSigma text := by
  rintro ⟨front, back, rfl, -⟩
  exact h List.mem_append_cons_self

theorem not_confused_of_text {left right : Attribute} {text other : List Char}
    (hleft : left.value.text? = some text) (hright : right.value.text? = some other)
    (htext : 'Σ' ∉ text) (hother : 'Σ' ∉ other) : ¬ left.Confused right := by
  intro hconfused
  cases hconfused with
  | sigmas _ hleft' hright' hmisread =>
      obtain rfl := Option.some.inj (hleft.symm.trans hleft')
      obtain rfl := Option.some.inj (hright.symm.trans hright')
      exact hmisread.elim (not_misreadsSigma_of_not_mem htext) (not_misreadsSigma_of_not_mem hother)
  | textForOctets _ _ hnone => cases hright.symm.trans hnone
  | octetsForText _ hnone => cases hleft.symm.trans hnone

theorem eq_of_map_unfinal_eq {text other : List Char} (h : text.map Text.unfinal = other)
    (hother : 'σ' ∉ other) : text = other := by
  have hsame : ∀ c ∈ text, Text.unfinal c = c := by
    intro c hc
    have hmem : Text.unfinal c ∈ other := h ▸ List.mem_map_of_mem hc
    unfold Text.unfinal at hmem ⊢
    split
    · rename_i hfinal
      rw [if_pos hfinal] at hmem
      exact absurd hmem hother
    · rfl
  rw [← h, List.map_congr_left hsame, List.map_id']

/-- A text that reads as octets is in normal form spelled as they are. -/
theorem normal_eq_octetText {left right : Attribute} {text : List Char}
    (hleft : left.value.text? = some text) (hright : right.value.text? = none)
    (hreading : left.reading = right.reading) : Text.normal text = right.octetText := by
  have hsigma : ∀ c ∈ right.octetText, c ≠ 'ς' ∧ c ≠ 'σ' := by
    rintro c hc
    have hascii := (inert_of_mem_octetText hc).1
    constructor <;> rintro rfl <;> revert hascii <;> decide
  have hfixed : ∀ c ∈ right.octetText, Text.unfinal c = c := fun c hc => if_neg (hsigma c hc).1
  apply eq_of_map_unfinal_eq
  · rw [Text.map_unfinal_normal seemsCased, ← reading_of_text hleft, hreading,
      reading_of_octets hright, List.dropLast_concat, List.map_congr_left hfixed, List.map_id']
  · exact fun hmem => (hsigma _ hmem).2 rfl

theorem equivalent_or_confused_of_agrees {left right : Attribute}
    (h : left.agrees right = true) : left.Equivalent right ∨ left.Confused right := by
  obtain ⟨htype, hreading⟩ := reading_eq_of_agrees h
  cases hleft : left.value.text? with
  | some text =>
      cases hright : right.value.text? with
      | some other =>
          have hwords := hreading
          rw [reading_of_text hleft, reading_of_text hright] at hwords
          by_cases hmisread : MisreadsSigma text ∨ MisreadsSigma other
          · right
            refine .sigmas htype hleft hright hmisread ?_
            rw [Text.map_unfinal_normal seemsCased text, hwords, ← Text.map_unfinal_normal]
          · left
            obtain ⟨htext, hother⟩ := not_or.1 hmisread
            refine ⟨htype, .inr ⟨text, other, hleft, hright, ?_⟩⟩
            rw [lowercaseWith_seemsCased_of_not_misreads htext,
              lowercaseWith_seemsCased_of_not_misreads hother] at hwords
            rw [Text.normal_eq, Text.normal_eq, hwords]
      | none =>
          exact .inr (.textForOctets htype hleft hright
            (normal_eq_octetText hleft hright hreading))
  | none =>
      cases hright : right.value.text? with
      | some text =>
          exact .inr (.octetsForText htype hleft hright
            (normal_eq_octetText hright hleft hreading.symm))
      | none =>
          rw [reading_of_octets hleft, reading_of_octets hright] at hreading
          exact .inl ⟨htype, .inl (octetText_injective htype (List.append_cancel_right hreading))⟩

end Attribute

/-! ### Names -/

namespace Name

/-- The attributes of the names, relative name by relative name, pair up in some order. -/
def PairsUp (related : Attribute → Attribute → Prop) (left right : Name) : Prop :=
  List.Forall₂ (fun l r : RelativeName =>
    ∃ paired, paired.Perm r.attributes ∧ List.Forall₂ related l.attributes paired)
    left.relatives right.relatives

/-- The attributes of the names pair up in the order in which they stand. -/
def PairsInTurn (related : Attribute → Attribute → Prop) (left right : Name) : Prop :=
  List.Forall₂ (fun l r : RelativeName => List.Forall₂ related l.attributes r.attributes)
    left.relatives right.relatives

def attributes (name : Name) : List Attribute := name.relatives.flatMap RelativeName.attributes

variable {left right : Name} {related others : Attribute → Attribute → Prop}

theorem PairsInTurn.pairsUp (hpairs : left.PairsInTurn related right)
    (himp : ∀ l ∈ left.attributes, ∀ r ∈ right.attributes, related l r → others l r) :
    left.PairsUp others right := by
  obtain ⟨hlength, hrelatives⟩ := List.forall₂_iff_zip.1 hpairs
  refine List.forall₂_iff_zip.2 ⟨hlength, fun {l r} hmem => ⟨r.attributes, .refl _, ?_⟩⟩
  obtain ⟨hsize, hattributes⟩ := List.forall₂_iff_zip.1 (hrelatives hmem)
  obtain ⟨hl, hr⟩ := List.of_mem_zip hmem
  refine List.forall₂_iff_zip.2 ⟨hsize, fun {a b} hpair => ?_⟩
  obtain ⟨ha, hb⟩ := List.of_mem_zip hpair
  exact himp a (List.mem_flatMap.2 ⟨l, hl, ha⟩) b (List.mem_flatMap.2 ⟨r, hr, hb⟩)
    (hattributes hpair)

theorem pairsInTurn_of_agrees (h : left.agrees right = true) :
    left.PairsInTurn (fun l r => l.Equivalent r ∨ l.Confused r) right := by
  simp only [agrees, Bool.and_eq_true, beq_iff_eq, List.all_eq_true] at h
  obtain ⟨hlength, hrelatives⟩ := h
  refine List.forall₂_iff_zip.2 ⟨hlength, fun {l r} hmem => ?_⟩
  have hagrees := hrelatives (l, r) hmem
  simp only [RelativeName.agrees, Bool.and_eq_true, Bool.or_eq_true, beq_iff_eq,
    List.all_eq_true] at hagrees
  obtain ⟨hsize, hsame | hattributes⟩ := hagrees
  · rw [hsame]
    exact List.forall₂_same.2 fun _ _ => .inl ⟨rfl, .inl rfl⟩
  · refine List.forall₂_iff_zip.2 ⟨hsize, fun {a b} hpair => ?_⟩
    exact Attribute.equivalent_or_confused_of_agrees (hattributes (a, b) hpair)

/-- **What matching accepts.** The attributes of names that match pair up in turn, each with one
that it is meant to agree with or is confused with. So where no attribute of one name is confused
with one of the other, names match only if they are meant to. -/
theorem pairsUp_of_agrees (h : left.agrees right = true) :
    left.PairsInTurn (fun l r => l.Equivalent r ∨ l.Confused r) right ∧
    ((∀ l ∈ left.attributes, ∀ r ∈ right.attributes, ¬ l.Confused r) →
      left.PairsUp Attribute.Equivalent right) := by
  have hpairs := pairsInTurn_of_agrees h
  refine ⟨hpairs, fun hclear => hpairs.pairsUp fun l hl r hr hrelated => ?_⟩
  exact hrelated.resolve_right (hclear l hl r hr)

end Name

namespace Sample

/-- A common name of the given type and content. -/
def common (tag : Der.Tag) (content : Octets) : Attribute :=
  ⟨⟨[0x55, 0x04, 0x03], rfl⟩, ⟨tag, content⟩⟩

/-- The name with one attribute. -/
def nameOf (attr : Attribute) : Name := ⟨[⟨[attr], List.pairwise_singleton _ attr⟩]⟩

theorem equivalent_of_pairsUp {left right : Attribute}
    (h : (nameOf left).PairsUp Attribute.Equivalent (nameOf right)) : left.Equivalent right := by
  obtain ⟨⟨paired, hperm, hpaired⟩, -⟩ := List.forall₂_cons.1 h
  rw [List.perm_singleton.1 hperm] at hpaired
  exact (List.forall₂_cons.1 hpaired).1

/-- The same words, in other letters and with other blanks around and between them. -/
theorem pairsUp_spellings :
    (nameOf (common .printableString (Text.ascii "Test CA"))).agrees
      (nameOf (common .utf8String (Text.ascii " test   ca"))) = true ∧
    (nameOf (common .printableString (Text.ascii "Test CA"))).PairsUp Attribute.Equivalent
      (nameOf (common .utf8String (Text.ascii " test   ca"))) := by
  have hagrees : (nameOf (common .printableString (Text.ascii "Test CA"))).agrees
      (nameOf (common .utf8String (Text.ascii " test   ca"))) = true := by
    decide +kernel
  refine ⟨hagrees, (Name.pairsUp_of_agrees hagrees).2 ?_⟩
  intro l hl r hr
  obtain rfl := List.mem_singleton.1 hl
  obtain rfl := List.mem_singleton.1 hr
  have hleft : (common .printableString (Text.ascii "Test CA")).value.text? =
      some "Test CA".toList := by
    decide +kernel
  have hright : (common .utf8String (Text.ascii " test   ca")).value.text? =
      some " test   ca".toList := by
    decide +kernel
  exact Attribute.not_confused_of_text hleft hright (by decide +kernel) (by decide +kernel)

/-- The letter A as a BMPString, and a text that looks like its octets. -/
def bmpLetter : Attribute := common .bmpString [0x00, 0x41]

def octetsOfLetter : Attribute := common .utf8String (Text.ascii "2.5.4.3=#1e020041")

/-- A control character with a capital sigma, and with a final one. -/
def capitalSigma : Attribute := common .utf8String [0x1a, 0xce, 0xa3]

def finalSigma : Attribute := common .utf8String [0x1a, 0xcf, 0x82]

/-- Values of which one is not text match if the other is spelled like its octets, and a sigma that
stands alone matches a final one behind a control character. -/
theorem agrees_without_equivalence :
    ((nameOf bmpLetter).agrees (nameOf octetsOfLetter) = true ∧
      ¬ (nameOf bmpLetter).PairsUp Attribute.Equivalent (nameOf octetsOfLetter)) ∧
    (nameOf capitalSigma).agrees (nameOf finalSigma) = true ∧
      ¬ (nameOf capitalSigma).PairsUp Attribute.Equivalent (nameOf finalSigma) := by
  refine ⟨⟨by decide +kernel, fun h => ?_⟩, by decide +kernel, fun h => ?_⟩
  · obtain ⟨-, hsame | ⟨text, other, htext, -⟩⟩ := equivalent_of_pairsUp h
    · revert hsame
      decide +kernel
    · have hnone : bmpLetter.value.text? = none := rfl
      cases hnone.symm.trans htext
  · obtain ⟨-, hsame | ⟨text, other, htext, hother, hnormal⟩⟩ := equivalent_of_pairsUp h
    · revert hsame
      decide +kernel
    · have hcapital : capitalSigma.value.text? = some ['\x1a', 'Σ'] := by decide +kernel
      have hfinal : finalSigma.value.text? = some ['\x1a', 'ς'] := by decide +kernel
      obtain rfl := Option.some.inj (hcapital.symm.trans htext)
      obtain rfl := Option.some.inj (hfinal.symm.trans hother)
      revert hnormal
      decide +kernel

end Sample

end TrustChain
