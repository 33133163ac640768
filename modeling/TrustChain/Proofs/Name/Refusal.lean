import TrustChain.Proofs.Name.Equivalence
import TrustChain.Proofs.Name.SetOrder

/-!
# What matching refuses

Names that are meant to match may be refused. Values are compared as they are spelled, and two
spellings of one normal form are apart if only one of them begins with a number sign, if a control
character is a blank but is written in hexadecimal, if a backslash is lost because a space stands
behind it, or if a sigma is misread. And attributes are compared in the order in which they stand,
which depends on how long they are. Apart from that, names that are meant to match do.
-/

namespace TrustChain

namespace Attribute

/-! ### Spellings, character by character -/

/-- The spelling of a character that is neither first nor last. -/
def spellChar (c : Char) : List Char := escapeChar false false c

/-- Characters that are written behind a backslash wherever they stand. -/
def isEscaped (c : Char) : Bool := isSpecial c || isControl c

theorem escapeChar_of_ne {c : Char} (hsign : c ≠ '#') (hspace : c ≠ ' ') (isFirst isLast : Bool) :
    escapeChar isFirst isLast c = spellChar c := by
  simp only [spellChar, escapeChar, hsign, hspace, false_and, if_false]

theorem spellChar_cases (c : Char) :
    (isSpecial c = true ∧ spellChar c = ['\\', c]) ∨
    (isControl c = true ∧
      spellChar c = ['\\', Octets.hexDigit (c.toNat / 16), Octets.hexDigit (c.toNat % 16)]) ∨
    (isEscaped c = false ∧ spellChar c = [c]) := by
  unfold spellChar escapeChar
  rw [if_neg (by simp), if_neg (by simp)]
  split_ifs with hspecial hcontrol
  · exact .inl ⟨hspecial, rfl⟩
  · rw [hexPair_of_isControl (decide_eq_true hcontrol)]
    exact .inr (.inl ⟨decide_eq_true hcontrol, rfl⟩)
  · refine .inr (.inr ⟨?_, rfl⟩)
    rw [isEscaped, Bool.or_eq_false_iff]
    exact ⟨by simpa using hspecial, decide_eq_false hcontrol⟩

def escapedRanges : List (Nat × Nat) := [
  (0x00, 0x1f), (0x22, 0x22), (0x2b, 0x2c), (0x3b, 0x3c), (0x3e, 0x3e), (0x5c, 0x5c), (0x7f, 0x7f)]

theorem isEscaped_eq (c : Char) : isEscaped c = Text.inRanges escapedRanges c.toNat := by
  have hsame : ∀ d : Char, (c == d) = (c.toNat == d.toNat) := by
    intro d
    rw [Bool.eq_iff_iff, beq_iff_eq, beq_iff_eq, Char.toNat_inj]
  rw [isEscaped, Bool.eq_iff_iff]
  simp only [isSpecial, isControl, hsame, Text.inRanges, escapedRanges, List.any_cons,
    List.any_nil, Bool.or_eq_true, Bool.and_eq_true, decide_eq_true_eq, beq_iff_eq,
    Bool.or_false, Char.reduceToNat]
  omega

theorem spellChar_of_not_escaped {c : Char} (h : isEscaped c = false) : spellChar c = [c] := by
  rw [isEscaped, Bool.or_eq_false_iff] at h
  rcases spellChar_cases c with ⟨hspecial, -⟩ | ⟨hcontrol, -⟩ | ⟨-, hspelled⟩
  · cases h.1.symm.trans hspecial
  · cases h.2.symm.trans hcontrol
  · exact hspelled

/-- There is a backslash with a space behind it that is not the last character. -/
def LosesBackslash (text : List Char) : Prop :=
  ∃ front back, text = front ++ '\\' :: ' ' :: back ∧ back ≠ []

theorem LosesBackslash.cons {text : List Char} (h : LosesBackslash text) (c : Char) :
    LosesBackslash (c :: text) := by
  obtain ⟨front, back, rfl, hback⟩ := h
  exact ⟨c :: front, back, rfl, hback⟩

/-- Only a space that others follow is spelled as a space at the start. -/
theorem exists_of_escapeFrom_eq_space {text rest : List Char}
    (h : escapeFrom false text = ' ' :: rest) : ∃ back, text = ' ' :: back ∧ back ≠ [] := by
  cases text with
  | nil => cases h
  | cons c text =>
      rw [escapeFrom] at h
      by_cases hspace : c = ' '
      · refine ⟨text, by rw [hspace], ?_⟩
        rintro rfl
        rw [hspace] at h
        cases h
      · by_cases hsign : c = '#'
        · rw [hsign] at h
          cases h
        · rw [escapeChar_of_ne hsign hspace] at h
          rcases spellChar_cases c with ⟨-, hspelled⟩ | ⟨-, hspelled⟩ | ⟨-, hspelled⟩ <;>
            rw [hspelled] at h <;> cases h
          exact absurd rfl hspace

theorem plainSpaces_escapeFrom_backslash {text : List Char}
    (h : ¬ LosesBackslash ('\\' :: text)) :
    plainSpaces ('\\' :: '\\' :: escapeFrom false text) =
      '\\' :: '\\' :: plainSpaces (escapeFrom false text) := by
  rw [plainSpaces_backslash (by decide)]
  cases hnext : escapeFrom false text with
  | nil => rfl
  | cons d rest =>
      by_cases hd : d = ' '
      · subst hd
        obtain ⟨back, rfl, hback⟩ := exists_of_escapeFrom_eq_space hnext
        exact absurd ⟨[], back, rfl, hback⟩ h
      · rw [plainSpaces_backslash hd]

/-- The backslash in front of a number sign at the start. -/
def signMark (text : List Char) : List Char := if text.head? = some '#' then ['\\'] else []

/-- Unless a backslash is lost, the spelling goes character by character. -/
theorem plainSpaces_escapeFrom {text : List Char} (h : ¬ LosesBackslash text) (isFirst : Bool) :
    plainSpaces (escapeFrom isFirst text) =
      (if isFirst then signMark text else []) ++ text.flatMap spellChar := by
  induction text generalizing isFirst with
  | nil => cases isFirst <;> rfl
  | cons c text ih =>
      have hrest := ih (mt (fun hloses => hloses.cons c) h) false
      rw [if_neg (by decide), List.nil_append] at hrest
      rw [escapeFrom, List.flatMap_cons, ← hrest]
      by_cases hsign : c = '#'
      · subst hsign
        cases isFirst with
        | true => exact plainSpaces_special (.inl rfl) (by decide) _
        | false => exact plainSpaces_cons (by decide) _
      have hmark : signMark (c :: text) = [] := if_neg (by simpa using hsign)
      rw [hmark, ite_self, List.nil_append]
      by_cases hspace : c = ' '
      · subst hspace
        cases text.isEmpty <;> cases isFirst <;> rfl
      rw [escapeChar_of_ne hsign hspace]
      rcases spellChar_cases c with
        ⟨hspecial, hspelled⟩ | ⟨hcontrol, hspelled⟩ | ⟨hescaped, hspelled⟩
      · rw [hspelled, List.cons_append, List.cons_append, List.nil_append]
        by_cases hbackslash : c = '\\'
        · subst hbackslash
          exact plainSpaces_escapeFrom_backslash h
        · exact plainSpaces_special (.inr hspecial) hbackslash _
      · rw [hspelled]
        exact plainSpaces_control (hexDigits_lt hcontrol).1 (hexDigits_lt hcontrol).2 _
      · rw [hspelled]
        refine plainSpaces_cons ?_ _
        rintro rfl
        cases hescaped

/-! ### Lower case of a spelling -/

theorem isEscaped_eq_false_of_mem_lowerChar {c d : Char} (h : isEscaped c = false)
    (hd : d ∈ Text.lowerChar c) : isEscaped d = false := by
  rw [isEscaped_eq] at h ⊢
  exact Text.inRanges_eq_false_of_mem_lowerChar (by decide +kernel) (by decide +kernel) h hd

theorem flatMap_spellChar_of_not_escaped {text : List Char}
    (h : ∀ c ∈ text, isEscaped c = false) : text.flatMap spellChar = text := by
  rw [List.flatMap_congr fun c hc => spellChar_of_not_escaped (h c hc), List.flatMap_singleton']

theorem nextIsCased_flatMap_spellChar (text : List Char) :
    Text.nextIsCased (text.flatMap spellChar) = Text.nextIsCased text := by
  induction text with
  | nil => rfl
  | cons c text ih =>
      rw [List.flatMap_cons]
      rcases spellChar_cases c with
        ⟨hspecial, hspelled⟩ | ⟨hcontrol, hspelled⟩ | ⟨-, hspelled⟩
      · rw [hspelled, Text.nextIsCased_cons_of_neutral (isNeutral_of_special (.inr hspecial))]
        exact Text.nextIsCased_cons_of_neutral rfl _
      · rw [hspelled, Text.nextIsCased_cons_of_neutral (isNeutral_of_isControl hcontrol)]
        exact Text.nextIsCased_cons_of_neutral rfl _
      · rw [hspelled, List.singleton_append, Text.nextIsCased_cons, Text.nextIsCased_cons, ih]

/-- The lower case of a spelling is the spelling of the lower case, if control characters that are
written with a letter at the end are taken for letters. -/
theorem lowercaseAfter_flatMap_spellChar {before start : List Char}
    (hsame : Text.nextIsCased before = seemsCased start) (text : List Char) :
    Text.lowercaseAfter before (text.flatMap spellChar) =
      (Text.lowercaseWith seemsCased start text).flatMap spellChar := by
  induction text generalizing before start with
  | nil => rfl
  | cons c text ih =>
      rw [List.flatMap_cons]
      rcases spellChar_cases c with
        ⟨hspecial, hspelled⟩ | ⟨hcontrol, hspelled⟩ | ⟨hescaped, hspelled⟩
      · have hlower := lowerChar_of_special (.inr hspecial)
        have hneutral := isNeutral_of_special (.inr hspecial)
        have hnext : Text.nextIsCased (c :: '\\' :: before) = seemsCased (c :: start) := by
          rw [Text.nextIsCased_cons_of_neutral hneutral, seemsCased_cons_of_neutral hneutral,
            endsInHexLetter_of_special (.inr hspecial)]
        rw [Text.lowercaseWith_cons_of_lowerChar hlower, List.flatMap_cons, ← ih hnext, hspelled]
        simp only [List.cons_append, List.nil_append]
        rw [Text.lowercaseAfter_cons_of_lowerChar rfl, Text.lowercaseAfter_cons_of_lowerChar hlower]
      · obtain ⟨hhigh, hlow⟩ := hexDigits_lt hcontrol
        have hnext := nextIsCased_control hcontrol ('\\' :: before) start
        rw [Text.lowercaseWith_cons_of_lowerChar (lowerChar_of_isControl hcontrol),
          List.flatMap_cons, ← ih hnext, hspelled]
        simp only [List.cons_append, List.nil_append]
        rw [Text.lowercaseAfter_cons_of_lowerChar rfl,
          Text.lowercaseAfter_cons_of_lowerChar (lowerChar_hexDigit hhigh),
          Text.lowercaseAfter_cons_of_lowerChar (lowerChar_hexDigit hlow)]
      · have hcontrol : isControl c = false := (Bool.or_eq_false_iff.1 hescaped).2
        have hnext := nextIsCased_cons_of_not_control hcontrol hsame
        rw [hspelled, List.singleton_append, Text.lowercaseAfter_eq, Text.lowercaseWith,
          Text.lowercaseWith, ← Text.lowercaseAfter_eq, nextIsCased_flatMap_spellChar, hsame,
          ih hnext, List.flatMap_append]
        congr 1
        refine (flatMap_spellChar_of_not_escaped fun d hd => ?_).symm
        split at hd
        · rw [List.mem_singleton] at hd
          rw [hd]
          split <;> rfl
        · exact isEscaped_eq_false_of_mem_lowerChar hescaped hd

/-! ### Words of a spelling -/

theorem isBlank_eq_false_of_mem_spellChar {c d : Char} (h : Text.isBlank c = false)
    (hd : d ∈ spellChar c) : Text.isBlank d = false := by
  rcases spellChar_cases c with ⟨-, hspelled⟩ | ⟨hcontrol, hspelled⟩ | ⟨-, hspelled⟩
  · rw [hspelled, List.mem_cons, List.mem_singleton] at hd
    rcases hd with rfl | rfl
    · rfl
    · exact h
  · rw [hspelled, List.mem_cons, List.mem_cons, List.mem_singleton] at hd
    obtain ⟨hhigh, hlow⟩ := hexDigits_lt hcontrol
    rcases hd with rfl | rfl | rfl
    · rfl
    · exact isBlank_eq_false_of_hexValue? (hexValue?_hexDigit hhigh)
    · exact isBlank_eq_false_of_hexValue? (hexValue?_hexDigit hlow)
  · rw [hspelled, List.mem_singleton] at hd
    rwa [hd]

theorem spellChar_ne_nil (c : Char) : spellChar c ≠ [] := by
  rcases spellChar_cases c with ⟨-, hspelled⟩ | ⟨-, hspelled⟩ | ⟨-, hspelled⟩ <;> rw [hspelled] <;>
    exact List.cons_ne_nil _ _

/-- There is a blank that is written in hexadecimal. -/
def HidesBlank (text : List Char) : Prop := ∃ c ∈ text, Text.isBlank c = true ∧ isControl c = true

theorem spellChar_of_blank {c : Char} (hblank : Text.isBlank c = true)
    (hcontrol : isControl c = false) : spellChar c = [c] := by
  refine spellChar_of_not_escaped (Bool.or_eq_false_iff.2 ⟨?_, hcontrol⟩)
  rw [Bool.eq_false_iff]
  intro hspecial
  cases hblank.symm.trans (isBlank_eq_false_of_special (.inr hspecial))

theorem collapseFrom_flatMap_spellChar {text : List Char} (h : ¬ HidesBlank text) (inRun : Bool) :
    Text.collapseFrom inRun (text.flatMap spellChar) =
      (Text.collapseFrom inRun text).flatMap spellChar := by
  induction text generalizing inRun with
  | nil => rfl
  | cons c text ih =>
      have hrest := ih fun ⟨d, hd, hhidden⟩ => h ⟨d, List.mem_cons_of_mem c hd, hhidden⟩
      rw [List.flatMap_cons, Text.collapseFrom]
      cases hblank : Text.isBlank c with
      | true =>
          have hcontrol : isControl c = false := by
            rw [Bool.eq_false_iff]
            exact fun hcontrol => h ⟨c, List.mem_cons_self, hblank, hcontrol⟩
          rw [spellChar_of_blank hblank hcontrol, List.singleton_append, Text.collapseFrom, hblank]
          cases inRun with
          | true => exact hrest true
          | false => exact congrArg (' ' :: ·) (hrest true)
      | false =>
          rw [Text.collapseFrom_append_word
            (fun d hd => isBlank_eq_false_of_mem_spellChar hblank hd) (spellChar_ne_nil c), hrest]
          rfl

/-- The words are spelled one by one. -/
theorem spaced_flatMap_spellChar {text : List Char} (h : ¬ HidesBlank text) :
    Text.spaced (text.flatMap spellChar) = (Text.spaced text).flatMap spellChar := by
  have hlonger : ¬ HidesBlank (text ++ [' ']) := by
    rintro ⟨c, hc, hblank, hcontrol⟩
    rcases List.mem_append.1 hc with hmem | hspace
    · exact h ⟨c, hmem, hblank, hcontrol⟩
    · rw [List.mem_singleton.1 hspace] at hcontrol
      cases hcontrol
  have hspaced := collapseFrom_flatMap_spellChar hlonger true
  rwa [List.flatMap_append] at hspaced

theorem not_hidesBlank_lowercaseWith {text : List Char} (h : ¬ HidesBlank text)
    (cased : List Char → Bool) (before : List Char) :
    ¬ HidesBlank (Text.lowercaseWith cased before text) := by
  rintro ⟨d, hd, hblank, hcontrol⟩
  exact h ⟨d, Text.mem_of_mem_lowercaseWith hd hblank, hblank, hcontrol⟩

/-- **What is compared.** If no backslash is lost and no blank is hidden, what is compared are the
words in lower case, spelled character by character. -/
theorem spaced_lowercase_escape {text : List Char} (hbackslash : ¬ LosesBackslash text)
    (hblank : ¬ HidesBlank text) :
    Text.spaced (Text.lowercase (plainSpaces (escape text))) =
      signMark text ++ (Text.spaced (Text.lowercaseWith seemsCased [] text)).flatMap spellChar := by
  have hlower := not_hidesBlank_lowercaseWith hblank seemsCased []
  rw [escape, plainSpaces_escapeFrom hbackslash, if_pos rfl, ← spaced_flatMap_spellChar hlower]
  unfold signMark
  split
  · rename_i hsign
    obtain ⟨rest, rfl⟩ := List.head?_eq_some_iff.1 hsign
    have hbefore : Text.nextIsCased ['\\'] = seemsCased [] :=
      Text.nextIsCased_cons_of_neutral rfl []
    have hbackslash : Text.lowerChar '\\' = ['\\'] := rfl
    have hsame : Text.lowerChar '#' = ['#'] := lowerChar_of_special (.inl rfl)
    have hspelled : spellChar '#' = ['#'] := rfl
    rw [List.singleton_append, Text.lowercase, Text.lowercaseAfter_cons_of_lowerChar hbackslash,
      lowercaseAfter_flatMap_spellChar hbefore, Text.lowercaseWith_cons_of_lowerChar hsame,
      List.flatMap_cons, hspelled]
    rfl
  · have hbefore : Text.nextIsCased [] = seemsCased [] := rfl
    rw [List.nil_append, List.nil_append, Text.lowercase, lowercaseAfter_flatMap_spellChar hbefore]

/-! ### Equivalent attributes that are spelled apart -/

/-- The text of a value in normal form. -/
def normal? (attr : Attribute) : Option (List Char) := attr.value.text?.map Text.normal

theorem equivalent_iff {left right : Attribute} :
    left.Equivalent right ↔ left.type = right.type ∧
      (left.value = right.value ∨ left.normal?.isSome ∧ left.normal? = right.normal?) := by
  refine and_congr_right fun _ => or_congr_right ⟨?_, ?_⟩
  · rintro ⟨text, other, hleft, hright, hnormal⟩
    unfold normal?
    rw [hleft, hright]
    exact ⟨rfl, congrArg some hnormal⟩
  · rintro ⟨hsome, hsame⟩
    obtain ⟨normal, hnormal⟩ := Option.isSome_iff_exists.1 hsome
    obtain ⟨text, htext, rfl⟩ := Option.map_eq_some_iff.1 hnormal
    obtain ⟨other, hother, heq⟩ := Option.map_eq_some_iff.1 (hsame.symm.trans hnormal)
    exact ⟨text, other, htext, hother, heq.symm⟩

instance (left right : Attribute) : Decidable (left.Equivalent right) :=
  decidable_of_iff _ equivalent_iff.symm

/-- What a text is compared as does not depend on its words in lower case alone. -/
inductive Unsteady (text : List Char) : Prop where
  | lostBackslash (h : LosesBackslash text)
  | hiddenBlank (h : HidesBlank text)
  | misreadSigma (h : MisreadsSigma text)

/-- Characters that make no text unsteady. -/
def isSteady (c : Char) : Bool := c != '\\' && !isControl c && c != 'Σ'

theorem not_unsteady {text : List Char} (h : text.all isSteady = true) : ¬ Unsteady text := by
  rw [List.all_eq_true] at h
  rintro (⟨front, back, rfl, -⟩ | ⟨c, hc, -, hcontrol⟩ | hmisread)
  · cases h '\\' List.mem_append_cons_self
  · have hsteady := h c hc
    rw [isSteady, hcontrol, Bool.not_true, Bool.and_false, Bool.false_and] at hsteady
    cases hsteady
  · refine not_misreadsSigma_of_not_mem (fun hmem => ?_) hmisread
    cases h 'Σ' hmem

/-- Attributes with different values that may be spelled apart although they are equivalent: both
are text, and only one begins with a number sign, or one of them is not steady. -/
def SpelledApart (left right : Attribute) : Prop :=
  left.value ≠ right.value ∧ ∃ text other, left.value.text? = some text ∧
    right.value.text? = some other ∧
    (¬ (text.head? = some '#' ↔ other.head? = some '#') ∨ Unsteady text ∨ Unsteady other)

theorem not_spelledApart {left right : Attribute} {text other : List Char}
    (hleft : left.value.text? = some text) (hright : right.value.text? = some other)
    (hsign : text.head? = some '#' ↔ other.head? = some '#')
    (htext : text.all isSteady = true) (hother : other.all isSteady = true) :
    ¬ left.SpelledApart right := by
  rintro ⟨-, text', other', hleft', hright', hmay⟩
  obtain rfl := Option.some.inj (hleft.symm.trans hleft')
  obtain rfl := Option.some.inj (hright.symm.trans hright')
  rcases hmay with hdiffer | hunsteady | hunsteady
  · exact hdiffer hsign
  · exact not_unsteady htext hunsteady
  · exact not_unsteady hother hunsteady

theorem words_of_steady {attr : Attribute} {text : List Char} (h : attr.value.text? = some text)
    (hsteady : ¬ Unsteady text) :
    attr.words = signMark text ++ (Text.spaced (Text.lowercase text)).flatMap spellChar := by
  rw [words, valueText_of_text h,
    spaced_lowercase_escape (fun hlost => hsteady (.lostBackslash hlost))
      fun hhidden => hsteady (.hiddenBlank hhidden),
    lowercaseWith_seemsCased_of_not_misreads fun hmisread => hsteady (.misreadSigma hmisread)]

/-- Equivalent attributes agree unless they are spelled apart. -/
theorem agrees_of_equivalent {left right : Attribute} (h : left.Equivalent right)
    (hapart : ¬ left.SpelledApart right) : left.agrees right = true := by
  obtain ⟨htype, hvalue⟩ := h
  refine agrees_iff.2 ⟨htype, ?_⟩
  by_cases hsame : left.value = right.value
  · unfold words valueText octetText
    rw [htype, hsame]
  · obtain ⟨text, other, hleft, hright, hnormal⟩ := hvalue.resolve_left hsame
    have hclear : ¬ (¬ (text.head? = some '#' ↔ other.head? = some '#') ∨ Unsteady text ∨
        Unsteady other) := fun hmay => hapart ⟨hsame, text, other, hleft, hright, hmay⟩
    rw [not_or, not_not, not_or] at hclear
    obtain ⟨hsign, htext, hother⟩ := hclear
    have hwords : Text.spaced (Text.lowercase text) = Text.spaced (Text.lowercase other) := by
      rw [← Text.spaced_normal, hnormal, Text.spaced_normal]
    rw [words_of_steady hleft htext, words_of_steady hright hother, hwords]
    unfold signMark
    simp only [hsign]

end Attribute

/-! ### Names -/

namespace Name

variable {left right : Name} {related others : Attribute → Attribute → Prop}

theorem PairsInTurn.imp (h : left.PairsInTurn related right)
    (himp : ∀ l r, related l r → others l r) : left.PairsInTurn others right :=
  List.Forall₂.imp (fun _ _ hpairs => List.Forall₂.imp himp hpairs) h

/-- Where one name leaves its attributes no other order, those that pair up do so in turn. -/
theorem PairsUp.inTurn (h : left.PairsUp related right)
    (horder : ∀ l ∈ left.relatives, ∀ (r : RelativeName) (paired : List Attribute),
      paired.Perm r.attributes → List.Forall₂ related l.attributes paired →
      paired = r.attributes) : left.PairsInTurn related right := by
  obtain ⟨hlength, hrelatives⟩ := List.forall₂_iff_zip.1 h
  refine List.forall₂_iff_zip.2 ⟨hlength, fun {l r} hmem => ?_⟩
  obtain ⟨paired, hperm, hpaired⟩ := hrelatives hmem
  rwa [← horder l (List.of_mem_zip hmem).1 r paired hperm hpaired]

theorem agrees_of_pairsInTurn (h : left.PairsInTurn (fun l r => l.agrees r = true) right) :
    left.agrees right = true := by
  obtain ⟨hlength, hrelatives⟩ := List.forall₂_iff_zip.1 h
  simp only [agrees, Bool.and_eq_true, beq_iff_eq, List.all_eq_true]
  refine ⟨hlength, ?_⟩
  rintro ⟨l, r⟩ hmem
  obtain ⟨hsize, hattributes⟩ := List.forall₂_iff_zip.1 (hrelatives hmem)
  simp only [RelativeName.agrees, Bool.and_eq_true, Bool.or_eq_true, beq_iff_eq, List.all_eq_true]
  refine ⟨hsize, .inr ?_⟩
  rintro ⟨a, b⟩ hpair
  exact hattributes hpair

theorem perm_eq_of_length_le_one {attributes others : List Attribute}
    (h : attributes.length ≤ 1) (hperm : attributes.Perm others) : attributes = others := by
  match attributes, h with
  | [], _ => exact hperm.nil_eq
  | [attr], _ => exact List.singleton_perm.1 hperm

/-- **What matching refuses.** Names whose attributes pair up in turn match, if each attribute is
equivalent to the other and not spelled apart. They pair up in turn where they pair up at all if
every relative name has one attribute, and also where the attributes of each are all of different
types, and each is as long as its counterpart. -/
theorem agrees_of_pairs :
    (left.PairsInTurn (fun l r => l.Equivalent r ∧ ¬ l.SpelledApart r) right →
      left.agrees right = true) ∧
    ((∀ relative ∈ left.relatives, relative.attributes.length ≤ 1) →
      left.PairsUp (fun l r => l.Equivalent r ∧ ¬ l.SpelledApart r) right →
      left.agrees right = true) ∧
    ((∀ relative ∈ left.relatives, (relative.attributes.map Attribute.type).Nodup) →
      left.PairsUp (fun l r => (l.Equivalent r ∧ ¬ l.SpelledApart r) ∧
        l.value.content.length = r.value.content.length) right →
      left.agrees right = true) := by
  have hturn : left.PairsInTurn (fun l r => l.Equivalent r ∧ ¬ l.SpelledApart r) right →
      left.agrees right = true := fun h =>
    agrees_of_pairsInTurn (h.imp fun _ _ hpair => Attribute.agrees_of_equivalent hpair.1 hpair.2)
  refine ⟨hturn, fun halone h => hturn (h.inTurn ?_), fun hdistinct h => hturn ?_⟩
  · intro l hl r paired hperm hpaired
    exact perm_eq_of_length_le_one (hpaired.length_eq ▸ halone l hl) hperm
  · refine (h.inTurn ?_).imp fun _ _ hpair => hpair.1
    intro l hl r paired hperm hpaired
    have hshape : List.Forall₂ Attribute.SameShape l.attributes paired :=
      hpaired.imp fun _ _ hpair => ⟨hpair.1.1.1, hpair.2⟩
    exact RelativeName.eq_of_sameShape (hdistinct l hl) hshape hperm

end Name

namespace Sample

def organization (content : Octets) : Attribute :=
  ⟨⟨[0x55, 0x04, 0x0a], rfl⟩, ⟨.utf8String, content⟩⟩

/-- The name with two attributes in one relative name. -/
def nameOfBoth (first second : Attribute) (h : first.encode < second.encode) : Name :=
  ⟨[⟨[first, second], List.pairwise_pair.2 h⟩]⟩

theorem pairsUp_nameOf {related : Attribute → Attribute → Prop} {left right : Attribute}
    (h : related left right) : (nameOf left).PairsUp related (nameOf right) :=
  .cons ⟨[right], .refl _, .cons h .nil⟩ .nil

theorem pairsUp_nameOfBoth {related : Attribute → Attribute → Prop} {a b c d : Attribute}
    {h : a.encode < b.encode} {h' : c.encode < d.encode} (hfirst : related a c)
    (hsecond : related b d) : (nameOfBoth a b h).PairsUp related (nameOfBoth c d h') :=
  .cons ⟨[c, d], .refl _, .cons hfirst (.cons hsecond .nil)⟩ .nil

theorem pairsUp_nameOfBoth_swap {related : Attribute → Attribute → Prop} {a b c d : Attribute}
    {h : a.encode < b.encode} {h' : c.encode < d.encode} (hfirst : related a d)
    (hsecond : related b c) : (nameOfBoth a b h).PairsUp related (nameOfBoth c d h') :=
  .cons ⟨[d, c], .swap _ _ _, .cons hfirst (.cons hsecond .nil)⟩ .nil

def testCa : Attribute := common .utf8String (Text.ascii "Test CA")

def smallTestCa : Attribute := common .printableString (Text.ascii "test ca")

def wideTestCa : Attribute := common .utf8String (Text.ascii " Test  CA")

def capitalOrg : Attribute := organization (Text.ascii "ORG")

def smallOrg : Attribute := organization (Text.ascii "org")

theorem not_spelledApart_recased :
    ¬ wideTestCa.SpelledApart smallTestCa ∧ ¬ testCa.SpelledApart smallTestCa ∧
      ¬ capitalOrg.SpelledApart smallOrg := by
  have htest : testCa.value.text? = some "Test CA".toList := by decide +kernel
  have hsmall : smallTestCa.value.text? = some "test ca".toList := by decide +kernel
  have hwide : wideTestCa.value.text? = some " Test  CA".toList := by decide +kernel
  have hcapital : capitalOrg.value.text? = some "ORG".toList := by decide +kernel
  have horg : smallOrg.value.text? = some "org".toList := by decide +kernel
  have hsign : ∀ text ∈ ["Test CA", "test ca", " Test  CA", "ORG", "org"],
      ¬ text.toList.head? = some '#' ∧ text.toList.all Attribute.isSteady = true := by
    decide +kernel
  simp only [List.forall_mem_cons] at hsign
  obtain ⟨⟨htest₁, htest₂⟩, ⟨hsmall₁, hsmall₂⟩, ⟨hwide₁, hwide₂⟩, ⟨hcapital₁, hcapital₂⟩,
    ⟨horg₁, horg₂⟩, -⟩ := hsign
  exact ⟨Attribute.not_spelledApart hwide hsmall (iff_of_false hwide₁ hsmall₁) hwide₂ hsmall₂,
    Attribute.not_spelledApart htest hsmall (iff_of_false htest₁ hsmall₁) htest₂ hsmall₂,
    Attribute.not_spelledApart hcapital horg (iff_of_false hcapital₁ horg₁) hcapital₂ horg₂⟩

/-- Names in other letters and with other spaces, with one attribute and with two. -/
theorem agrees_recased :
    (nameOf wideTestCa).agrees (nameOf smallTestCa) = true ∧
    (nameOfBoth capitalOrg testCa (by decide)).agrees
      (nameOfBoth smallOrg smallTestCa (by decide)) = true := by
  obtain ⟨hwide, htest, horg⟩ := not_spelledApart_recased
  obtain ⟨-, halone, -⟩ := @Name.agrees_of_pairs (nameOf wideTestCa) (nameOf smallTestCa)
  obtain ⟨-, -, hboth⟩ := @Name.agrees_of_pairs (nameOfBoth capitalOrg testCa (by decide))
    (nameOfBoth smallOrg smallTestCa (by decide))
  have hequivalent : wideTestCa.Equivalent smallTestCa ∧ testCa.Equivalent smallTestCa ∧
      capitalOrg.Equivalent smallOrg := by
    decide +kernel
  constructor
  · exact halone (by decide) (pairsUp_nameOf ⟨hequivalent.1, hwide⟩)
  · have hdistinct : ([capitalOrg, testCa].map Attribute.type).Nodup := by decide
    have hlength : capitalOrg.value.content.length = smallOrg.value.content.length ∧
        testCa.value.content.length = smallTestCa.value.content.length := by
      decide +kernel
    refine hboth (List.forall_mem_singleton.2 hdistinct) (pairsUp_nameOfBoth ?_ ?_)
    · exact ⟨⟨hequivalent.2.2, horg⟩, hlength.1⟩
    · exact ⟨⟨hequivalent.2.1, htest⟩, hlength.2⟩

/-- Pairs of common names that are equivalent and spelled apart. -/
def spelledApart : List (Attribute × Attribute) := [
  -- a number sign at the start, and behind a space
  (common .utf8String (Text.ascii "#a"), common .utf8String (Text.ascii " #a")),
  -- a tab, and a space
  (common .utf8String (Text.ascii "a\tb"), common .utf8String (Text.ascii "a b")),
  -- a backslash at the end, and with two spaces behind it
  (common .utf8String (Text.ascii "a\\"), common .utf8String (Text.ascii "a\\  ")),
  -- a control character with a capital sigma, and with a small one
  (capitalSigma, common .utf8String [0x1a, 0xcf, 0x83])]

def shortOrg : Attribute := organization (Text.ascii "b")

/-- The same organization with spaces behind, which make it longer than the common name. -/
def longOrg : Attribute := organization (Text.ascii "b   ")

def middling : Attribute := common .utf8String (Text.ascii "aa")

/-- Equivalent names do not match if their values are spelled apart, or if spaces at the end of one
value make its attribute stand in another place. -/
theorem equivalent_refused :
    (∀ pair ∈ spelledApart, (nameOf pair.1).PairsUp Attribute.Equivalent (nameOf pair.2) ∧
      (nameOf pair.1).agrees (nameOf pair.2) = false) ∧
    (nameOfBoth shortOrg middling (by decide)).PairsUp Attribute.Equivalent
      (nameOfBoth middling longOrg (by decide)) ∧
    (nameOfBoth shortOrg middling (by decide)).agrees
      (nameOfBoth middling longOrg (by decide)) = false := by
  have hall : ∀ pair ∈ spelledApart, pair.1.Equivalent pair.2 ∧
      (nameOf pair.1).agrees (nameOf pair.2) = false := by
    decide +kernel
  have horg : shortOrg.Equivalent longOrg := by decide +kernel
  refine ⟨fun pair hmem => (hall pair hmem).imp_left pairsUp_nameOf, ?_, by decide +kernel⟩
  exact pairsUp_nameOfBoth_swap horg ⟨rfl, .inl rfl⟩

end Sample

end TrustChain
