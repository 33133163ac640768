import TrustChain.Name.Matching
import TrustChain.Proofs.Text.Lowercase

/-!
# Reading a spelled value back

Values are compared as they are spelled: ambiguous characters escaped, the escapes of spaces undone,
and all of that put in lower case. The text can still be read back from the spelling (`unspell`), in
lower case, and a reader does not care where blanks begin and end. What lower-casing makes of the
spelling is not quite the lower case of the text, however: a control character is written in
hexadecimal, and where that ends in a letter, a capital sigma behind it is taken to stand at the end
of a word.
-/

namespace TrustChain

namespace Attribute

def isControl (c : Char) : Bool := decide (c.toNat < 0x20 ∨ c.toNat = 0x7f)

/-- The ways in which a character may be spelled. It stands for itself only if it is neither special
nor a control character; all other spellings start with a backslash. -/
inductive Spells : Char → List Char → Prop where
  | space : Spells ' ' ['\\', ' ']
  | special {c : Char} (hspecial : c = '#' ∨ isSpecial c = true) : Spells c ['\\', c]
  | control {c : Char} (hcontrol : isControl c = true) :
      Spells c ['\\', Octets.hexDigit (c.toNat / 16), Octets.hexDigit (c.toNat % 16)]
  | plain {c : Char} (hspecial : isSpecial c = false) (hcontrol : isControl c = false) :
      Spells c [c]

theorem ne_backslash_of_not_special {c : Char} (h : isSpecial c = false) : c ≠ '\\' := by
  rintro rfl
  cases h

theorem hexDigits_lt {c : Char} (h : isControl c = true) :
    c.toNat / 16 < 16 ∧ c.toNat % 16 < 16 := by
  have hrange := of_decide_eq_true h
  omega

theorem hexPair_of_isControl {c : Char} (h : isControl c = true) :
    Octets.hexPair (UInt8.ofNat c.toNat) =
      [Octets.hexDigit (c.toNat / 16), Octets.hexDigit (c.toNat % 16)] := by
  have hrange := of_decide_eq_true h
  have hoctet : (UInt8.ofNat c.toNat).toNat = c.toNat := by
    rw [UInt8.toNat_ofNat']
    omega
  rw [Octets.hexPair, hoctet]

theorem spells_escapeChar (isFirst isLast : Bool) (c : Char) :
    Spells c (escapeChar isFirst isLast c) := by
  unfold escapeChar
  split
  · rename_i hsign
    obtain ⟨rfl, -⟩ := hsign
    exact .special (.inl rfl)
  · split
    · rename_i hspace
      obtain ⟨rfl, -⟩ := hspace
      exact .space
    · split
      · rename_i hspecial
        exact .special (.inr hspecial)
      · rename_i hspecial
        split
        · rename_i hcontrol
          rw [hexPair_of_isControl (decide_eq_true hcontrol)]
          exact .control (decide_eq_true hcontrol)
        · rename_i hcontrol
          exact .plain (Bool.eq_false_iff.2 hspecial) (decide_eq_false hcontrol)

/-- A text is spelled character by character. -/
theorem exists_spells_escapeFrom (isFirst : Bool) (c : Char) (rest : List Char) :
    ∃ spelling, Spells c spelling ∧
      escapeFrom isFirst (c :: rest) = spelling ++ escapeFrom false rest :=
  ⟨_, spells_escapeChar isFirst rest.isEmpty c, rfl⟩

/-! ### Reading -/

/-- What a reader holds back: nothing, a backslash, or a backslash and a digit. -/
inductive Held where
  | nothing
  | backslash
  | digit (high : Nat)

def Held.text : Held → List Char
  | nothing => []
  | backslash => ['\\']
  | digit high => ['\\', Octets.hexDigit high]

/-- Undoes the escaping of everything but spaces. -/
def unspellFrom : Held → List Char → List Char
  | held, [] => held.text
  | .nothing, c :: rest =>
    if c = '\\' then unspellFrom .backslash rest else c :: unspellFrom .nothing rest
  | .backslash, c :: rest =>
    if c = '#' ∨ isSpecial c then c :: unspellFrom .nothing rest
    else
      match Octets.hexValue? c with
      | some high => unspellFrom (.digit high) rest
      | none => '\\' :: c :: unspellFrom .nothing rest
  | .digit high, c :: rest =>
    match Octets.hexValue? c with
    | some low => Char.ofNat (high * 16 + low) :: unspellFrom .nothing rest
    | none => '\\' :: Octets.hexDigit high :: c :: unspellFrom .nothing rest

def unspell (spelled : List Char) : List Char := unspellFrom .nothing spelled

theorem unspell_cons {c : Char} (h : c ≠ '\\') (rest : List Char) :
    unspell (c :: rest) = c :: unspell rest := by
  unfold unspell
  rw [unspellFrom, if_neg h]

theorem unspell_append {front : List Char} (h : '\\' ∉ front) (rest : List Char) :
    unspell (front ++ rest) = front ++ unspell rest := by
  induction front with
  | nil => rfl
  | cons c front ih =>
      rw [List.mem_cons, not_or] at h
      rw [List.cons_append, unspell_cons (Ne.symm h.1), ih h.2, List.cons_append]

theorem unspell_of_not_mem {text : List Char} (h : '\\' ∉ text) : unspell text = text := by
  have hnil : unspell [] = [] := rfl
  have happend := unspell_append h []
  rwa [List.append_nil, hnil, List.append_nil] at happend

theorem unspell_special {c : Char} (hspecial : c = '#' ∨ isSpecial c = true) (rest : List Char) :
    unspell ('\\' :: c :: rest) = c :: unspell rest := by
  unfold unspell
  rw [unspellFrom, if_pos rfl, unspellFrom, if_pos hspecial]

theorem hexValue?_hexDigit {n : Nat} (h : n < 16) :
    Octets.hexValue? (Octets.hexDigit n) = some n := by
  have hall : ∀ n : Fin 16, Octets.hexValue? (Octets.hexDigit n) = some n.val := by decide
  exact hall ⟨n, h⟩

theorem unspell_control {high low : Nat} (hhigh : high < 16) (hlow : low < 16)
    (rest : List Char) :
    unspell ('\\' :: Octets.hexDigit high :: Octets.hexDigit low :: rest) =
      Char.ofNat (high * 16 + low) :: unspell rest := by
  have hall : ∀ n : Fin 16,
      ¬ (Octets.hexDigit n = '#' ∨ isSpecial (Octets.hexDigit n) = true) := by
    decide
  unfold unspell
  rw [unspellFrom, if_pos rfl, unspellFrom, if_neg (hall ⟨high, hhigh⟩)]
  simp only [hexValue?_hexDigit hhigh, unspellFrom, hexValue?_hexDigit hlow]

/-! ### Words -/

theorem special_cases {c : Char} (h : c = '#' ∨ isSpecial c = true) :
    c = '#' ∨ c = '"' ∨ c = '+' ∨ c = ',' ∨ c = ';' ∨ c = '<' ∨ c = '>' ∨ c = '\\' := by
  simpa [isSpecial, or_assoc] using h

theorem isBlank_eq_false_of_special {c : Char} (h : c = '#' ∨ isSpecial c = true) :
    Text.isBlank c = false := by
  rcases special_cases h with rfl | rfl | rfl | rfl | rfl | rfl | rfl | rfl <;> rfl

theorem ne_space_of_special {c : Char} (h : c = '#' ∨ isSpecial c = true) : c ≠ ' ' := by
  rintro rfl
  cases isBlank_eq_false_of_special h

theorem isBlank_eq_false_of_hexValue? {c : Char} {n : Nat} (h : Octets.hexValue? c = some n) :
    Text.isBlank c = false := by
  have hascii : c.toNat < 0x80 := by
    unfold Octets.hexValue? at h
    simp only [Char.le_def, UInt32.le_iff_toNat_le] at h
    split_ifs at h with hdigit hlower hupper
    · exact Nat.lt_of_le_of_lt hdigit.2 (by decide)
    · exact Nat.lt_of_le_of_lt hlower.2 (by decide)
    · exact Nat.lt_of_le_of_lt hupper.2 (by decide)
  apply @Text.forall_ascii (fun c => (Octets.hexValue? c).isSome = true → Text.isBlank c = false)
    (by decide +kernel) c hascii
  rw [h]
  rfl

/-- Nothing that is held back goes with a blank. -/
theorem unspellFrom_blank {b : Char} (hb : Text.isBlank b = true) (held : Held)
    (rest : List Char) : unspellFrom held (b :: rest) = held.text ++ b :: unspell rest := by
  have hspecial : ¬ (b = '#' ∨ isSpecial b = true) := fun h =>
    (nomatch hb.symm.trans (isBlank_eq_false_of_special h))
  have hbackslash : b ≠ '\\' := by
    rintro rfl
    exact hspecial (.inr rfl)
  have hdigit : Octets.hexValue? b = none := by
    cases hvalue : Octets.hexValue? b with
    | none => rfl
    | some n => cases hb.symm.trans (isBlank_eq_false_of_hexValue? hvalue)
  cases held with
  | nothing => exact unspell_cons hbackslash rest
  | backslash =>
      rw [unspellFrom, if_neg hspecial, hdigit]
      rfl
  | digit high =>
      rw [unspellFrom, hdigit]
      rfl

/-- A reader starts afresh at every blank. -/
theorem unspellFrom_append_blank {b : Char} (hb : Text.isBlank b = true) (held : Held)
    (front back : List Char) :
    unspellFrom held (front ++ b :: back) = unspellFrom held front ++ b :: unspell back := by
  induction front generalizing held with
  | nil => cases held <;> exact unspellFrom_blank hb _ back
  | cons c front ih =>
      cases held with
      | nothing =>
          rw [List.cons_append, unspellFrom, unspellFrom]
          split
          · exact ih _
          · rw [ih, List.cons_append]
      | backslash =>
          rw [List.cons_append, unspellFrom, unspellFrom]
          split
          · rw [ih, List.cons_append]
          · split
            · exact ih _
            · rw [ih, List.cons_append, List.cons_append]
      | digit high =>
          rw [List.cons_append, unspellFrom, unspellFrom]
          split <;> rw [ih] <;> rfl

theorem unspell_append_blank {b : Char} (hb : Text.isBlank b = true) (front back : List Char) :
    unspell (front ++ b :: back) = unspell front ++ b :: unspell back :=
  unspellFrom_append_blank hb .nothing front back

/-- What is read depends on the words alone. The induction is on the text behind the part of a word
that has been passed. -/
theorem spaced_unspell_spaced_append {word : List Char}
    (hsolid : ∀ c ∈ word, Text.isBlank c = false) (text : List Char) :
    Text.spaced (unspell (Text.spaced (word ++ text))) = Text.spaced (unspell (word ++ text)) := by
  have hnil : unspell [] = [] := rfl
  induction text generalizing word with
  | nil =>
      rw [List.append_nil]
      by_cases hword : word = []
      · rw [hword]
        rfl
      · rw [Text.spaced_of_solid hsolid hword, unspell_append_blank Text.isBlank_space, hnil,
          Text.spaced_append_blank Text.isBlank_space, Text.spaced_nil, List.append_nil]
  | cons c text ih =>
      cases hc : Text.isBlank c with
      | false =>
          have hlonger : ∀ d ∈ word ++ [c], Text.isBlank d = false := by
            simp only [List.mem_append, List.mem_singleton]
            rintro d (hd | rfl)
            · exact hsolid d hd
            · exact hc
          have hrest := ih hlonger
          rwa [List.append_assoc, List.singleton_append] at hrest
      | true =>
          have hrest := @ih [] (List.forall_mem_nil _)
          rw [List.nil_append] at hrest
          rw [Text.spaced_append_blank hc, unspell_append_blank hc, Text.spaced_append_blank hc,
            ← hrest]
          by_cases hword : word = []
          · rw [hword]
            rfl
          · rw [Text.spaced_of_solid hsolid hword, List.append_assoc, List.singleton_append,
              unspell_append_blank Text.isBlank_space, Text.spaced_append_blank Text.isBlank_space]

theorem spaced_unspell_spaced (text : List Char) :
    Text.spaced (unspell (Text.spaced text)) = Text.spaced (unspell text) :=
  @spaced_unspell_spaced_append [] (List.forall_mem_nil _) text

theorem spaced_unspell_congr {text other : List Char} (h : Text.spaced text = Text.spaced other) :
    Text.spaced (unspell text) = Text.spaced (unspell other) := by
  rw [← spaced_unspell_spaced text, h, spaced_unspell_spaced]

/-! ### Lower case of a spelling -/

/-- The control characters that are written with a letter at the end. -/
def endsInHexLetter (c : Char) : Bool := isControl c && decide (10 ≤ c.toNat % 16)

/-- Whether the nearest character that counts is a letter with case, or looks like one because it is
written in hexadecimal. -/
def seemsCased (before : List Char) : Bool :=
  match before.dropWhile fun c => Text.inRanges Text.caseIgnorableRanges c.toNat with
  | [] => false
  | c :: _ => Text.inRanges Text.casedRanges c.toNat || endsInHexLetter c

theorem seemsCased_cons (c : Char) (rest : List Char) :
    seemsCased (c :: rest) =
      if Text.inRanges Text.caseIgnorableRanges c.toNat then seemsCased rest
      else Text.inRanges Text.casedRanges c.toNat || endsInHexLetter c := by
  unfold seemsCased
  rw [List.dropWhile_cons]
  cases Text.inRanges Text.caseIgnorableRanges c.toNat <;> rfl

theorem seemsCased_cons_of_neutral {c : Char} (h : Text.isNeutral c = true) (rest : List Char) :
    seemsCased (c :: rest) = endsInHexLetter c := by
  rw [seemsCased_cons, Text.isNeutral.not_ignorable h, Text.isNeutral.not_cased h]
  rfl

theorem isNeutral_of_isControl {c : Char} (h : isControl c = true) : Text.isNeutral c = true := by
  have hcontrol := of_decide_eq_true h
  rcases hcontrol with hlow | hdelete
  · exact Text.inRanges_of_mem (.head _) (Nat.zero_le _) (by omega)
  · rw [Text.isNeutral, hdelete]
    rfl

theorem isNeutral_of_special {c : Char} (h : c = '#' ∨ isSpecial c = true) :
    Text.isNeutral c = true := by
  rcases special_cases h with rfl | rfl | rfl | rfl | rfl | rfl | rfl | rfl <;> rfl

theorem endsInHexLetter_of_special {c : Char} (h : c = '#' ∨ isSpecial c = true) :
    endsInHexLetter c = false := by
  rcases special_cases h with rfl | rfl | rfl | rfl | rfl | rfl | rfl | rfl <;> rfl

theorem plainSpaces_cons {c : Char} (h : c ≠ '\\') (rest : List Char) :
    plainSpaces (c :: rest) = c :: plainSpaces rest := by
  rw [plainSpaces]
  rintro _ ⟨⟩
  exact absurd rfl h

theorem plainSpaces_backslash {c : Char} (h : c ≠ ' ') (rest : List Char) :
    plainSpaces ('\\' :: c :: rest) = '\\' :: plainSpaces (c :: rest) := by
  rw [plainSpaces]
  rintro _ _ ⟨⟩
  exact absurd rfl h

theorem plainSpaces_space (rest : List Char) :
    plainSpaces ('\\' :: ' ' :: rest) = ' ' :: plainSpaces rest := rfl

/-- Undoing the escapes of spaces leaves the other spellings as they are. -/
theorem plainSpaces_special {c : Char} (hspecial : c = '#' ∨ isSpecial c = true) (hne : c ≠ '\\')
    (rest : List Char) : plainSpaces ('\\' :: c :: rest) = '\\' :: c :: plainSpaces rest := by
  rw [plainSpaces_backslash (ne_space_of_special hspecial), plainSpaces_cons hne]

theorem hexDigit_ne {n : Nat} (h : n < 16) :
    Octets.hexDigit n ≠ '\\' ∧ Octets.hexDigit n ≠ ' ' := by
  have hall : ∀ n : Fin 16, Octets.hexDigit n ≠ '\\' ∧ Octets.hexDigit n ≠ ' ' := by decide
  exact hall ⟨n, h⟩

theorem plainSpaces_control {high low : Nat} (hhigh : high < 16) (hlow : low < 16)
    (rest : List Char) :
    plainSpaces ('\\' :: Octets.hexDigit high :: Octets.hexDigit low :: rest) =
      '\\' :: Octets.hexDigit high :: Octets.hexDigit low :: plainSpaces rest := by
  rw [plainSpaces_backslash (hexDigit_ne hhigh).2, plainSpaces_cons (hexDigit_ne hhigh).1,
    plainSpaces_cons (hexDigit_ne hlow).1]

/-- A character that is escaped is no letter, and neither is what it is escaped with. -/
theorem nextIsCased_plainSpaces_escapeFrom (isFirst : Bool) (text : List Char) :
    Text.nextIsCased (plainSpaces (escapeFrom isFirst text)) = Text.nextIsCased text := by
  induction text generalizing isFirst with
  | nil => rfl
  | cons c text ih =>
      obtain ⟨spelling, hspells, hescape⟩ := exists_spells_escapeFrom isFirst c text
      rw [hescape]
      cases hspells with
      | space =>
          rw [List.cons_append, List.cons_append, plainSpaces_space,
            Text.nextIsCased_cons_of_neutral rfl, Text.nextIsCased_cons_of_neutral rfl]
      | special hspecial =>
          rw [Text.nextIsCased_cons_of_neutral (isNeutral_of_special hspecial), List.cons_append,
            List.cons_append, plainSpaces_backslash (ne_space_of_special hspecial)]
          exact Text.nextIsCased_cons_of_neutral rfl _
      | control hcontrol =>
          rw [Text.nextIsCased_cons_of_neutral (isNeutral_of_isControl hcontrol), List.cons_append,
            List.cons_append, plainSpaces_backslash (hexDigit_ne (hexDigits_lt hcontrol).1).2]
          exact Text.nextIsCased_cons_of_neutral rfl _
      | plain hspecial hcontrol =>
          rw [List.cons_append, plainSpaces_cons (ne_backslash_of_not_special hspecial),
            Text.nextIsCased_cons, Text.nextIsCased_cons]
          rw [List.nil_append, ih]

theorem lowerChar_of_special {c : Char} (h : c = '#' ∨ isSpecial c = true) :
    Text.lowerChar c = [c] := by
  rcases special_cases h with rfl | rfl | rfl | rfl | rfl | rfl | rfl | rfl <;> decide

theorem lowerChar_of_isControl {c : Char} (h : isControl c = true) : Text.lowerChar c = [c] := by
  have hascii : c.toNat < 0x80 := by
    have hcontrol := of_decide_eq_true h
    omega
  have hlower :=
    @Text.forall_ascii (fun c => isControl c = true → c.toLower = c) (by decide +kernel) c hascii
  rw [Text.lowerChar_of_ascii hascii, hlower h]

theorem lowerChar_hexDigit {n : Nat} (h : n < 16) :
    Text.lowerChar (Octets.hexDigit n) = [Octets.hexDigit n] := by
  have hall : ∀ n : Fin 16, Text.lowerChar (Octets.hexDigit n) = [Octets.hexDigit n] := by
    decide +kernel
  exact hall ⟨n, h⟩

theorem nextIsCased_hexDigit {n : Nat} (h : n < 16) (rest : List Char) :
    Text.nextIsCased (Octets.hexDigit n :: rest) = decide (10 ≤ n) := by
  have hall : ∀ n : Fin 16, (if Text.inRanges Text.caseIgnorableRanges (Octets.hexDigit n).toNat
      then none else some (Text.inRanges Text.casedRanges (Octets.hexDigit n).toNat)) =
        some (decide (10 ≤ n.val)) := by
    decide +kernel
  have hdigit := hall ⟨n, h⟩
  rw [Text.nextIsCased_cons]
  split at hdigit
  · cases hdigit
  · rename_i hignorable
    rw [if_neg hignorable]
    exact Option.some.inj hdigit

/-- A control character that is written with a letter at the end is taken for a letter. -/
theorem nextIsCased_control {c : Char} (h : isControl c = true) (before start : List Char) :
    Text.nextIsCased (Octets.hexDigit (c.toNat % 16) :: Octets.hexDigit (c.toNat / 16) :: before) =
      seemsCased (c :: start) := by
  rw [nextIsCased_hexDigit (hexDigits_lt h).2,
    seemsCased_cons_of_neutral (isNeutral_of_isControl h), endsInHexLetter, h, Bool.true_and]

theorem nextIsCased_cons_of_not_control {c : Char} (h : isControl c = false)
    {before start : List Char} (hsame : Text.nextIsCased before = seemsCased start) :
    Text.nextIsCased (c :: before) = seemsCased (c :: start) := by
  rw [Text.nextIsCased_cons, seemsCased_cons, hsame, endsInHexLetter, h, Bool.false_and,
    Bool.or_false]

/-- An escaped backslash, also where it makes a space behind it look escaped. -/
theorem unspell_lowercaseAfter_backslash (before rest : List Char) :
    unspell (Text.lowercaseAfter before (plainSpaces ('\\' :: '\\' :: rest))) =
      '\\' :: unspell (Text.lowercaseAfter ('\\' :: before) (plainSpaces rest)) := by
  have hbackslash : Text.lowerChar '\\' = ['\\'] := rfl
  rw [plainSpaces_backslash (by decide), Text.lowercaseAfter_cons_of_lowerChar hbackslash]
  cases rest with
  | nil => rfl
  | cons c rest =>
      by_cases hspace : c = ' '
      · subst hspace
        rw [plainSpaces_space, plainSpaces_cons (by decide),
          Text.lowercaseAfter_cons_of_lowerChar rfl]
        exact unspellFrom_blank Text.isBlank_space .backslash _
      · have hbefore : Text.nextIsCased ('\\' :: '\\' :: before) =
            Text.nextIsCased ('\\' :: before) := by
          rw [Text.nextIsCased_cons_of_neutral rfl, Text.nextIsCased_cons_of_neutral rfl]
        rw [plainSpaces_backslash hspace, Text.lowercaseAfter_cons_of_lowerChar hbackslash,
          unspell_special (.inr rfl), Text.lowercaseAfter_of_nextIsCased_eq hbefore]

/-- **What is read back.** The lower case of a spelling reads as the lower case of the text, if
control characters that are written with a letter at the end are taken for letters. -/
theorem unspell_lowercaseAfter {before start : List Char}
    (hsame : Text.nextIsCased before = seemsCased start) (isFirst : Bool) (text : List Char) :
    unspell (Text.lowercaseAfter before (plainSpaces (escapeFrom isFirst text))) =
      Text.lowercaseWith seemsCased start text := by
  induction text generalizing before start isFirst with
  | nil => rfl
  | cons c text ih =>
      obtain ⟨spelling, hspells, hescape⟩ := exists_spells_escapeFrom isFirst c text
      rw [hescape]
      cases hspells with
      | space =>
          have hnext : Text.nextIsCased (' ' :: before) = seemsCased (' ' :: start) := by
            rw [Text.nextIsCased_cons_of_neutral rfl, seemsCased_cons_of_neutral rfl]
            rfl
          rw [List.cons_append, List.cons_append, List.nil_append, plainSpaces_space,
            Text.lowercaseAfter_cons_of_lowerChar rfl, unspell_cons (by decide),
            Text.lowercaseWith_cons_of_lowerChar rfl, ih hnext]
      | special hspecial =>
          have hlower := lowerChar_of_special hspecial
          have hneutral := isNeutral_of_special hspecial
          have hstart : seemsCased (c :: start) = false := by
            rw [seemsCased_cons_of_neutral hneutral, endsInHexLetter_of_special hspecial]
          rw [Text.lowercaseWith_cons_of_lowerChar hlower, List.cons_append, List.cons_append,
            List.nil_append]
          by_cases hbackslash : c = '\\'
          · subst hbackslash
            rw [unspell_lowercaseAfter_backslash, ih]
            rw [hstart]
            exact Text.nextIsCased_cons_of_neutral rfl before
          · rw [plainSpaces_special hspecial hbackslash, Text.lowercaseAfter_cons_of_lowerChar rfl,
              Text.lowercaseAfter_cons_of_lowerChar hlower, unspell_special hspecial, ih]
            rw [hstart, Text.nextIsCased_cons_of_neutral hneutral]
      | control hcontrol =>
          obtain ⟨hhigh, hlow⟩ := hexDigits_lt hcontrol
          have hcode : c.toNat / 16 * 16 + c.toNat % 16 = c.toNat := Nat.div_add_mod' _ _
          have hnext := nextIsCased_control hcontrol ('\\' :: before) start
          rw [Text.lowercaseWith_cons_of_lowerChar (lowerChar_of_isControl hcontrol)]
          simp only [List.cons_append, List.nil_append]
          rw [plainSpaces_control hhigh hlow, Text.lowercaseAfter_cons_of_lowerChar rfl,
            Text.lowercaseAfter_cons_of_lowerChar (lowerChar_hexDigit hhigh),
            Text.lowercaseAfter_cons_of_lowerChar (lowerChar_hexDigit hlow),
            unspell_control hhigh hlow, hcode, Char.ofNat_toNat, ih hnext]
      | plain hspecial hcontrol =>
          have hne := ne_backslash_of_not_special hspecial
          have hnext := nextIsCased_cons_of_not_control hcontrol hsame
          rw [List.cons_append, List.nil_append, plainSpaces_cons hne, Text.lowercaseAfter_eq,
            Text.lowercaseWith, Text.lowercaseWith, ← Text.lowercaseAfter_eq,
            nextIsCased_plainSpaces_escapeFrom, hsame, unspell_append, ih hnext]
          split
          · split <;> decide
          · intro hmem
            cases hmark : Text.isMark c with
            | true =>
                rw [Text.lowerChar_of_isMark hmark, List.mem_singleton] at hmem
                exact hne hmem.symm
            | false => cases Text.isMark_eq_false_of_mem_lowerChar hmark hmem

end Attribute

end TrustChain
