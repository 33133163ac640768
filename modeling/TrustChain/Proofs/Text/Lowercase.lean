import TrustChain.Text.Lowercase
import TrustChain.Proofs.Text.Blank
import Mathlib.Data.List.Basic

/-!
# Lower case, word by word

Lower-casing keeps blanks as they are and makes none, and the form of a sigma does not depend on
what stands beyond a blank, so a text may be lower-cased before or after it is trimmed. What the
form of a sigma does depend on is kept as a parameter here (`lowercaseWith`): two readings of the
letters before it give the same text but for the form of some sigmas.
-/

namespace TrustChain.Text

/-! ### Ranges of code points -/

/-- No range of the one list meets a range of the other. -/
def Apart (ranges others : List (Nat × Nat)) : Prop :=
  ∀ r ∈ ranges, ∀ o ∈ others, r.2 < o.1 ∨ o.2 < r.1

instance (ranges others : List (Nat × Nat)) : Decidable (Apart ranges others) :=
  inferInstanceAs (Decidable (∀ r ∈ ranges, ∀ o ∈ others, r.2 < o.1 ∨ o.2 < r.1))

theorem mem_ranges_of_inRanges {ranges : List (Nat × Nat)} {n : Nat}
    (h : inRanges ranges n = true) : ∃ r ∈ ranges, r.1 ≤ n ∧ n ≤ r.2 := by
  simpa [inRanges] using h

theorem inRanges_of_mem {ranges : List (Nat × Nat)} {r : Nat × Nat} (hr : r ∈ ranges) {n : Nat}
    (hle : r.1 ≤ n) (hge : n ≤ r.2) : inRanges ranges n = true :=
  List.any_eq_true.2 ⟨r, hr, by simp [hle, hge]⟩

theorem Apart.inRanges_eq_false {ranges others : List (Nat × Nat)} (hapart : Apart ranges others)
    {n : Nat} (h : inRanges ranges n = true) : inRanges others n = false := by
  obtain ⟨r, hr, hrle, hrge⟩ := mem_ranges_of_inRanges h
  rw [Bool.eq_false_iff]
  intro hother
  obtain ⟨o, ho, hole, hoge⟩ := mem_ranges_of_inRanges hother
  have hsides := hapart r hr o ho
  omega

/-! ### Single characters -/

/-- Blanks and the backslash, which part a text and its escapes. -/
def isMark (c : Char) : Bool := isBlank c || c == '\\'

def markRanges : List (Nat × Nat) := [
  (0x09, 0x0d), (0x20, 0x20), (0x5c, 0x5c), (0x85, 0x85), (0xa0, 0xa0), (0x1680, 0x1680),
  (0x2000, 0x200a), (0x2028, 0x2028), (0x2029, 0x2029), (0x202f, 0x202f), (0x205f, 0x205f),
  (0x3000, 0x3000)]

theorem isMark_eq (c : Char) : isMark c = inRanges markRanges c.toNat := by
  have hbackslash : (c == '\\') = (c.toNat == 0x5c) := by
    rw [Bool.eq_iff_iff, beq_iff_eq, beq_iff_eq, ← Char.toNat_inj]
    rfl
  rw [isMark, hbackslash, Bool.eq_iff_iff]
  simp only [isBlank, inRanges, markRanges, List.any_cons, List.any_nil, Bool.or_eq_true,
    Bool.and_eq_true, decide_eq_true_eq, beq_iff_eq, Bool.or_false]
  omega

def caseSources : List (Nat × Nat) := caseRuns.map fun run => (run.first, run.last)

def caseTargets : List (Nat × Nat) :=
  caseRuns.map fun run => ((run.first + run.shift).toNat, (run.last + run.shift).toNat)

/-- What holds of ASCII characters can be checked for each of them. -/
theorem forall_ascii {P : Char → Prop} (h : ∀ n : Fin 0x80, P (Char.ofNat n)) {c : Char}
    (hascii : c.toNat < 0x80) : P c := by
  have hc := h ⟨c.toNat, hascii⟩
  rwa [Char.ofNat_toNat] at hc

theorem lowerChar_of_ascii {c : Char} (h : c.toNat < 0x80) : lowerChar c = [c.toLower] := if_pos h

/-- Moving a character that has another in lower case leads to a character. -/
theorem isValidChar_shift {run : CaseRun} (hrun : run ∈ caseRuns) {n : Nat}
    (hfirst : run.first ≤ n) (hlast : n ≤ run.last) : (n + run.shift).toNat.isValidChar := by
  have hall : ∀ run ∈ caseRuns, 0 ≤ run.first + run.shift ∧ (run.last + run.shift < 0xd800 ∨
      0xdfff < run.first + run.shift ∧ run.last + run.shift < 0x110000) := by
    decide +kernel
  obtain ⟨hpos, hbelow | habove⟩ := hall run hrun
  · exact .inl (by omega)
  · exact .inr (by omega)

theorem lowerChar_of_not_ascii {c : Char} (h : ¬ c.toNat < 0x80) :
    lowerChar c = [c] ∨ (c.toNat = 0x130 ∧ lowerChar c = ['i', Char.ofNat 0x307]) ∨
      ∃ d, lowerChar c = [d] ∧ inRanges caseSources c.toNat = true ∧
        inRanges caseTargets d.toNat = true := by
  unfold lowerChar
  rw [if_neg h]
  split
  · rename_i hdotted
    exact .inr (.inl ⟨hdotted, rfl⟩)
  · split
    · rename_i run hfound
      have hmem := List.mem_of_find?_eq_some hfound
      have hspec := List.find?_some hfound
      simp only [Bool.and_eq_true, decide_eq_true_eq] at hspec
      obtain ⟨⟨hfirst, hlast⟩, -⟩ := hspec
      have htoNat : (Char.ofNat (c.toNat + run.shift).toNat).toNat =
          (c.toNat + run.shift).toNat := by
        rw [Char.ofNat, dif_pos (isValidChar_shift hmem hfirst hlast)]
        rfl
      refine .inr (.inr ⟨_, rfl, inRanges_of_mem (List.mem_map_of_mem hmem) hfirst hlast, ?_⟩)
      rw [htoNat]
      exact inRanges_of_mem (List.mem_map_of_mem hmem) (by simp only; omega) (by simp only; omega)
    · exact .inl rfl

theorem lowerChar_of_isMark {c : Char} (h : isMark c = true) : lowerChar c = [c] := by
  by_cases hascii : c.toNat < 0x80
  · have hlower :=
      @forall_ascii (fun c => isMark c = true → c.toLower = c) (by decide +kernel) c hascii
    rw [lowerChar_of_ascii hascii, hlower h]
  · have hapart : Apart markRanges ((0x130, 0x130) :: caseSources) := by decide +kernel
    rw [isMark_eq] at h
    have hout := hapart.inRanges_eq_false h
    rcases lowerChar_of_not_ascii hascii with hsame | ⟨hdotted, -⟩ | ⟨d, -, hsource, -⟩
    · exact hsame
    · rw [hdotted] at h
      cases h
    · have hin : inRanges ((0x130, 0x130) :: caseSources) c.toNat = true := by
        rw [inRanges, List.any_cons, ← inRanges, hsource, Bool.or_true]
      cases hin.symm.trans hout

/-- What is none of some characters is none of them in lower case either, if no lower case character
is. -/
theorem inRanges_eq_false_of_mem_lowerChar {ranges : List (Nat × Nat)}
    (hlower : ∀ n : Fin 0x80, inRanges ranges n = false →
      inRanges ranges (Char.ofNat n).toLower.toNat = false)
    (hapart : Apart ((0x69, 0x69) :: (0x307, 0x307) :: caseTargets) ranges) {c d : Char}
    (h : inRanges ranges c.toNat = false) (hd : d ∈ lowerChar c) :
    inRanges ranges d.toNat = false := by
  by_cases hascii : c.toNat < 0x80
  · have hc := hlower ⟨c.toNat, hascii⟩ h
    rw [Char.ofNat_toNat] at hc
    rw [lowerChar_of_ascii hascii, List.mem_singleton] at hd
    rwa [hd]
  · rcases lowerChar_of_not_ascii hascii with hsame | ⟨-, hdotted⟩ | ⟨e, htarget, -, hin⟩
    · rw [hsame, List.mem_singleton] at hd
      rwa [hd]
    · rw [hdotted, List.mem_cons, List.mem_singleton] at hd
      apply hapart.inRanges_eq_false
      rcases hd with rfl | rfl <;> rfl
    · rw [htarget, List.mem_singleton] at hd
      rw [hd]
      apply hapart.inRanges_eq_false
      rw [inRanges, List.any_cons, List.any_cons, ← inRanges, hin, Bool.or_true, Bool.or_true]

theorem isMark_eq_false_of_mem_lowerChar {c d : Char} (h : isMark c = false)
    (hd : d ∈ lowerChar c) : isMark d = false := by
  rw [isMark_eq] at h ⊢
  exact inRanges_eq_false_of_mem_lowerChar (by decide +kernel) (by decide +kernel) h hd

theorem lowerChar_ne_nil (c : Char) : lowerChar c ≠ [] := by
  by_cases hascii : c.toNat < 0x80
  · rw [lowerChar_of_ascii hascii]
    exact List.cons_ne_nil _ _
  · rcases lowerChar_of_not_ascii hascii with h | ⟨-, h⟩ | ⟨d, h, -⟩ <;> rw [h] <;>
      exact List.cons_ne_nil _ _

theorem isBlank_eq_false_of_isMark {c : Char} (h : isMark c = false) : isBlank c = false :=
  (Bool.or_eq_false_iff.1 h).1

/-! ### The letters around a sigma -/

/-- Characters that the search for a neighbouring letter neither passes over nor finds: blanks,
control characters, and what is written behind a backslash. -/
def neutralRanges : List (Nat × Nat) := [
  (0x00, 0x23), (0x2b, 0x2c), (0x3b, 0x3c), (0x3e, 0x3e), (0x5c, 0x5c), (0x7f, 0xa0),
  (0x1680, 0x1680), (0x2000, 0x200a), (0x2028, 0x2029), (0x202f, 0x202f), (0x205f, 0x205f),
  (0x3000, 0x3000)]

def isNeutral (c : Char) : Bool := inRanges neutralRanges c.toNat

theorem isNeutral_of_isBlank {c : Char} (h : isBlank c = true) : isNeutral c = true := by
  simp only [isBlank, Bool.or_eq_true, Bool.and_eq_true, decide_eq_true_eq, beq_iff_eq] at h
  simp only [isNeutral, inRanges, neutralRanges, List.any_cons, List.any_nil, Bool.or_eq_true,
    Bool.and_eq_true, decide_eq_true_eq, Bool.or_false]
  omega

theorem isNeutral.not_ignorable {c : Char} (h : isNeutral c = true) :
    inRanges caseIgnorableRanges c.toNat = false := by
  have hapart : Apart neutralRanges caseIgnorableRanges := by decide +kernel
  exact hapart.inRanges_eq_false h

theorem isNeutral.not_cased {c : Char} (h : isNeutral c = true) :
    inRanges casedRanges c.toNat = false := by
  have hapart : Apart neutralRanges casedRanges := by decide +kernel
  exact hapart.inRanges_eq_false h

theorem nextIsCased_cons (c : Char) (rest : List Char) :
    nextIsCased (c :: rest) =
      if inRanges caseIgnorableRanges c.toNat then nextIsCased rest
      else inRanges casedRanges c.toNat := by
  unfold nextIsCased
  rw [List.dropWhile_cons]
  cases inRanges caseIgnorableRanges c.toNat <;> rfl

theorem nextIsCased_cons_of_neutral {c : Char} (h : isNeutral c = true) (rest : List Char) :
    nextIsCased (c :: rest) = false := by
  rw [nextIsCased_cons, isNeutral.not_ignorable h, isNeutral.not_cased h]
  rfl

theorem nextIsCased_blanks {blanks : List Char} (hblanks : ∀ c ∈ blanks, isBlank c = true) :
    nextIsCased blanks = false := by
  cases blanks with
  | nil => rfl
  | cons c blanks =>
      obtain ⟨hc, -⟩ := List.forall_mem_cons.1 hblanks
      exact nextIsCased_cons_of_neutral (isNeutral_of_isBlank hc) blanks

theorem nextIsCased_append_blanks {blanks : List Char} (hblanks : ∀ c ∈ blanks, isBlank c = true)
    (text : List Char) : nextIsCased (text ++ blanks) = nextIsCased text := by
  induction text with
  | nil => exact nextIsCased_blanks hblanks
  | cons c text ih => rw [List.cons_append, nextIsCased_cons, nextIsCased_cons, ih]

/-! ### Lower case by a reading of the letters before -/

/-- Lower case of a text that follows `before`, where `cased` tells whether a letter comes before a
sigma. -/
def lowercaseWith (cased : List Char → Bool) (before : List Char) : List Char → List Char
  | [] => []
  | c :: rest =>
    (if c = 'Σ' then [if cased before && !nextIsCased rest then 'ς' else 'σ'] else lowerChar c) ++
      lowercaseWith cased (c :: before) rest

theorem lowercaseAfter_eq (before text : List Char) :
    lowercaseAfter before text = lowercaseWith nextIsCased before text := by
  induction text generalizing before with
  | nil => rfl
  | cons c text ih =>
      have hsigma : c.toNat = 0x3a3 ↔ c = 'Σ' := by
        rw [← Char.toNat_inj]
        rfl
      simp only [lowercaseAfter, lowercaseWith, hsigma, lowerSigma, ih]

theorem lowercase_eq (text : List Char) : lowercase text = lowercaseWith nextIsCased [] text :=
  lowercaseAfter_eq [] text

section Reading

variable {cased : List Char → Bool}

theorem lowercaseWith_cons_of_lowerChar {c : Char} (h : lowerChar c = [c])
    (before rest : List Char) :
    lowercaseWith cased before (c :: rest) = c :: lowercaseWith cased (c :: before) rest := by
  have hsigma : c ≠ 'Σ' := by
    rintro rfl
    revert h
    decide +kernel
  rw [lowercaseWith, if_neg hsigma, h]
  rfl

/-- Two readings that agree wherever it matters give the same text. -/
theorem lowercaseWith_congr {reading : List Char → Bool} {before start text : List Char}
    (h : ∀ front back, text = front ++ 'Σ' :: back → nextIsCased back = false →
      cased (front.reverse ++ before) = reading (front.reverse ++ start)) :
    lowercaseWith cased before text = lowercaseWith reading start text := by
  induction text generalizing before start with
  | nil => rfl
  | cons c text ih =>
      have hrest : lowercaseWith cased (c :: before) text =
          lowercaseWith reading (c :: start) text := by
        apply ih
        rintro front back rfl hback
        simpa using h (c :: front) back rfl hback
      rw [lowercaseWith, lowercaseWith, hrest]
      split
      · rename_i hsigma
        subst hsigma
        cases hnext : nextIsCased text with
        | true => simp
        | false =>
            have hbefore := h [] text rfl hnext
            rw [List.reverse_nil, List.nil_append, List.nil_append] at hbefore
            rw [hbefore]
      · rfl

/-- What comes before a text matters only for whether it ends in a letter. -/
theorem lowercaseAfter_of_nextIsCased_eq {before start : List Char}
    (h : nextIsCased before = nextIsCased start) (text : List Char) :
    lowercaseAfter before text = lowercaseAfter start text := by
  rw [lowercaseAfter_eq, lowercaseAfter_eq]
  apply lowercaseWith_congr
  intro front back _ _
  induction front.reverse with
  | nil => exact h
  | cons c front ih =>
      rw [List.cons_append, List.cons_append, nextIsCased_cons, nextIsCased_cons, ih]

theorem lowercaseAfter_cons_of_lowerChar {c : Char} (h : lowerChar c = [c])
    (before rest : List Char) :
    lowercaseAfter before (c :: rest) = c :: lowercaseAfter (c :: before) rest := by
  rw [lowercaseAfter_eq, lowercaseAfter_eq, lowercaseWith_cons_of_lowerChar h]

/-- The lower case of a first character stands in front, and is no blank if that was none. -/
theorem exists_lowercaseWith_cons (before : List Char) (c : Char) (rest : List Char) :
    ∃ lower, lowercaseWith cased before (c :: rest) =
        lower ++ lowercaseWith cased (c :: before) rest ∧
      lower ≠ [] ∧ (isBlank c = false → ∀ d ∈ lower, isBlank d = false) := by
  refine ⟨_, rfl, ?_⟩
  split
  · refine ⟨List.cons_ne_nil _ _, fun _ d hd => ?_⟩
    rw [List.mem_singleton] at hd
    rw [hd]
    split <;> rfl
  · refine ⟨lowerChar_ne_nil c, fun hblank d hd => ?_⟩
    cases hmark : isMark c with
    | true =>
        rw [lowerChar_of_isMark hmark, List.mem_singleton] at hd
        rw [hd, hblank]
    | false => exact isBlank_eq_false_of_isMark (isMark_eq_false_of_mem_lowerChar hmark hd)

theorem exists_lowercaseWith_append (before front back : List Char) :
    ∃ lower, lowercaseWith cased before (front ++ back) =
      lower ++ lowercaseWith cased (front.reverse ++ before) back := by
  induction front generalizing before with
  | nil => exact ⟨[], rfl⟩
  | cons c front ih =>
      obtain ⟨first, hfirst, -⟩ := @exists_lowercaseWith_cons cased before c (front ++ back)
      obtain ⟨lower, hlower⟩ := ih (c :: before)
      refine ⟨first ++ lower, ?_⟩
      rw [List.cons_append, hfirst, hlower, List.append_assoc, List.reverse_cons,
        List.append_assoc front.reverse, List.singleton_append]

/-- Lower-casing makes no blanks. -/
theorem mem_of_mem_lowercaseWith {before text : List Char} {d : Char}
    (hd : d ∈ lowercaseWith cased before text) (hblank : isBlank d = true) : d ∈ text := by
  induction text generalizing before with
  | nil => cases hd
  | cons c text ih =>
      rw [lowercaseWith, List.mem_append] at hd
      rcases hd with hlower | hrest
      · split at hlower
        · rw [List.mem_singleton.1 hlower] at hblank
          split at hblank <;> cases hblank
        · cases hmark : isMark c with
          | true =>
              rw [lowerChar_of_isMark hmark, List.mem_singleton] at hlower
              exact hlower ▸ List.mem_cons_self
          | false =>
              have hunmarked := isMark_eq_false_of_mem_lowerChar hmark hlower
              cases hblank.symm.trans (isBlank_eq_false_of_isMark hunmarked)
      · exact List.mem_cons_of_mem c (ih hrest)

theorem isTrimmed_lowercaseWith {text : List Char} (htrimmed : IsTrimmed text)
    (before : List Char) : IsTrimmed (lowercaseWith cased before text) := by
  constructor
  · intro d hd
    cases text with
    | nil => cases hd
    | cons c rest =>
        obtain ⟨lower, hlower, hne, hsolid⟩ := @exists_lowercaseWith_cons cased before c rest
        rw [hlower, List.head?_append_of_ne_nil _ hne] at hd
        exact hsolid (htrimmed.head c rfl) d (List.mem_of_head? hd)
  · intro d hd
    rcases text.eq_nil_or_concat with rfl | ⟨front, c, rfl⟩
    · cases hd
    · rw [List.concat_eq_append] at htrimmed hd
      obtain ⟨first, hfirst⟩ := @exists_lowercaseWith_append cased before front [c]
      obtain ⟨lower, hlower, hne, hsolid⟩ :=
        @exists_lowercaseWith_cons cased (front.reverse ++ before) c []
      rw [hfirst, hlower, lowercaseWith, List.append_nil,
        List.getLast?_append_of_ne_nil _ hne] at hd
      exact hsolid (htrimmed.last c List.getLast?_concat) d (List.mem_of_getLast? hd)

end Reading

/-! ### Blanks at the ends -/

theorem lowercaseAfter_blanks_append {blanks : List Char} (hblanks : ∀ c ∈ blanks, isBlank c = true)
    (before text : List Char) :
    lowercaseAfter before (blanks ++ text) =
      blanks ++ lowercaseAfter (blanks.reverse ++ before) text := by
  induction blanks generalizing before with
  | nil => rfl
  | cons c blanks ih =>
      obtain ⟨hc, hblanks⟩ := List.forall_mem_cons.1 hblanks
      have hsame : lowerChar c = [c] := lowerChar_of_isMark (Bool.or_eq_true_iff.2 (.inl hc))
      rw [List.cons_append, lowercaseAfter_cons_of_lowerChar hsame, ih hblanks, List.reverse_cons,
        List.append_assoc, List.singleton_append, List.cons_append]

theorem lowercaseAfter_append_blanks {blanks : List Char} (hblanks : ∀ c ∈ blanks, isBlank c = true)
    (before text : List Char) :
    lowercaseAfter before (text ++ blanks) = lowercaseAfter before text ++ blanks := by
  induction text generalizing before with
  | nil =>
      have h := lowercaseAfter_blanks_append hblanks before []
      rwa [List.append_nil, lowercaseAfter, List.append_nil] at h
  | cons c text ih =>
      rw [List.cons_append, lowercaseAfter, lowercaseAfter, ih, List.append_assoc]
      simp only [lowerSigma, nextIsCased_append_blanks hblanks]

/-- Trimming makes no difference to the words of the lower case. -/
theorem spaced_lowercase_trim (text : List Char) :
    spaced (lowercase (trim text)) = spaced (lowercase text) := by
  obtain ⟨front, back, htext, hfront, hback⟩ := exists_blanks_trim text
  have hbefore : nextIsCased (front.reverse ++ []) = nextIsCased [] := by
    rw [List.append_nil]
    exact nextIsCased_blanks fun c hc => hfront c (List.mem_reverse.1 hc)
  have hlower : lowercase text = front ++ lowercase (trim text) ++ back := by
    conv => lhs; rw [htext]
    unfold lowercase
    rw [lowercaseAfter_append_blanks hback, lowercaseAfter_blanks_append hfront,
      lowercaseAfter_of_nextIsCased_eq hbefore]
  rw [hlower, spaced_append_blanks hback, spaced_blanks_append hfront]

/-- The form of a text in which letter case, blanks at the ends and the length of runs of blanks
make no difference. -/
def normal (text : List Char) : List Char := collapse (lowercase (trim text))

theorem normal_eq (text : List Char) : normal text = (spaced (lowercase text)).dropLast := by
  have htrimmed : IsTrimmed (lowercase (trim text)) := by
    rw [lowercase_eq]
    exact isTrimmed_lowercaseWith (isTrimmed_trim text) []
  rw [normal, htrimmed.collapse_eq, spaced_lowercase_trim]

theorem spaced_normal (text : List Char) : spaced (normal text) = spaced (lowercase text) := by
  rw [normal, spaced_collapse, spaced_lowercase_trim]

/-! ### The form of a sigma -/

/-- The two small forms of a sigma made one. -/
def unfinal (c : Char) : Char := if c = 'ς' then 'σ' else c

theorem isBlank_unfinal (c : Char) : isBlank (unfinal c) = isBlank c := by
  unfold unfinal
  split
  · rename_i hfinal
    rw [hfinal]
    rfl
  · rfl

/-- Readings differ in the form of sigmas and in nothing else. -/
theorem map_unfinal_lowercaseWith (cased reading : List Char → Bool)
    (before start text : List Char) :
    (lowercaseWith cased before text).map unfinal =
      (lowercaseWith reading start text).map unfinal := by
  induction text generalizing before start with
  | nil => rfl
  | cons c text ih =>
      rw [lowercaseWith, lowercaseWith, List.map_append, List.map_append, ih]
      split
      · split <;> split <;> rfl
      · rfl

theorem map_unfinal_normal (cased : List Char → Bool) (text : List Char) :
    (normal text).map unfinal = ((spaced (lowercaseWith cased [] text)).dropLast).map unfinal := by
  rw [normal_eq, lowercase_eq, List.map_dropLast, List.map_dropLast,
    ← spaced_map isBlank_unfinal rfl, ← spaced_map isBlank_unfinal rfl,
    map_unfinal_lowercaseWith cased nextIsCased]

end TrustChain.Text
