import TrustChain.Path.Validation
import Mathlib.Data.List.Infix

/-!
# Limits on the length of a path

On its way down from the trust anchor validation carries one number: how many certificates that are
not self-issued may still follow. It stands for several limits at once, namely that of the settings
and those of the certificates passed, and it admits a number of certificates exactly if each of them
does (`le_budgetBelow_iff`). What is refused can therefore be said without it: an intermediate that
may not issue certificates, or one that is too many under one of the limits.
-/

namespace TrustChain

namespace Certificate

/-- The length that a certificate allows of the path below it. -/
def pathLength? (c : Certificate) : Option UInt8 :=
  c.basicConstraints?.bind BasicConstraints.pathLength

/-- A certificate asserts that its subject may issue others. -/
def MayIssue (c : Certificate) : Prop :=
  ∃ constraints, c.basicConstraints? = some constraints ∧ constraints.ca = true

end Certificate

namespace CertificationPath

/-- The number of certificates that are not self-issued. Only these count towards a limit. -/
def nonSelfIssued (certificates : List Certificate) : Nat :=
  certificates.countP fun c => !c.isSelfIssued

theorem nonSelfIssued_cons (c : Certificate) (rest : List Certificate) :
    nonSelfIssued (c :: rest) = nonSelfIssued [c] + nonSelfIssued rest := by
  have happend : c :: rest = [c] ++ rest := rfl
  rw [happend]
  exact List.countP_append

/-! ### The budget -/

/-- What a certificate leaves of a budget to the certificates below it. -/
def budgetBelow (budget : UInt8) (c : Certificate) : UInt8 :=
  let left := if c.isSelfIssued then budget else budget - 1
  (c.pathLength?.map (min left)).getD left

theorem le_min_iff {n : Nat} {a b : UInt8} :
    n ≤ (min a b).toNat ↔ n ≤ a.toNat ∧ n ≤ b.toNat := by
  have hmin : min a b = if a ≤ b then a else b := rfl
  rw [hmin]
  by_cases hle : a ≤ b
  · have := UInt8.le_iff_toNat_le.1 hle
    rw [if_pos hle]
    omega
  · have := UInt8.lt_iff_toNat_lt.1 (UInt8.not_le.1 hle)
    rw [if_neg hle]
    omega

theorem toNat_sub_one_add_one {budget : UInt8} (h : budget ≠ 0) :
    (budget - 1).toNat + 1 = budget.toNat := by
  have hpos : 1 ≤ budget.toNat := Nat.one_le_iff_ne_zero.2 fun hzero => h (UInt8.toNat_inj.1 hzero)
  have hle : (1 : UInt8) ≤ budget := UInt8.le_iff_toNat_le.2 hpos
  have hone : (1 : UInt8).toNat = 1 := rfl
  rw [UInt8.toNat_sub_of_le _ _ hle, hone]
  omega

/-- A certificate for which there is room takes off a budget what it counts. -/
theorem toNat_left_add {budget : UInt8} {c : Certificate}
    (hroom : c.isSelfIssued = true ∨ budget ≠ 0) :
    (if c.isSelfIssued then budget else budget - 1).toNat + nonSelfIssued [c] = budget.toNat := by
  by_cases hself : c.isSelfIssued = true
  · have hcount : nonSelfIssued [c] = 0 := by simp [nonSelfIssued, hself]
    rw [if_pos hself, hcount, Nat.add_zero]
  · have hcount : nonSelfIssued [c] = 1 := by simp [nonSelfIssued, hself]
    rw [if_neg hself, hcount, toNat_sub_one_add_one (hroom.resolve_left hself)]

/-- A budget stands for itself and the limit of the certificate that is passed. -/
theorem le_budgetBelow_iff {budget : UInt8} {c : Certificate}
    (hroom : c.isSelfIssued = true ∨ budget ≠ 0) (n : Nat) :
    n ≤ (budgetBelow budget c).toNat ↔
      nonSelfIssued [c] + n ≤ budget.toNat ∧
        ∀ limit, c.pathLength? = some limit → n ≤ limit.toNat := by
  have hleft : n ≤ (if c.isSelfIssued then budget else budget - 1).toNat ↔
      nonSelfIssued [c] + n ≤ budget.toNat := by
    have htaken := toNat_left_add hroom
    omega
  unfold budgetBelow
  cases c.pathLength? with
  | none => simpa using hleft
  | some limit => simpa [le_min_iff] using and_congr_left' hleft

/-- The budget that validation starts with stands for the limits of the settings and, where it
counts, of the trust anchor. -/
theorem le_initialBudget_iff {path : CertificationPath} {settings : Settings} (n : Nat) :
    n ≤ (path.initialBudget settings).toNat ↔
      n ≤ settings.initialPathLength.toNat ∧
        (settings.enforceTrustAnchorConstraints = true →
          ∀ limit, path.trustAnchor.pathLength? = some limit → n ≤ limit.toNat) := by
  unfold initialBudget
  by_cases henforced : settings.enforceTrustAnchorConstraints = true
  · have hlimit : path.trustAnchor.basicConstraints?.bind BasicConstraints.pathLength =
        path.trustAnchor.pathLength? := rfl
    rw [if_pos henforced, hlimit]
    cases path.trustAnchor.pathLength? with
    | none => simp
    | some limit => simp [le_min_iff, henforced]
  · rw [if_neg henforced]
    simp [henforced]

/-! ### One certificate -/

/-- What may happen at one certificate: it is one too many, it is not entitled to issue, or it is
passed with what it leaves of the budget. -/
theorem firstUnentitled_cons_cases (budget : UInt8) (c : Certificate) (index : Nat)
    (rest : List (Certificate × Nat)) :
    (c.isSelfIssued = false ∧ budget = 0 ∧
      firstUnentitled budget ((c, index) :: rest) =
        some (.ofStatus c "path length constraint violation" .invalidPathLength index)) ∨
    (c.basicConstraints? = none ∧
      firstUnentitled budget ((c, index) :: rest) =
        some (.ofStatus c "missing basic constraints" .missingBasicConstraints index)) ∨
    ((∃ constraints, c.basicConstraints? = some constraints ∧ constraints.ca = false) ∧
      firstUnentitled budget ((c, index) :: rest) =
        some (.ofStatus c "invalid basic constraints" .invalidBasicConstraints index)) ∨
    ((c.isSelfIssued = true ∨ budget ≠ 0) ∧ c.MayIssue ∧
      firstUnentitled budget ((c, index) :: rest) =
        firstUnentitled (budgetBelow budget c) rest) := by
  by_cases hfull : c.isSelfIssued = false ∧ budget = 0
  · refine .inl ⟨hfull.1, hfull.2, ?_⟩
    rw [firstUnentitled, if_pos (by simp [hfull])]
  · have hroom : c.isSelfIssued = true ∨ budget ≠ 0 := by
      by_cases hself : c.isSelfIssued = true
      · exact .inl hself
      · exact .inr fun hzero => hfull ⟨Bool.eq_false_iff.2 hself, hzero⟩
    have hskip : ¬ (!c.isSelfIssued && budget == 0) = true := by simpa using hfull
    right
    cases hconstraints : c.basicConstraints? with
    | none =>
        refine .inl ⟨rfl, ?_⟩
        rw [firstUnentitled, if_neg hskip]
        simp only [hconstraints]
    | some constraints =>
        right
        cases hca : constraints.ca with
        | false =>
            refine .inl ⟨⟨constraints, rfl, hca⟩, ?_⟩
            rw [firstUnentitled, if_neg hskip]
            simp only [hconstraints, hca]
            rfl
        | true =>
            refine .inr ⟨hroom, ⟨constraints, hconstraints, hca⟩, ?_⟩
            rw [firstUnentitled, if_neg hskip]
            simp only [hconstraints, hca, budgetBelow, Certificate.pathLength?, Option.bind_some]
            rfl

/-! ### All certificates, from the top down -/

theorem within_of_firstUnentitled_eq_none {budget : UInt8} {certificates : List (Certificate × Nat)}
    (h : firstUnentitled budget certificates = none) :
    (∀ x ∈ certificates, x.1.MayIssue) ∧
    nonSelfIssued (certificates.map Prod.fst) ≤ budget.toNat ∧
    ∀ above c below limit, certificates.map Prod.fst = above ++ c :: below →
      c.pathLength? = some limit → nonSelfIssued below ≤ limit.toNat := by
  induction certificates generalizing budget with
  | nil => simp [nonSelfIssued]
  | cons x rest ih =>
      obtain ⟨c, index⟩ := x
      rcases firstUnentitled_cons_cases budget c index rest with
        ⟨-, -, heq⟩ | ⟨-, heq⟩ | ⟨-, heq⟩ | ⟨hroom, hissue, heq⟩
      · rw [heq] at h
        cases h
      · rw [heq] at h
        cases h
      · rw [heq] at h
        cases h
      · rw [heq] at h
        obtain ⟨hentitled, hcount, hbelow⟩ := ih h
        obtain ⟨htotal, hlimit⟩ := (le_budgetBelow_iff hroom _).1 hcount
        refine ⟨List.forall_mem_cons.2 ⟨hissue, hentitled⟩, ?_, ?_⟩
        · rw [List.map_cons, nonSelfIssued_cons]
          exact htotal
        · intro above d below limit hsplit hd
          cases above with
          | nil =>
              obtain ⟨rfl, rfl⟩ := List.cons.inj hsplit
              exact hlimit limit hd
          | cons first above => exact hbelow above d below limit (List.cons.inj hsplit).2 hd

theorem firstUnentitled_eq_none_of_within {budget : UInt8}
    {certificates : List (Certificate × Nat)} (hentitled : ∀ x ∈ certificates, x.1.MayIssue)
    (hcount : nonSelfIssued (certificates.map Prod.fst) ≤ budget.toNat)
    (hbelow : ∀ above c below limit, certificates.map Prod.fst = above ++ c :: below →
      c.pathLength? = some limit → nonSelfIssued below ≤ limit.toNat) :
    firstUnentitled budget certificates = none := by
  induction certificates generalizing budget with
  | nil => rfl
  | cons x rest ih =>
      obtain ⟨c, index⟩ := x
      obtain ⟨⟨constraints, hconstraints, hca⟩, hrest⟩ := List.forall_mem_cons.1 hentitled
      rw [List.map_cons, nonSelfIssued_cons] at hcount
      rcases firstUnentitled_cons_cases budget c index rest with
        ⟨hself, hzero, -⟩ | ⟨hmissing, -⟩ | ⟨⟨others, hothers, hnot⟩, -⟩ | ⟨hroom, -, heq⟩
      · have hone : nonSelfIssued [c] = 1 := by simp [nonSelfIssued, hself]
        rw [hone, hzero, UInt8.toNat_zero] at hcount
        omega
      · cases hmissing.symm.trans hconstraints
      · obtain rfl := Option.some.inj (hothers.symm.trans hconstraints)
        cases hnot.symm.trans hca
      · rw [heq]
        have hlimit : ∀ limit, c.pathLength? = some limit →
            nonSelfIssued (rest.map Prod.fst) ≤ limit.toNat :=
          fun limit hc => hbelow [] c _ limit rfl hc
        refine ih hrest ((le_budgetBelow_iff hroom _).2 ⟨hcount, hlimit⟩) ?_
        intro above d below limit hsplit hd
        exact hbelow (c :: above) d below limit (by rw [List.map_cons, hsplit]; rfl) hd

/-- How a certificate breaks the constraints, given the certificates above it from the top down and
the budget at the top. -/
inductive Breaks (budget : Nat) (above : List Certificate) (c : Certificate) : Status → Prop where
  | missing (h : c.basicConstraints? = none) : Breaks budget above c .missingBasicConstraints
  | unentitled {constraints : BasicConstraints} (h : c.basicConstraints? = some constraints)
      (hca : constraints.ca = false) : Breaks budget above c .invalidBasicConstraints
  | overBudget (hself : c.isSelfIssued = false) (hspent : budget ≤ nonSelfIssued above) :
      Breaks budget above c .invalidPathLength
  | overLimit {top between : List Certificate} {d : Certificate} {limit : UInt8}
      (hself : c.isSelfIssued = false) (hsplit : above = top ++ d :: between)
      (hlimit : d.pathLength? = some limit) (hspent : limit.toNat ≤ nonSelfIssued between) :
      Breaks budget above c .invalidPathLength

/-- What is broken below a certificate that was passed is broken below the certificates above it. -/
theorem Breaks.under {budget : UInt8} {first c : Certificate} {above : List Certificate}
    {status : Status} (hroom : first.isSelfIssued = true ∨ budget ≠ 0)
    (h : Breaks (budgetBelow budget first).toNat above c status) :
    Breaks budget.toNat (first :: above) c status := by
  cases h with
  | missing h => exact .missing h
  | unentitled h hca => exact .unentitled h hca
  | overBudget hself hspent =>
      have hover : ¬ nonSelfIssued above + 1 ≤ (budgetBelow budget first).toNat := by omega
      rw [le_budgetBelow_iff hroom, not_and_or] at hover
      rcases hover with hover | hover
      · refine .overBudget hself ?_
        rw [nonSelfIssued_cons]
        omega
      · push Not at hover
        obtain ⟨limit, hlimit, hlt⟩ := hover
        exact .overLimit hself (List.nil_append _).symm hlimit (by omega)
  | @overLimit top between d _ hself hsplit hlimit hspent =>
      have hbelow : first :: above = (first :: top) ++ d :: between := by rw [hsplit]; rfl
      exact .overLimit hself hbelow hlimit hspent

theorem breaks_of_firstUnentitled {budget : UInt8} {certificates : List (Certificate × Nat)}
    {v : Violation} (h : firstUnentitled budget certificates = some v) :
    ∃ above below, certificates = above ++ (v.certificate, v.index) :: below ∧
      v.cause = .pathValidation v.status ∧
      Breaks budget.toNat (above.map Prod.fst) v.certificate v.status := by
  induction certificates generalizing budget with
  | nil => cases h
  | cons x rest ih =>
      obtain ⟨c, index⟩ := x
      rcases firstUnentitled_cons_cases budget c index rest with
        ⟨hself, hzero, heq⟩ | ⟨hmissing, heq⟩ | ⟨⟨constraints, hsome, hca⟩, heq⟩ |
          ⟨hroom, -, heq⟩
      · obtain rfl := Option.some.inj (heq.symm.trans h)
        exact ⟨[], rest, rfl, rfl, .overBudget hself (by simp [hzero])⟩
      · obtain rfl := Option.some.inj (heq.symm.trans h)
        exact ⟨[], rest, rfl, rfl, .missing hmissing⟩
      · obtain rfl := Option.some.inj (heq.symm.trans h)
        exact ⟨[], rest, rfl, rfl, .unentitled hsome hca⟩
      · obtain ⟨above, below, rfl, hcause, hbreaks⟩ := ih (heq.symm.trans h)
        exact ⟨(c, index) :: above, below, rfl, hcause, hbreaks.under hroom⟩

/-! ### The limits on a path -/

/-- The limits that hold on a path. At most so many of the given intermediates, which are those
below whoever sets the limit, may be not self-issued. -/
inductive Limits (settings : Settings) (path : CertificationPath) :
    List Certificate → UInt8 → Prop where
  | initial : Limits settings path path.intermediates settings.initialPathLength
  | trustAnchor {limit : UInt8} (henforced : settings.enforceTrustAnchorConstraints = true)
      (hlimit : path.trustAnchor.pathLength? = some limit) :
      Limits settings path path.intermediates limit
  | intermediate {below above : List Certificate} {c : Certificate} {limit : UInt8}
      (hsplit : path.intermediates = below ++ c :: above)
      (hlimit : c.pathLength? = some limit) : Limits settings path below limit

/-- How an intermediate violates the constraints on its path, by the status that reports it. -/
inductive ViolatesConstraints (settings : Settings) (path : CertificationPath) (c : Certificate) :
    Status → Prop where
  | missing (hmem : c ∈ path.intermediates) (h : c.basicConstraints? = none) :
      ViolatesConstraints settings path c .missingBasicConstraints
  | unentitled {constraints : BasicConstraints} (hmem : c ∈ path.intermediates)
      (h : c.basicConstraints? = some constraints) (hca : constraints.ca = false) :
      ViolatesConstraints settings path c .invalidBasicConstraints
  | tooMany {below between : List Certificate} {limit : UInt8}
      (hlimit : Limits settings path (below ++ c :: between) limit)
      (hself : c.isSelfIssued = false) (hspent : limit.toNat ≤ nonSelfIssued between) :
      ViolatesConstraints settings path c .invalidPathLength

variable {path : CertificationPath} {settings : Settings}

theorem nonSelfIssued_reverse (certificates : List Certificate) :
    nonSelfIssued certificates.reverse = nonSelfIssued certificates :=
  List.countP_reverse

theorem map_fst_reverse_zipIdx (certificates : List Certificate) (start : Nat) :
    (certificates.zipIdx start).reverse.map Prod.fst = certificates.reverse := by
  rw [List.map_reverse, List.zipIdx_map_fst]

/-- Without a violation all intermediates may issue certificates, in the number that the limits
allow. -/
theorem respects_of_constraintViolation?_eq_none (h : path.constraintViolation? settings = none) :
    (∀ c ∈ path.intermediates, c.MayIssue) ∧
    ∀ below limit, Limits settings path below limit → nonSelfIssued below ≤ limit.toNat := by
  obtain ⟨hentitled, hcount, hbelow⟩ := within_of_firstUnentitled_eq_none h
  rw [map_fst_reverse_zipIdx] at hcount hbelow
  rw [nonSelfIssued_reverse, le_initialBudget_iff] at hcount
  refine ⟨fun c hc => ?_, fun below limit hlimits => ?_⟩
  · have hmem : c ∈ (path.intermediates.zipIdx 1).reverse.map Prod.fst := by
      rw [map_fst_reverse_zipIdx]
      exact List.mem_reverse.2 hc
    obtain ⟨x, hx, rfl⟩ := List.mem_map.1 hmem
    exact hentitled x hx
  · cases hlimits with
    | initial => exact hcount.1
    | trustAnchor henforced hlimit => exact hcount.2 henforced limit hlimit
    | @intermediate _ above c _ hsplit hlimit =>
        have hreverse : path.intermediates.reverse = above.reverse ++ c :: below.reverse := by
          simp [hsplit]
        rw [← nonSelfIssued_reverse]
        exact hbelow _ c _ limit hreverse hlimit

theorem constraintViolation?_eq_none_of_respects
    (hentitled : ∀ c ∈ path.intermediates, c.MayIssue)
    (hlimits : ∀ below limit, Limits settings path below limit →
      nonSelfIssued below ≤ limit.toNat) :
    path.constraintViolation? settings = none := by
  apply firstUnentitled_eq_none_of_within
  · intro x hx
    rw [List.mem_reverse] at hx
    exact hentitled x.1 (List.fst_mem_of_mem_zipIdx hx)
  · rw [map_fst_reverse_zipIdx, nonSelfIssued_reverse, le_initialBudget_iff]
    exact ⟨hlimits _ _ .initial, fun henforced limit h => hlimits _ _ (.trustAnchor henforced h)⟩
  · intro above c below limit hsplit hc
    rw [map_fst_reverse_zipIdx, List.reverse_eq_iff] at hsplit
    have habove : path.intermediates = below.reverse ++ c :: above.reverse := by
      rw [hsplit]
      simp
    rw [← nonSelfIssued_reverse]
    exact hlimits _ _ (.intermediate habove hc)

/-- Only intermediates are constrained, and they are counted from one. -/
theorem mem_zipIdx_of_constraintViolation? {v : Violation}
    (h : path.constraintViolation? settings = some v) :
    (v.certificate, v.index) ∈ path.intermediates.zipIdx 1 := by
  obtain ⟨above, below, hdown, -⟩ := breaks_of_firstUnentitled h
  rw [← List.mem_reverse, hdown]
  exact List.mem_append_right _ List.mem_cons_self

/-- A violation is that of the intermediate it names, which is found at the position it gives. -/
theorem violates_of_constraintViolation? {v : Violation}
    (h : path.constraintViolation? settings = some v) :
    path.certificates[v.index]? = some v.certificate ∧ v.cause = .pathValidation v.status ∧
      ViolatesConstraints settings path v.certificate v.status := by
  obtain ⟨above, below, hdown, hcause, hbreaks⟩ := breaks_of_firstUnentitled h
  have hindexed := mem_zipIdx_of_constraintViolation? h
  have hsplit : path.intermediates = (below.map Prod.fst).reverse ++
      v.certificate :: (above.map Prod.fst).reverse := by
    have hreverse := map_fst_reverse_zipIdx path.intermediates 1
    rw [hdown] at hreverse
    rw [← List.reverse_reverse path.intermediates, ← hreverse]
    simp
  have hmem : v.certificate ∈ path.intermediates := by
    rw [hsplit]
    exact List.mem_append_right _ List.mem_cons_self
  refine ⟨?_, hcause, ?_⟩
  · obtain ⟨hpos, hat⟩ := List.mk_mem_zipIdx_iff_le_and_getElem?_sub.1 hindexed
    obtain ⟨hlt, -⟩ := List.getElem?_eq_some_iff.1 hat
    obtain ⟨i, hi⟩ : ∃ i, v.index = i + 1 := ⟨v.index - 1, by omega⟩
    rw [hi] at hat hlt ⊢
    simp only [certificates, List.cons_append, List.getElem?_cons_succ]
    rw [List.getElem?_append_left (by omega)]
    exact hat
  · generalize v.status = status at hbreaks ⊢
    cases hbreaks with
    | missing hmissing => exact .missing hmem hmissing
    | unentitled hsome hca => exact .unentitled hmem hsome hca
    | overBudget hself hspent =>
        have hover : ¬ nonSelfIssued (above.map Prod.fst) + 1 ≤
            (path.initialBudget settings).toNat := by omega
        rw [le_initialBudget_iff, not_and_or] at hover
        rw [← nonSelfIssued_reverse] at hover
        rcases hover with hover | hover
        · have hlimits : Limits settings path path.intermediates _ := .initial
          rw [hsplit] at hlimits
          exact .tooMany hlimits hself (by omega)
        · push Not at hover
          obtain ⟨henforced, limit, hlimit, hlt⟩ := hover
          have hlimits := Limits.trustAnchor henforced hlimit
          rw [hsplit] at hlimits
          exact .tooMany hlimits hself (by omega)
    | @overLimit top between d limit hself hover hlimit hspent =>
        have hlimits : Limits settings path
            ((below.map Prod.fst).reverse ++ v.certificate :: between.reverse) limit := by
          have habove : path.intermediates =
              ((below.map Prod.fst).reverse ++ v.certificate :: between.reverse) ++
                d :: top.reverse := by
            rw [hsplit, hover]
            simp
          exact .intermediate habove hlimit
        rw [← nonSelfIssued_reverse] at hspent
        exact .tooMany hlimits hself hspent

end CertificationPath

end TrustChain
