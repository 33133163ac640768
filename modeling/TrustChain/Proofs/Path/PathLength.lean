import TrustChain.Proofs.Path.Building
import TrustChain.Proofs.Path.Validation

/-!
# Counting the certificates of a path

The rule for the length of a path counts certificates: whoever sets a limit has at most so many
below that are not self-issued. Validation does not count them. It carries one budget downwards in
eight bits, takes one off at a certificate before it looks at what else is wrong with it, and clamps
what is left to the limit of the certificate. Both decide alike, and the budget is never overdrawn:
it is what it would be in integers, as far down as validation comes.
-/

namespace TrustChain

open Check (outcome)

namespace CertificationPath

variable {path : CertificationPath} {settings : Settings}

/-! ### The counting rule -/

/-- The intermediates may issue certificates, and nobody who sets a limit has more of them below
than it allows, self-issued ones not counted. -/
structure KeepsCount (settings : Settings) (path : CertificationPath) : Prop where
  entitled : ∀ c ∈ path.intermediates, c.MayIssue
  initial : nonSelfIssued path.intermediates ≤ settings.initialPathLength.toNat
  anchored : settings.enforceTrustAnchorConstraints = true →
    ∀ limit, path.trustAnchor.pathLength? = some limit →
      nonSelfIssued path.intermediates ≤ limit.toNat
  limited : ∀ (i : Nat) c limit, path.intermediates[i]? = some c → c.pathLength? = some limit →
    nonSelfIssued (path.intermediates.take i) ≤ limit.toNat

theorem constraintViolation?_eq_none_iff :
    path.constraintViolation? settings = none ↔ path.KeepsCount settings := by
  constructor
  · intro h
    obtain ⟨hentitled, hlimits⟩ := respects_of_constraintViolation?_eq_none h
    refine ⟨hentitled, hlimits _ _ .initial, ?_, ?_⟩
    · intro henforced limit hlimit
      exact hlimits _ _ (.trustAnchor henforced hlimit)
    · intro i c limit hc hlimit
      obtain ⟨hi, rfl⟩ := List.getElem?_eq_some_iff.1 hc
      have hsplit : path.intermediates = path.intermediates.take i ++
          path.intermediates[i] :: path.intermediates.drop (i + 1) := by
        rw [← List.drop_eq_getElem_cons hi, List.take_append_drop]
      exact hlimits _ _ (.intermediate hsplit hlimit)
  · intro h
    apply constraintViolation?_eq_none_of_respects h.entitled
    intro below limit hlimits
    cases hlimits with
    | initial => exact h.initial
    | trustAnchor henforced hlimit => exact h.anchored henforced limit hlimit
    | @intermediate _ above c _ hsplit hlimit =>
        have hcount := h.limited below.length c limit (by simp [hsplit]) hlimit
        rwa [hsplit, List.take_left] at hcount

/-! ### The budget on the way down -/

/-- What is wrong with one intermediate, given whether the budget is used up above it. -/
def unentitled? (spent : Bool) (x : Certificate × Nat) : Option Violation :=
  if !x.1.isSelfIssued && spent then
    some (.ofStatus x.1 "path length constraint violation" .invalidPathLength x.2)
  else
    match x.1.basicConstraints? with
    | none => some (.ofStatus x.1 "missing basic constraints" .missingBasicConstraints x.2)
    | some constraints =>
      if constraints.ca then none
      else some (.ofStatus x.1 "invalid basic constraints" .invalidBasicConstraints x.2)

/-- Either a certificate is at fault or the check goes on with what it leaves of the budget. -/
theorem firstUnentitled_cons (budget : UInt8) (x : Certificate × Nat)
    (rest : List (Certificate × Nat)) :
    firstUnentitled budget (x :: rest) =
      (unentitled? (budget == 0) x).or (firstUnentitled (budgetBelow budget x.1) rest) := by
  obtain ⟨c, index⟩ := x
  unfold unentitled?
  rw [firstUnentitled]
  by_cases hspent : (!c.isSelfIssued && budget == 0) = true
  · rw [if_pos hspent, if_pos hspent, Option.some_or]
  · rw [if_neg hspent, if_neg hspent]
    cases hconstraints : c.basicConstraints? with
    | none => rfl
    | some constraints =>
        cases hca : constraints.ca with
        | false => simp [hca]
        | true => simp [budgetBelow, Certificate.pathLength?, hconstraints, hca]

/-- The certificate has room in a budget unless it is the one too many. -/
theorem room_of_unentitled? {budget : UInt8} {x : Certificate × Nat}
    (h : unentitled? (budget == 0) x = none) : x.1.isSelfIssued = true ∨ budget ≠ 0 := by
  by_contra hfull
  push Not at hfull
  obtain ⟨hself, rfl⟩ := hfull
  simp [unentitled?, hself] at h

/-- What some certificates, from the top down, leave of a budget. -/
def budgetUnder (budget : UInt8) (above : List Certificate) : UInt8 :=
  above.foldl budgetBelow budget

/-- The check goes on below the certificates it has passed with what they leave. -/
theorem firstUnentitled_append (budget : UInt8) (above below : List (Certificate × Nat)) :
    firstUnentitled budget (above ++ below) =
      (firstUnentitled budget above).or
        (firstUnentitled (budgetUnder budget (above.map Prod.fst)) below) := by
  induction above generalizing budget with
  | nil => rfl
  | cons x above ih =>
      rw [List.cons_append, firstUnentitled_cons, firstUnentitled_cons, ih, Option.or_assoc]
      rfl

/-! ### The budget in integers -/

/-- What a certificate leaves of a remainder, which may be overdrawn. -/
def remainderBelow (remainder : Int) (c : Certificate) : Int :=
  let left := remainder - nonSelfIssued [c]
  (c.pathLength?.map fun limit => min left limit.toNat).getD left

theorem toNat_min (a b : UInt8) : ((min a b).toNat : Int) = min (a.toNat : Int) b.toNat := by
  have hmin : (min a b).toNat = min a.toNat b.toNat :=
    eq_of_forall_le_iff fun n => le_min_iff.trans Nat.le_min.symm
  rw [hmin]
  omega

theorem toNat_budgetBelow {budget : UInt8} {c : Certificate}
    (hroom : c.isSelfIssued = true ∨ budget ≠ 0) :
    ((budgetBelow budget c).toNat : Int) = remainderBelow budget.toNat c := by
  have htaken := toNat_left_add hroom
  have hleft : ((if c.isSelfIssued then budget else budget - 1).toNat : Int) =
      budget.toNat - nonSelfIssued [c] := by omega
  unfold budgetBelow remainderBelow
  rw [← hleft]
  cases c.pathLength? with
  | none => rfl
  | some limit => exact toNat_min _ limit

theorem toNat_budgetUnder {budget : UInt8} {above : List (Certificate × Nat)}
    (hpassed : firstUnentitled budget above = none) :
    ((budgetUnder budget (above.map Prod.fst)).toNat : Int) =
      (above.map Prod.fst).foldl remainderBelow budget.toNat := by
  induction above generalizing budget with
  | nil => rfl
  | cons x above ih =>
      rw [firstUnentitled_cons, Option.or_eq_none_iff] at hpassed
      rw [List.map_cons, List.foldl_cons, ← toNat_budgetBelow (room_of_unentitled? hpassed.1),
        ← ih hpassed.2]
      rfl

/-! ### The budget at one certificate -/

/-- The budget with which the check comes to the intermediate at a position. -/
def budgetAt (settings : Settings) (path : CertificationPath) (i : Nat) : UInt8 :=
  budgetUnder (path.initialBudget settings) (path.intermediates.drop (i + 1)).reverse

/-- What remains at a position in integers. -/
def remainderAt (settings : Settings) (path : CertificationPath) (i : Nat) : Int :=
  (path.intermediates.drop (i + 1)).reverse.foldl remainderBelow (path.initialBudget settings).toNat

/-- From the top down, the intermediates above a position come before the others. -/
theorem reverse_zipIdx_eq {certificates : List Certificate} {k : Nat}
    (hk : k ≤ certificates.length) :
    (certificates.zipIdx 1).reverse =
      ((certificates.drop k).zipIdx (k + 1)).reverse ++
        ((certificates.take k).zipIdx 1).reverse := by
  conv => lhs; rw [← List.take_append_drop k certificates]
  rw [List.zipIdx_append, List.length_take_of_le hk, List.reverse_append, Nat.add_comm 1 k]

theorem reverse_zipIdx_take_succ {certificates : List Certificate} {i : Nat} {c : Certificate}
    (hc : certificates[i]? = some c) :
    ((certificates.take (i + 1)).zipIdx 1).reverse =
      (c, i + 1) :: ((certificates.take i).zipIdx 1).reverse := by
  obtain ⟨hi, -⟩ := List.getElem?_eq_some_iff.1 hc
  rw [List.take_add_one, hc, Option.toList_some, List.zipIdx_append, List.length_take_of_le hi.le,
    List.reverse_append, Nat.add_comm 1 i]
  rfl

/-- Where the check comes to a certificate, it has found nothing wrong above. -/
theorem firstUnentitled_drop_eq_none {i : Nat} (hi : i < path.intermediates.length)
    (hcome : ∀ v, path.constraintViolation? settings = some v → v.index ≤ i + 1) :
    firstUnentitled (path.initialBudget settings)
      ((path.intermediates.drop (i + 1)).zipIdx (i + 2)).reverse = none := by
  rw [Option.eq_none_iff_forall_not_mem]
  intro v hv
  have hviolation : path.constraintViolation? settings = some v := by
    unfold constraintViolation?
    rw [reverse_zipIdx_eq hi, firstUnentitled_append, hv, Option.some_or]
  obtain ⟨above, below, hsplit, -⟩ := breaks_of_firstUnentitled hv
  have hmem : (v.certificate, v.index) ∈ (path.intermediates.drop (i + 1)).zipIdx (i + 2) := by
    rw [← List.mem_reverse, hsplit]
    exact List.mem_append_right _ List.mem_cons_self
  have habove : i + 2 ≤ v.index := List.le_snd_of_mem_zipIdx hmem
  have hbelow := hcome v hviolation
  omega

/-- **Path lengths are counted as the rule says.** The check of basic constraints passes exactly the
paths that keep the count. As far as it comes, on any path, its budget is what remains in integers,
and nothing is taken off it that is not there: the check ends first. -/
theorem checkBasicConstraints_counts (settings : Settings) (path : CertificationPath) :
    (∀ results, (outcome (path.checkBasicConstraints settings) results).1 = .ok () ↔
      path.KeepsCount settings) ∧
    ∀ i c, path.intermediates[i]? = some c →
      (∀ v, path.constraintViolation? settings = some v → v.index ≤ i + 1) →
      path.constraintViolation? settings =
        firstUnentitled (path.budgetAt settings i)
          ((path.intermediates.take (i + 1)).zipIdx 1).reverse ∧
      ((path.budgetAt settings i).toNat : Int) = path.remainderAt settings i ∧
      (path.constraintViolation? settings =
          some (.ofStatus c "path length constraint violation" .invalidPathLength (i + 1)) ∨
        0 ≤ path.remainderAt settings i - nonSelfIssued [c]) := by
  constructor
  · intro results
    rw [← constraintViolation?_eq_none_iff, checkBasicConstraints, Violation.outcome_raise]
    cases path.constraintViolation? settings with
    | none => exact iff_of_true rfl rfl
    | some v => exact iff_of_false (fun h => nomatch h) (fun h => nomatch h)
  · intro i c hc hcome
    obtain ⟨hi, -⟩ := List.getElem?_eq_some_iff.1 hc
    have hpassed := firstUnentitled_drop_eq_none hi hcome
    have hremainder : ((path.budgetAt settings i).toNat : Int) = path.remainderAt settings i := by
      have hinteger := toNat_budgetUnder hpassed
      rwa [map_fst_reverse_zipIdx] at hinteger
    have hrest : path.constraintViolation? settings =
        firstUnentitled (path.budgetAt settings i)
          ((path.intermediates.take (i + 1)).zipIdx 1).reverse := by
      unfold constraintViolation? budgetAt
      rw [reverse_zipIdx_eq hi, firstUnentitled_append, hpassed, Option.none_or,
        map_fst_reverse_zipIdx]
    refine ⟨hrest, hremainder, ?_⟩
    rw [hrest, reverse_zipIdx_take_succ hc, firstUnentitled_cons]
    by_cases hfull : c.isSelfIssued = false ∧ path.budgetAt settings i = 0
    · left
      rw [unentitled?, if_pos (by simp [hfull]), Option.some_or]
    · right
      have hroom : c.isSelfIssued = true ∨ path.budgetAt settings i ≠ 0 := by
        simpa [or_iff_not_imp_left] using hfull
      have htaken := toNat_left_add hroom
      omega

end CertificationPath

namespace Sample

/-- Certifies its own name, and allows one certificate below. -/
def limiting : Certificate :=
  { certificate 15 1 1 (.rsa, 1) (.rsa, 1) with
    parsed := [(Oid.basicConstraints, .basicConstraints ⟨true, some 1⟩)] }

/-- Of the certificates below the limit only two count, which is one too many: nothing is left at
the lowest, and the check ends there. -/
theorem counts_below_limit :
    [lower, limiting, back, limiting, upper][0]? = some lower ∧
    (∀ v, (CertificationPath.mk root [lower, limiting, back, limiting, upper]
      leaf).constraintViolation? .empty = some v → v.index ≤ 1) ∧
    ((CertificationPath.mk root [lower, limiting, back, limiting, upper] leaf).budgetAt .empty
      0).toNat = 0 ∧
    (CertificationPath.mk root [lower, limiting, back, limiting, upper] leaf).remainderAt .empty
      0 = 0 := by
  have hcome : ∀ v, (CertificationPath.mk root [lower, limiting, back, limiting, upper]
      leaf).constraintViolation? .empty = some v → v.index ≤ 1 := by
    rintro v ⟨⟩
    exact Nat.le_refl 1
  obtain ⟨-, hcounts⟩ := CertificationPath.checkBasicConstraints_counts .empty
    (.mk root [lower, limiting, back, limiting, upper] leaf)
  obtain ⟨-, hremainder, -⟩ := hcounts 0 lower rfl hcome
  have hspent : ((CertificationPath.mk root [lower, limiting, back, limiting, upper]
      leaf).budgetAt .empty 0).toNat = 0 := by decide +kernel
  refine ⟨rfl, hcome, hspent, ?_⟩
  rw [← hremainder, hspent]
  rfl

end Sample

end TrustChain
