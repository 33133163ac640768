import TrustChain.Proofs.Path.PathLength

/-!
# The order of violations

A path may break the rules in many ways at once. All of them in a row, names first, then signatures,
then dates, each from the target upwards, and last the constraints, from the trust anchor downwards,
make a list (`violations`), and validation reports the head of it. For the constraints that needs an
argument: the list asks of every intermediate by itself whether the limits above it are used up,
where validation has carried a budget down to the first that is at fault.
-/

namespace TrustChain

open Check (outcome)

namespace CertificationPath

variable {path : CertificationPath} {settings : Settings}

/-! ### All violations -/

/-- How the names of a link violate the rules, if they do. -/
def misnamed? (link : (Certificate × Certificate) × Nat) : Option Violation :=
  if link.1.1.issuer.agrees link.1.2.subject then none
  else
    some (.ofStatus link.1.1
      ("issuer name does not match subject name of next certificate: " ++ link.1.2.subjectText)
      .nameChainingFailure link.2)

/-- How a certificate is not valid at a time, if it is not. -/
def outdated? (time : Nat) (x : Certificate × Nat) : Option Violation :=
  match x.1.validity.check time with
  | .ok _ => none
  | .error status => some (.ofStatus x.1 (x.1.validity.complaint status) status x.2)

/-- Whether the limits of the settings, of the trust anchor and of the intermediates above a
position leave no room there for another certificate. -/
def spentAt (settings : Settings) (path : CertificationPath) (position : Nat) : Bool :=
  let above := path.intermediates.drop position
  decide (settings.initialPathLength.toNat ≤ nonSelfIssued above) ||
    (settings.enforceTrustAnchorConstraints &&
      path.trustAnchor.pathLength?.any fun limit => limit.toNat ≤ nonSelfIssued above) ||
    above.zipIdx.any fun (c, k) =>
      c.pathLength?.any fun limit => limit.toNat ≤ nonSelfIssued (above.take k)

/-- All violations of a path, in the order in which they count. -/
def violations (verifiers : Verifiers) (now : UInt64) (settings : Settings)
    (path : CertificationPath) : List Violation :=
  let time := (settings.timeOfInterest now).toNat
  path.links.filterMap misnamed? ++
    path.links.filterMap (badSignature? verifiers) ++
    (if time = 0 then [] else
      (path.datedCertificates settings).zipIdx.filterMap (outdated? time)) ++
    (if settings.enforceBasicConstraints then
      (path.intermediates.zipIdx 1).reverse.filterMap fun x =>
        unentitled? (path.spentAt settings x.2) x
    else [])

/-! ### The budget stands for the limits -/

/-- The budget with which the check comes to a certificate stands for all limits set above it. -/
theorem le_budgetUnder_iff {budget : UInt8} {above : List (Certificate × Nat)}
    (hpassed : firstUnentitled budget above = none) (n : Nat) :
    n ≤ (budgetUnder budget (above.map Prod.fst)).toNat ↔
      nonSelfIssued (above.map Prod.fst) + n ≤ budget.toNat ∧
        ∀ top c between limit, above.map Prod.fst = top ++ c :: between →
          c.pathLength? = some limit → nonSelfIssued between + n ≤ limit.toNat := by
  induction above generalizing budget with
  | nil => simp [budgetUnder, nonSelfIssued]
  | cons x above ih =>
      rw [firstUnentitled_cons, Option.or_eq_none_iff] at hpassed
      have hstep : budgetUnder budget ((x :: above).map Prod.fst) =
          budgetUnder (budgetBelow budget x.1) (above.map Prod.fst) := rfl
      rw [hstep, ih hpassed.2, le_budgetBelow_iff (room_of_unentitled? hpassed.1), List.map_cons,
        nonSelfIssued_cons x.1 (above.map Prod.fst), Nat.add_assoc, and_assoc]
      refine and_congr_right fun _ => ⟨?_, ?_⟩
      · rintro ⟨hfirst, hbelow⟩ top c between limit hsplit hlimit
        cases top with
        | nil =>
            obtain ⟨rfl, rfl⟩ := List.cons.inj hsplit
            exact hfirst limit hlimit
        | cons _ top => exact hbelow top c between limit (List.cons.inj hsplit).2 hlimit
      · intro h
        refine ⟨fun limit hlimit => h [] x.1 _ limit rfl hlimit, ?_⟩
        intro top c between limit hsplit hlimit
        exact h (x.1 :: top) c between limit (by rw [hsplit]; rfl) hlimit

theorem spentAt_eq_true_iff {position : Nat} : path.spentAt settings position = true ↔
    settings.initialPathLength.toNat ≤ nonSelfIssued (path.intermediates.drop position) ∨
      (settings.enforceTrustAnchorConstraints = true ∧ ∃ limit,
        path.trustAnchor.pathLength? = some limit ∧
          limit.toNat ≤ nonSelfIssued (path.intermediates.drop position)) ∨
      ∃ below c above limit, path.intermediates.drop position = below ++ c :: above ∧
        c.pathLength? = some limit ∧ limit.toNat ≤ nonSelfIssued below := by
  unfold spentAt
  generalize path.intermediates.drop position = certificates
  simp only [Bool.or_eq_true, decide_eq_true_eq, Bool.and_eq_true, Option.any_eq_true,
    List.any_eq_true, or_assoc]
  refine or_congr_right (or_congr_right ⟨?_, ?_⟩)
  · rintro ⟨⟨c, k⟩, hmem, limit, hlimit, hspent⟩
    rw [List.mk_mem_zipIdx_iff_getElem?] at hmem
    obtain ⟨hk, rfl⟩ := List.getElem?_eq_some_iff.1 hmem
    refine ⟨certificates.take k, certificates[k], certificates.drop (k + 1), limit, ?_, hlimit,
      hspent⟩
    rw [← List.drop_eq_getElem_cons hk, List.take_append_drop]
  · rintro ⟨below, c, above, limit, rfl, hlimit, hspent⟩
    refine ⟨(c, below.length), ?_, limit, hlimit, ?_⟩
    · rw [List.mk_mem_zipIdx_iff_getElem?]
      simp
    · rwa [List.take_left]

/-- The check finds its budget used up where the limits are. -/
theorem budgetUnder_eq_zero_iff {position : Nat}
    (hpassed : firstUnentitled (path.initialBudget settings)
      ((path.intermediates.drop position).zipIdx (position + 1)).reverse = none) :
    budgetUnder (path.initialBudget settings) (path.intermediates.drop position).reverse = 0 ↔
      path.spentAt settings position = true := by
  have hbudget := le_budgetUnder_iff hpassed 1
  rw [map_fst_reverse_zipIdx, nonSelfIssued_reverse, le_initialBudget_iff] at hbudget
  rw [spentAt_eq_true_iff, ← UInt8.toNat_inj, UInt8.toNat_zero, ← Nat.lt_one_iff, ← Nat.not_le,
    hbudget]
  generalize path.intermediates.drop position = certificates
  constructor
  · intro h
    by_contra hroom
    push Not at hroom
    obtain ⟨hinitial, hanchor, hbelow⟩ := hroom
    refine h ⟨⟨hinitial, hanchor⟩, ?_⟩
    intro top c between limit hsplit hlimit
    rw [List.reverse_eq_iff] at hsplit
    rw [← nonSelfIssued_reverse]
    exact hbelow between.reverse c top.reverse limit (by simp [hsplit]) hlimit
  · rintro h ⟨⟨hinitial, hanchor⟩, hbelow⟩
    rcases h with h | ⟨henforced, limit, hlimit, h⟩ | ⟨below, c, above, limit, rfl, hlimit, h⟩
    · omega
    · have := hanchor henforced limit hlimit
      omega
    · have hcount := hbelow above.reverse c below.reverse limit (by simp) hlimit
      rw [nonSelfIssued_reverse] at hcount
      omega

/-- The check below a position finds the first certificate that is at fault by itself. -/
theorem firstUnentitled_take {k : Nat} (hk : k ≤ path.intermediates.length)
    (hpassed : firstUnentitled (path.initialBudget settings)
      ((path.intermediates.drop k).zipIdx (k + 1)).reverse = none) :
    firstUnentitled (budgetUnder (path.initialBudget settings) (path.intermediates.drop k).reverse)
        ((path.intermediates.take k).zipIdx 1).reverse =
      ((path.intermediates.take k).zipIdx 1).reverse.findSome? fun x =>
        unentitled? (path.spentAt settings x.2) x := by
  induction k with
  | zero => rfl
  | succ k ih =>
      have hc := List.getElem?_eq_getElem hk
      have hdrop := List.drop_eq_getElem_cons hk
      generalize path.intermediates[k] = c at hc hdrop
      have hspent : (budgetUnder (path.initialBudget settings)
          (path.intermediates.drop (k + 1)).reverse == 0) = path.spentAt settings (k + 1) := by
        rw [Bool.eq_iff_iff, beq_iff_eq]
        exact budgetUnder_eq_zero_iff hpassed
      have hbelow : budgetBelow (budgetUnder (path.initialBudget settings)
          (path.intermediates.drop (k + 1)).reverse) c =
            budgetUnder (path.initialBudget settings) (path.intermediates.drop k).reverse := by
        unfold budgetUnder
        rw [hdrop, List.reverse_cons, List.foldl_concat]
      rw [reverse_zipIdx_take_succ hc, firstUnentitled_cons, List.findSome?_cons, hspent, hbelow]
      cases hfault : unentitled? (path.spentAt settings (k + 1)) (c, k + 1) with
      | some v => rfl
      | none =>
          rw [Option.none_or]
          apply ih (Nat.le_of_succ_le hk)
          rw [hdrop, List.zipIdx_cons, List.reverse_cons, firstUnentitled_append, hpassed,
            Option.none_or, map_fst_reverse_zipIdx, firstUnentitled_cons, hspent, hfault]
          rfl

theorem constraintViolation?_eq_findSome? : path.constraintViolation? settings =
    (path.intermediates.zipIdx 1).reverse.findSome? fun x =>
      unentitled? (path.spentAt settings x.2) x := by
  have hall := @firstUnentitled_take path settings _ (Nat.le_refl _) (by
    rw [List.drop_length]
    rfl)
  rwa [List.drop_length, List.take_length] at hall

theorem head?_violations (verifiers : Verifiers) (now : UInt64) :
    (path.violations verifiers now settings).head? =
      path.firstViolation? verifiers now settings := by
  unfold violations firstViolation? datingViolation?
  rw [List.head?_append, List.head?_append, List.head?_append, List.head?_filterMap,
    List.head?_filterMap, Option.or_assoc, Option.or_assoc, apply_ite List.head?,
    apply_ite List.head?, List.head?_filterMap, List.head?_filterMap,
    ← constraintViolation?_eq_findSome?]
  rfl

theorem cause_of_unentitled? {spent : Bool} {x : Certificate × Nat} {v : Violation}
    (h : unentitled? spent x = some v) : v.cause = .pathValidation v.status := by
  unfold unentitled? at h
  split at h
  · obtain rfl := Option.some.inj h
    rfl
  · split at h
    · obtain rfl := Option.some.inj h
      rfl
    · rw [Option.ite_none_left_eq_some] at h
      obtain rfl := Option.some.inj h.2
      rfl

/-- What is reported is the status that is recorded, unless a signature could not be evaluated: then
it is the error of the verifiers. -/
theorem cause_of_mem_violations {verifiers : Verifiers} {now : UInt64} {v : Violation}
    (h : v ∈ path.violations verifiers now settings) :
    v.cause = .pathValidation v.status ∨
      v.status = .cryptoEvaluationFailure ∧ ∃ parent,
        path.certificates[v.index + 1]? = some parent ∧
          (verifiers.certificateSignature v.certificate parent).value = .error v.cause := by
  simp only [violations, List.mem_append] at h
  rcases h with ((hname | hsignature) | hdating) | hconstraint
  · obtain ⟨link, -, hv⟩ := List.mem_filterMap.1 hname
    unfold misnamed? at hv
    rw [Option.ite_none_left_eq_some] at hv
    obtain rfl := Option.some.inj hv.2
    exact .inl rfl
  · obtain ⟨⟨⟨child, parent⟩, i⟩, hlink, hv⟩ := List.mem_filterMap.1 hsignature
    unfold badSignature? at hv
    split at hv
    · cases hv
    · obtain rfl := Option.some.inj hv
      exact .inl rfl
    · rename_i e herror
      obtain rfl := Option.some.inj hv
      exact .inr ⟨rfl, parent, (mem_links_iff.1 hlink).2, herror⟩
  · split at hdating
    · cases hdating
    · obtain ⟨x, -, hv⟩ := List.mem_filterMap.1 hdating
      unfold outdated? at hv
      split at hv
      · cases hv
      · obtain rfl := Option.some.inj hv
        exact .inl rfl
  · split at hconstraint
    · obtain ⟨x, -, hv⟩ := List.mem_filterMap.1 hconstraint
      exact .inl (cause_of_unentitled? hv)
    · cases hconstraint

/-- **The first violation is reported.** Validation of any path passes and records that it is valid
if there is no violation at all; else it ends with the first of all violations and records its
status and its position. -/
theorem validate_reports_first (verifiers : Verifiers) (now : UInt64) (settings : Settings)
    (path : CertificationPath) (results : Results) :
    match path.violations verifiers now settings with
    | [] =>
      outcome (path.validate verifiers now settings) results =
          (.ok (), results.setStatus .valid) ∧
        (results.setStatus .valid).status? = some .valid
    | v :: _ =>
      outcome (path.validate verifiers now settings) results =
          (.error v.cause, results.fail v.status v.index) ∧
        (results.fail v.status v.index).status? = some v.status ∧
        (results.fail v.status v.index).failedIndex? = some v.index ∧
        path.certificates[v.index]? = some v.certificate ∧
        (v.cause = .pathValidation v.status ∨
          v.status = .cryptoEvaluationFailure ∧ ∃ parent,
            path.certificates[v.index + 1]? = some parent ∧
              (verifiers.certificateSignature v.certificate parent).value = .error v.cause) := by
  have hfirst := @head?_violations path settings verifiers now
  split
  · rename_i hnone
    rw [hnone, List.head?_nil] at hfirst
    rw [outcome_validate, ← hfirst]
    exact ⟨rfl, Results.status?_setStatus _ _⟩
  · rename_i v rest hviolations
    rw [hviolations, List.head?_cons] at hfirst
    rw [outcome_validate, ← hfirst]
    obtain ⟨hposition, -⟩ := explains_of_firstViolation? hfirst.symm
    exact ⟨rfl, Results.status?_fail _ _ _, Results.failedIndex?_fail _ _ _, hposition,
      cause_of_mem_violations (hviolations ▸ List.mem_cons_self)⟩

end CertificationPath

namespace Sample

/-- The two lower links have neither the names nor the signatures they should, and the lower
intermediate may not issue. -/
example :
    ((CertificationPath.mk upper [{ root with parsed := [] }, back] leaf).violations [verifier] now
      .empty).map (fun v => (v.status, v.index)) =
      [(.nameChainingFailure, 0), (.nameChainingFailure, 1), (.signatureVerificationFailure, 0),
        (.signatureVerificationFailure, 1), (.missingBasicConstraints, 1)] := by
  decide +kernel

end Sample

end TrustChain
