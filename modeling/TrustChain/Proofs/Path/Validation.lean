import TrustChain.Environment
import TrustChain.Proofs.Path.Constraints
import Mathlib.Data.List.Chain

/-!
# What validation decides

Validation is a sequence of checks that write to a journal and to results. What it decides does not
depend on either: it looks for the first violation of all (`firstViolation?`), and what it ends with
and what is recorded are both read off that violation (`outcome_validate`). Without a violation the
path has all the properties that are checked (`IsValid`); with one, the violation explains itself
(`Explains`) and the position that is recorded is that of its certificate.
-/

namespace TrustChain

/-! ### Checks without their journal -/

namespace Check

variable {α β : Type}

/-- What a check ends with, and the results it leaves. -/
def outcome (check : Check α) (results : Results) : Except Error α × Results :=
  (check.run.run results).value

theorem outcome_bind (check : Check α) (f : α → Check β) (results : Results) :
    outcome (check >>= f) results =
      match outcome check results with
      | (.ok a, after) => outcome (f a) after
      | (.error e, after) => (.error e, after) := by
  have hbind : outcome (check >>= f) results =
      (StateT.run (ExceptT.bindCont f (outcome check results).1)
        (outcome check results).2).value := rfl
  rw [hbind]
  rcases outcome check results with ⟨e | a, after⟩ <;> rfl

theorem outcome_tryCatch (check : Check α) (handler : Error → Check α) (results : Results) :
    outcome (tryCatch check handler) results =
      match outcome check results with
      | (.ok a, after) => (.ok a, after)
      | (.error e, after) => outcome (handler e) after := by
  have hcatch : outcome (tryCatch check handler) results =
      (StateT.run (ExceptT.tryCatch (ExceptT.mk (pure (outcome check results).1)) handler).run
        (outcome check results).2).value := rfl
  rw [hcatch]
  rcases outcome check results with ⟨e | a, after⟩ <;> rfl

theorem outcome_liftM (x : Journaled α) (results : Results) :
    outcome (liftM x) results = (.ok x.value, results) := rfl

end Check

open Check (outcome outcome_bind outcome_tryCatch)

/-! ### What is recorded -/

namespace Results

variable (results : Results) (status : Status) (index : Nat)

theorem status?_setStatus : (results.setStatus status).status? = some status := by
  unfold status? setStatus put
  rw [Record.get?_insert_self]

theorem failedIndex?_fail : (results.fail status index).failedIndex? = some index := by
  unfold failedIndex? fail setFailedIndex put
  rw [Record.get?_insert_self]

theorem status?_fail : (results.fail status index).status? = some status := by
  have hother : statusName ≠ failedIndexName := by decide
  have hkept : (results.fail status index).status? = (results.setStatus status).status? := by
    unfold status? fail setFailedIndex put
    rw [Record.get?_insert_of_ne _ hother]
  rw [hkept, status?_setStatus]

end Results

/-! ### The first violation -/

theorem Violation.outcome_raise (violation : Option Violation) (results : Results) :
    outcome (raise violation) results =
      match violation with
      | none => (.ok (), results)
      | some v => (.error v.cause, results.fail v.status v.index) := by
  cases violation with
  | none => rfl
  | some v => rfl

namespace CertificationPath

/-- How the signature of a link violates the rules, if it does. -/
def badSignature? (verifiers : Verifiers) (link : (Certificate × Certificate) × Nat) :
    Option Violation :=
  match (verifiers.certificateSignature link.1.1 link.1.2).value with
  | .ok .valid => none
  | .ok .invalid =>
    some (.ofStatus link.1.1 "signature verification failure" .signatureVerificationFailure link.2)
  | .error e =>
    some ⟨link.1.1, "signature verification error: " ++ e.message, .cryptoEvaluationFailure,
      link.2, e⟩

theorem value_firstBadSignature (verifiers : Verifiers)
    (links : List ((Certificate × Certificate) × Nat)) :
    (firstBadSignature verifiers links).value = links.findSome? (badSignature? verifiers) := by
  induction links with
  | nil => rfl
  | cons link rest ih =>
      rw [List.findSome?_cons, badSignature?, firstBadSignature, Journaled.value_bind]
      cases (verifiers.certificateSignature link.1.1 link.1.2).value with
      | error e => rfl
      | ok status =>
          cases status with
          | valid => exact ih
          | invalid => rfl

/-- The first certificate that is not valid at the time of interest, if there is such a time. -/
def datingViolation? (path : CertificationPath) (now : UInt64) (settings : Settings) :
    Option Violation :=
  if (settings.timeOfInterest now).toNat = 0 then none
  else path.validityViolation? settings (settings.timeOfInterest now).toNat

/-- The first violation that validation comes across. -/
def firstViolation? (verifiers : Verifiers) (now : UInt64) (settings : Settings)
    (path : CertificationPath) : Option Violation :=
  path.nameViolation?.or <| (path.links.findSome? (badSignature? verifiers)).or <|
    (path.datingViolation? now settings).or <|
      if settings.enforceBasicConstraints then path.constraintViolation? settings else none

theorem outcome_checkSignatures (verifiers : Verifiers) (path : CertificationPath)
    (results : Results) : outcome (path.checkSignatures verifiers) results =
      outcome (Violation.raise (path.links.findSome? (badSignature? verifiers))) results := by
  rw [← value_firstBadSignature]
  rfl

theorem outcome_checkValidity (now : UInt64) (settings : Settings) (path : CertificationPath)
    (results : Results) :
    outcome (path.checkValidity now settings) results =
      outcome (Violation.raise (path.datingViolation? now settings)) results := by
  unfold checkValidity datingViolation?
  by_cases hzero : (settings.timeOfInterest now).toNat = 0
  · rw [if_pos hzero, if_pos hzero]
    rfl
  · rw [if_neg hzero, if_neg hzero]

/-- A step of validation leaves the rest to its successors unless it raises a violation. -/
theorem outcome_raise_or {first : Check Unit} {violation : Option Violation} {rest : Check Unit}
    {others : Option Violation} {results : Results}
    (hfirst : outcome first results = outcome (Violation.raise violation) results)
    (hrest : outcome rest results =
      match others with
      | none => (.ok (), results.setStatus .valid)
      | some v => (.error v.cause, results.fail v.status v.index)) :
    outcome (first >>= fun _ => rest) results =
      match violation.or others with
      | none => (.ok (), results.setStatus .valid)
      | some v => (.error v.cause, results.fail v.status v.index) := by
  rw [outcome_bind, hfirst, Violation.outcome_raise]
  cases violation with
  | none => exact hrest
  | some v => rfl

/-- Validation ends with the first violation and records it. -/
theorem outcome_validate (verifiers : Verifiers) (now : UInt64) (settings : Settings)
    (path : CertificationPath) (results : Results) :
    outcome (path.validate verifiers now settings) results =
      match path.firstViolation? verifiers now settings with
      | none => (.ok (), results.setStatus .valid)
      | some v => (.error v.cause, results.fail v.status v.index) := by
  unfold validate firstViolation?
  refine outcome_raise_or rfl (outcome_raise_or (outcome_checkSignatures verifiers path results)
    (outcome_raise_or (outcome_checkValidity now settings path results) ?_))
  by_cases henforced : settings.enforceBasicConstraints = true
  · have hraise : path.checkBasicConstraints settings =
        Violation.raise (path.constraintViolation? settings) := rfl
    rw [if_pos henforced, if_pos henforced, hraise, outcome_bind, Violation.outcome_raise]
    cases path.constraintViolation? settings with
    | none => rfl
    | some v => rfl
  · rw [if_neg henforced, if_neg henforced]
    rfl

end CertificationPath

/-- The built-in validator alone decides as it does by itself. -/
theorem Environment.outcome_validatePath {env : Environment} (henv : env.validators = [.builtin])
    (now : UInt64) (settings : Settings) (path : CertificationPath) (results : Results) :
    outcome (env.validatePath now settings path) results =
      outcome (path.validate env.verifiers now settings) results := by
  have hjudge : env.validatePath now settings path =
      (do
        liftM (Journaled.note none)
        tryCatch (path.validate env.verifiers now settings) fun e => throw e) := by
    unfold validatePath
    rw [henv]
    rfl
  rw [hjudge, outcome_bind, Check.outcome_liftM]
  dsimp only
  rw [outcome_tryCatch]
  rcases outcome (path.validate env.verifiers now settings) results with ⟨e | a, after⟩ <;> rfl

namespace CertificationPath

/-! ### Positions -/

theorem mem_links_iff {path : CertificationPath} {child parent : Certificate} {i : Nat} :
    ((child, parent), i) ∈ path.links ↔
      path.certificates[i]? = some child ∧ path.certificates[i + 1]? = some parent := by
  unfold links
  rw [List.mk_mem_zipIdx_iff_getElem?, List.getElem?_zip_eq_some, List.getElem?_tail]

/-- What holds of all links holds along the path. -/
theorem isChain_of_links {path : CertificationPath} {R : Certificate → Certificate → Prop}
    (h : ∀ child parent i, ((child, parent), i) ∈ path.links → R child parent) :
    path.certificates.IsChain R := by
  rw [List.isChain_iff_getElem]
  intro i hi
  apply h _ _ i
  rw [mem_links_iff]
  exact ⟨List.getElem?_eq_getElem _, List.getElem?_eq_getElem hi⟩

theorem mem_datedCertificates_iff {path : CertificationPath} {settings : Settings}
    {c : Certificate} :
    c ∈ path.datedCertificates settings ↔
      c = path.target ∨ c ∈ path.intermediates ∨
        settings.enforceTrustAnchorValidity = true ∧ c = path.trustAnchor := by
  unfold datedCertificates certificates
  by_cases henforced : settings.enforceTrustAnchorValidity = true
  · rw [if_pos henforced]
    simp [henforced]
  · rw [if_neg henforced, List.dropLast_concat]
    simp [henforced]

theorem getElem?_of_mem_dated {path : CertificationPath} {settings : Settings} {c : Certificate}
    {i : Nat} (h : (c, i) ∈ (path.datedCertificates settings).zipIdx) :
    path.certificates[i]? = some c := by
  rw [List.mk_mem_zipIdx_iff_getElem?] at h
  unfold datedCertificates at h
  by_cases henforced : settings.enforceTrustAnchorValidity = true
  · rwa [if_pos henforced] at h
  · rw [if_neg henforced, List.getElem?_dropLast, Option.ite_none_right_eq_some] at h
    exact h.2

/-! ### A path without a violation -/

end CertificationPath

/-- A time is within a period, both ends included. -/
def Validity.Covers (validity : Validity) (time : Nat) : Prop :=
  validity.notBefore.seconds ≤ time ∧ time ≤ validity.notAfter.seconds

theorem Validity.covers_of_check {validity : Validity} {time left : Nat} (hzero : time ≠ 0)
    (h : validity.check time = .ok left) : validity.Covers time := by
  unfold check at h
  rw [if_neg hzero] at h
  split at h
  · cases h
  · split at h
    · cases h
    · exact ⟨by omega, by omega⟩

/-- A period fails with one of two statuses. -/
theorem Validity.status_of_check {validity : Validity} {time : Nat} {status : Status}
    (h : validity.check time = .error status) :
    status = .invalidNotBeforeDate ∨ status = .invalidNotAfterDate := by
  unfold check at h
  split at h
  · cases h
  · split at h
    · cases h
      exact .inl rfl
    · split at h
      · cases h
        exact .inr rfl
      · cases h

namespace CertificationPath

/-- What validation establishes of a path: names chain, signatures verify, certificates are valid at
the time of interest, and intermediates may issue certificates, in the number there are. -/
structure IsValid (verifiers : Verifiers) (now : UInt64) (settings : Settings)
    (path : CertificationPath) : Prop where
  named : path.certificates.IsChain fun child parent => child.issuer.agrees parent.subject = true
  signed : path.certificates.IsChain fun child parent =>
    (verifiers.certificateSignature child parent).value = .ok .valid
  dated : settings.timeOfInterest now ≠ 0 → ∀ c ∈ path.target :: path.intermediates,
    c.validity.Covers (settings.timeOfInterest now).toNat
  anchorDated : settings.timeOfInterest now ≠ 0 → settings.enforceTrustAnchorValidity = true →
    path.trustAnchor.validity.Covers (settings.timeOfInterest now).toNat
  entitled : settings.enforceBasicConstraints = true → ∀ c ∈ path.intermediates, c.MayIssue
  limited : settings.enforceBasicConstraints = true → ∀ below limit,
    Limits settings path below limit → nonSelfIssued below ≤ limit.toNat

variable {verifiers : Verifiers} {now : UInt64} {settings : Settings} {path : CertificationPath}

theorem badSignature?_eq_none {child parent : Certificate} {i : Nat}
    (h : badSignature? verifiers ((child, parent), i) = none) :
    (verifiers.certificateSignature child parent).value = .ok .valid := by
  unfold badSignature? at h
  split at h
  · assumption
  · cases h
  · cases h

theorem isValid_of_firstViolation?_eq_none
    (h : path.firstViolation? verifiers now settings = none) :
    path.IsValid verifiers now settings := by
  unfold firstViolation? at h
  simp only [Option.or_eq_none_iff] at h
  obtain ⟨hnames, hsignatures, hdating, hconstraints⟩ := h
  have hrespects : settings.enforceBasicConstraints = true →
      path.constraintViolation? settings = none := by
    intro henforced
    rwa [if_pos henforced] at hconstraints
  have hcovers : settings.timeOfInterest now ≠ 0 → ∀ c ∈ path.datedCertificates settings,
      c.validity.Covers (settings.timeOfInterest now).toNat := by
    intro htime c hc
    have hzero : (settings.timeOfInterest now).toNat ≠ 0 := fun h => htime (UInt64.toNat_inj.1 h)
    unfold datingViolation? at hdating
    rw [if_neg hzero] at hdating
    obtain ⟨i, hi⟩ := List.mem_iff_getElem?.1 hc
    have hnone := List.findSome?_eq_none_iff.1 hdating _ (List.mk_mem_zipIdx_iff_getElem?.2 hi)
    cases hcheck : c.validity.check (settings.timeOfInterest now).toNat with
    | ok left => exact Validity.covers_of_check hzero hcheck
    | error status => simp [hcheck] at hnone
  refine ⟨?_, ?_, ?_, ?_, ?_, ?_⟩
  · refine isChain_of_links fun child parent i hmem => ?_
    have hname := List.findSome?_eq_none_iff.1 hnames _ hmem
    by_contra hne
    simp [hne] at hname
  · refine isChain_of_links fun child parent i hmem => ?_
    exact badSignature?_eq_none (List.findSome?_eq_none_iff.1 hsignatures _ hmem)
  · intro htime c hc
    apply hcovers htime
    rw [mem_datedCertificates_iff]
    rcases List.mem_cons.1 hc with rfl | hc
    · exact .inl rfl
    · exact .inr (.inl hc)
  · intro htime henforced
    apply hcovers htime
    rw [mem_datedCertificates_iff]
    exact .inr (.inr ⟨henforced, rfl⟩)
  · intro henforced
    exact (respects_of_constraintViolation?_eq_none (hrespects henforced)).1
  · intro henforced
    exact (respects_of_constraintViolation?_eq_none (hrespects henforced)).2

/-! ### A path with a violation -/

/-- Why a violation is one. The link from its certificate to the next does not hold, or cannot be
evaluated; or the certificate is not valid at the time; or it violates the constraints. -/
inductive Explains (verifiers : Verifiers) (now : UInt64) (settings : Settings)
    (path : CertificationPath) (v : Violation) : Prop where
  | name {parent : Certificate} (hparent : path.certificates[v.index + 1]? = some parent)
      (hname : v.certificate.issuer.agrees parent.subject = false)
      (hcause : v.cause = .pathValidation .nameChainingFailure)
  | signature {parent : Certificate} (hparent : path.certificates[v.index + 1]? = some parent)
      (hbad : (verifiers.certificateSignature v.certificate parent).value = .ok .invalid)
      (hcause : v.cause = .pathValidation .signatureVerificationFailure)
  | evaluation {parent : Certificate} (hparent : path.certificates[v.index + 1]? = some parent)
      (herror : (verifiers.certificateSignature v.certificate parent).value = .error v.cause)
  | dating {status : Status}
      (hstatus : v.certificate.validity.check (settings.timeOfInterest now).toNat = .error status)
      (hcause : v.cause = .pathValidation status)
  | constraints {status : Status} (henforced : settings.enforceBasicConstraints = true)
      (hviolates : ViolatesConstraints settings path v.certificate status)
      (hcause : v.cause = .pathValidation status)

theorem explains_of_nameViolation? {v : Violation} (h : path.nameViolation? = some v) :
    path.certificates[v.index]? = some v.certificate ∧ path.Explains verifiers now settings v := by
  obtain ⟨⟨⟨child, parent⟩, i⟩, hmem, hv⟩ := List.exists_of_findSome?_eq_some h
  obtain ⟨hchild, hparent⟩ := mem_links_iff.1 hmem
  dsimp only at hv
  by_cases hname : child.issuer.agrees parent.subject = true
  · rw [if_pos hname] at hv
    cases hv
  · rw [if_neg hname] at hv
    obtain rfl := Option.some.inj hv
    exact ⟨hchild, .name hparent (Bool.eq_false_iff.2 hname) rfl⟩

theorem explains_of_badSignature? {v : Violation}
    (h : path.links.findSome? (badSignature? verifiers) = some v) :
    path.certificates[v.index]? = some v.certificate ∧ path.Explains verifiers now settings v := by
  obtain ⟨⟨⟨child, parent⟩, i⟩, hmem, hv⟩ := List.exists_of_findSome?_eq_some h
  obtain ⟨hchild, hparent⟩ := mem_links_iff.1 hmem
  unfold badSignature? at hv
  cases houtcome : (verifiers.certificateSignature child parent).value with
  | error e =>
      simp only [houtcome] at hv
      obtain rfl := Option.some.inj hv
      exact ⟨hchild, .evaluation hparent houtcome⟩
  | ok status =>
      cases status with
      | valid => simp [houtcome] at hv
      | invalid =>
          simp only [houtcome] at hv
          obtain rfl := Option.some.inj hv
          exact ⟨hchild, .signature hparent houtcome rfl⟩

/-- What is recorded of a dating violation is about the certificate at the position given. -/
theorem check_of_datingViolation? {v : Violation}
    (h : path.datingViolation? now settings = some v) :
    v.cause = .pathValidation v.status ∧ path.certificates[v.index]? = some v.certificate ∧
      v.certificate.validity.check (settings.timeOfInterest now).toNat = .error v.status := by
  unfold datingViolation? at h
  rw [Option.ite_none_left_eq_some] at h
  obtain ⟨⟨c, i⟩, hmem, hv⟩ := List.exists_of_findSome?_eq_some h.2
  dsimp only at hv
  cases hcheck : c.validity.check (settings.timeOfInterest now).toNat with
  | ok left => simp [hcheck] at hv
  | error status =>
      simp only [hcheck] at hv
      obtain rfl := Option.some.inj hv
      exact ⟨rfl, getElem?_of_mem_dated hmem, hcheck⟩

theorem explains_of_datingViolation? {v : Violation}
    (h : path.datingViolation? now settings = some v) :
    path.certificates[v.index]? = some v.certificate ∧ path.Explains verifiers now settings v := by
  obtain ⟨hcause, hposition, hcheck⟩ := check_of_datingViolation? h
  exact ⟨hposition, .dating hcheck hcause⟩

/-- The first violation is explained, and its position is that of its certificate. -/
theorem explains_of_firstViolation? {v : Violation}
    (h : path.firstViolation? verifiers now settings = some v) :
    path.certificates[v.index]? = some v.certificate ∧ path.Explains verifiers now settings v := by
  unfold firstViolation? at h
  rcases Option.or_eq_some_iff.1 h with h | ⟨-, h⟩
  · exact explains_of_nameViolation? h
  · rcases Option.or_eq_some_iff.1 h with h | ⟨-, h⟩
    · exact explains_of_badSignature? h
    · rcases Option.or_eq_some_iff.1 h with h | ⟨-, h⟩
      · exact explains_of_datingViolation? h
      · rw [Option.ite_none_right_eq_some] at h
        obtain ⟨henforced, h⟩ := h
        obtain ⟨hposition, hcause, hviolates⟩ := violates_of_constraintViolation? h
        exact ⟨hposition, .constraints henforced hviolates hcause⟩

end CertificationPath

end TrustChain
