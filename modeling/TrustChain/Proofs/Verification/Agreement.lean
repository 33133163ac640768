import TrustChain.Proofs.Verification.Blame

/-!
# Building and validation agree

The search for a path and its validation both go by names and signatures, each in its own way: the
search compares the subject of an issuer to the issuer of a certificate, validation does it the
other way round. A path that was found therefore passes the check of names, and that of signatures
if the search looked at them too. Both see the same time, so the target does not fail again. What is
left for validation to find (`LeavesOpen`) is an issuer that is not valid at that time, or an
intermediate that may not issue what it issued.
-/

namespace TrustChain

open Check (outcome)

theorem Error.status?_eq_some_iff {e : Error} {status : Status} :
    e.status? = some status ↔ e = .pathValidation status := by
  cases e <;> simp [Error.status?]

namespace CertificationPath

/-- The failures that building leaves to validation, by the status and the position that are
recorded. Position zero is that of the target, and the trust anchor is not constrained. -/
inductive LeavesOpen (path : CertificationPath) : Status → Nat → Prop where
  | dating {status : Status} {index : Nat}
      (hstatus : status = .invalidNotBeforeDate ∨ status = .invalidNotAfterDate)
      (hpos : 1 ≤ index) (hlt : index < path.length) : LeavesOpen path status index
  | constraints {status : Status} {index : Nat}
      (hstatus : status = .missingBasicConstraints ∨ status = .invalidBasicConstraints ∨
        status = .invalidPathLength)
      (hpos : 1 ≤ index) (hle : index ≤ path.intermediates.length) : LeavesOpen path status index

theorem LeavesOpen.kind_ne {path : CertificationPath} {status : Status} {index : Nat}
    (h : path.LeavesOpen status index) : (Error.pathValidation status).kind ≠ .brokenChainLink := by
  cases h with
  | dating hstatus => rcases hstatus with rfl | rfl <;> decide
  | constraints hstatus => rcases hstatus with rfl | rfl | rfl <;> decide

theorem LeavesOpen.index_ne_zero {path : CertificationPath} {status : Status} {index : Nat}
    (h : path.LeavesOpen status index) : index ≠ 0 := by
  cases h <;> omega

theorem status_of_violatesConstraints {path : CertificationPath} {settings : Settings}
    {c : Certificate} {status : Status} (h : path.ViolatesConstraints settings c status) :
    status = .missingBasicConstraints ∨ status = .invalidBasicConstraints ∨
      status = .invalidPathLength := by
  cases h <;> simp

theorem leavesOpen_of_constraintViolation? {path : CertificationPath} {settings : Settings}
    {v : Violation} (h : path.constraintViolation? settings = some v) :
    v.cause = .pathValidation v.status ∧ path.LeavesOpen v.status v.index := by
  obtain ⟨-, hcause, hviolates⟩ := violates_of_constraintViolation? h
  obtain ⟨hpos, hat⟩ :=
    List.mk_mem_zipIdx_iff_le_and_getElem?_sub.1 (mem_zipIdx_of_constraintViolation? h)
  obtain ⟨hlt, -⟩ := List.getElem?_eq_some_iff.1 hat
  exact ⟨hcause, .constraints (status_of_violatesConstraints hviolates) hpos (by omega)⟩

/-! ### Links that have been looked at -/

section Ascends

variable {verifiers : Verifiers} {filter : Bool} {classified : ClassifiedPool}
  {target : Certificate} {path : CertificationPath}

theorem Ascends.nameViolation?_eq_none
    (hascends : path.Ascends verifiers filter classified target) : path.nameViolation? = none := by
  unfold nameViolation?
  rw [List.findSome?_eq_none_iff]
  intro ((child, parent), i) hmem
  have hcandidate := hascends.isCandidate_of_mem_links hmem
  exact if_pos ((Name.agrees_comm _ _).trans hcandidate.agrees)

theorem Ascends.badSignature?_eq_none
    (hascends : path.Ascends verifiers true classified target) :
    path.links.findSome? (badSignature? verifiers) = none := by
  rw [List.findSome?_eq_none_iff]
  intro ((child, parent), i) hmem
  have hcandidate := hascends.isCandidate_of_mem_links hmem
  unfold badSignature?
  rw [hcandidate.signed rfl]

end Ascends

end CertificationPath

namespace Environment.Builds

variable {env : Environment} {now : UInt64} {settings : Settings} {target : Certificate}
  {pool : List Certificate} {classified : ClassifiedPool} {path : CertificationPath}

theorem badSignature?_eq_none (hbuilt : env.Builds now settings target pool classified path)
    (hfilter : settings.filterWhenBuilding = true) :
    path.links.findSome? (CertificationPath.badSignature? env.verifiers) = none := by
  have hascends := hbuilt.ascends
  rw [hfilter] at hascends
  exact hascends.badSignature?_eq_none

/-- The target was valid before the search began, and the time is the same. -/
theorem leavesOpen_of_datingViolation?
    (hbuilt : env.Builds now settings target pool classified path) {v : Violation}
    (h : path.datingViolation? now settings = some v) :
    v.cause = .pathValidation v.status ∧ path.LeavesOpen v.status v.index := by
  obtain ⟨hcause, hposition, hcheck⟩ := CertificationPath.check_of_datingViolation? h
  refine ⟨hcause, .dating (Validity.status_of_check hcheck) ?_ ?_⟩
  · rw [Nat.one_le_iff_ne_zero]
    intro hzero
    have hfirst : path.target = v.certificate := by
      rw [hzero] at hposition
      exact Option.some.inj hposition
    obtain ⟨-, ⟨left, hvalid⟩, -⟩ := checkTarget_eq_ok hbuilt.checked
    rw [← hfirst, hbuilt.ascends.target_eq, hvalid] at hcheck
    cases hcheck
  · rw [← path.length_certificates]
    exact (List.getElem?_eq_some_iff.1 hposition).1

theorem leavesOpen_of_firstViolation?
    (hbuilt : env.Builds now settings target pool classified path)
    (hfilter : settings.filterWhenBuilding = true) {v : Violation}
    (h : path.firstViolation? env.verifiers now settings = some v) :
    v.cause = .pathValidation v.status ∧ path.LeavesOpen v.status v.index := by
  unfold CertificationPath.firstViolation? at h
  rw [hbuilt.ascends.nameViolation?_eq_none, hbuilt.badSignature?_eq_none hfilter, Option.none_or,
    Option.none_or, Option.or_eq_some_iff] at h
  rcases h with hdating | ⟨-, hconstraints⟩
  · exact hbuilt.leavesOpen_of_datingViolation? hdating
  · rw [Option.ite_none_right_eq_some] at hconstraints
    exact CertificationPath.leavesOpen_of_constraintViolation? hconstraints.2

theorem error_of_nameChainingFailure
    (hbuilt : env.Builds now settings target pool classified path) {v : Violation}
    (hposition : path.certificates[v.index]? = some v.certificate)
    (hexplains : path.Explains env.verifiers now settings v)
    (hcause : v.cause = .pathValidation .nameChainingFailure) :
    settings.filterWhenBuilding = false ∧ ∃ child parent, path.Follows child parent ∧
      (env.verifiers.certificateSignature child parent).value = .error v.cause := by
  cases hexplains with
  | @name parent hparent hname _ =>
      have hcandidate :=
        VerificationError.isCandidate_of_follows hbuilt ⟨v.index, hposition, hparent⟩
      rw [Name.agrees_comm, hcandidate.agrees] at hname
      cases hname
  | signature hparent hbad hstatus => cases hcause.symm.trans hstatus
  | @evaluation parent hparent herror =>
      have hfollows : path.Follows v.certificate parent := ⟨v.index, hposition, hparent⟩
      refine ⟨?_, v.certificate, parent, hfollows, herror⟩
      exact VerificationError.filter_eq_false_of_follows hbuilt hfollows (by simp [herror])
  | dating hcheck hstatus =>
      cases hcause.symm.trans hstatus
      rcases Validity.status_of_check hcheck with h | h <;> cases h
  | constraints henforced hviolates hstatus =>
      cases hcause.symm.trans hstatus
      cases hviolates

/-! ### The checks and the verdict -/

theorem outcome_checkNames (hbuilt : env.Builds now settings target pool classified path)
    (results : Results) : outcome path.checkNames results = (.ok (), results) := by
  rw [CertificationPath.checkNames, Violation.outcome_raise,
    hbuilt.ascends.nameViolation?_eq_none]

theorem outcome_checkSignatures (hbuilt : env.Builds now settings target pool classified path)
    (hfilter : settings.filterWhenBuilding = true) (results : Results) :
    outcome (path.checkSignatures env.verifiers) results = (.ok (), results) := by
  rw [CertificationPath.outcome_checkSignatures, hbuilt.badSignature?_eq_none hfilter]
  rfl

theorem index_ne_zero_of_checkValidity
    (hbuilt : env.Builds now settings target pool classified path) {later : UInt64}
    {results after : Results} {e : Error}
    (h : outcome (path.checkValidity later (settings.pin now)) results = (.error e, after)) :
    ∃ status index, e = .pathValidation status ∧ after = results.fail status index ∧
      index ≠ 0 := by
  rw [CertificationPath.outcome_checkValidity, CertificationPath.datingViolation?_pin,
    Violation.outcome_raise] at h
  split at h
  · cases h
  · rename_i v hviolation
    cases h
    obtain ⟨hcause, hopen⟩ := hbuilt.leavesOpen_of_datingViolation? hviolation
    exact ⟨v.status, v.index, hcause, rfl, hopen.index_ne_zero⟩

theorem leavesOpen_of_validate (hbuilt : env.Builds now settings target pool classified path)
    (hfilter : settings.filterWhenBuilding = true) {later : UInt64} {results after : Results}
    {e : Error}
    (h : outcome (path.validate env.verifiers later (settings.pin now)) results =
      (.error e, after)) :
    ∃ status index, e = .pathValidation status ∧ after = results.fail status index ∧
      path.LeavesOpen status index := by
  rw [CertificationPath.outcome_validate, CertificationPath.firstViolation?_pin] at h
  split at h
  · cases h
  · rename_i v hviolation
    cases h
    obtain ⟨hcause, hopen⟩ := hbuilt.leavesOpen_of_firstViolation? hfilter hviolation
    exact ⟨v.status, v.index, hcause, rfl, hopen⟩

theorem kind_ne_brokenChainLink (henv : env.validators = [.builtin])
    (hbuilt : env.Builds now settings target pool classified path)
    (hfilter : settings.filterWhenBuilding = true) {e : VerificationError}
    (h : (env.verify now settings (some target) pool).value = .error e) :
    e.kind ≠ .brokenChainLink := by
  obtain ⟨v, hviolation, -, -, rfl⟩ := hbuilt.violation_of_verify henv h
  obtain ⟨hcause, hopen⟩ := hbuilt.leavesOpen_of_firstViolation? hfilter hviolation
  have hkind := hopen.kind_ne
  rw [← hcause] at hkind
  exact hkind

end Environment.Builds

/-- **Building and validation agree.** A path that is found passes the check of names and, if
signatures were filtered, that of signatures; and its target is valid at the time of interest. With
the filter, validation of the path fails with what building leaves open and nothing else, and the
failure of verification is not a broken link. Without it, a failure to chain by name is reported
only where that is the error with which the verifiers answered for a link of the path. -/
theorem Environment.Builds.validation_agrees {env : Environment} {now : UInt64}
    {settings : Settings} {target : Certificate} {pool : List Certificate}
    {classified : ClassifiedPool} {path : CertificationPath} (henv : env.validators = [.builtin])
    (hbuilt : env.Builds now settings target pool classified path) :
    (∀ results, outcome path.checkNames results = (.ok (), results)) ∧
    (settings.filterWhenBuilding = true → ∀ results,
      outcome (path.checkSignatures env.verifiers) results = (.ok (), results)) ∧
    (∀ later results e after,
      outcome (path.checkValidity later (settings.pin now)) results = (.error e, after) →
      ∃ status index, e = .pathValidation status ∧ after = results.fail status index ∧
        index ≠ 0) ∧
    (settings.filterWhenBuilding = true → ∀ later results e after,
      outcome (path.validate env.verifiers later (settings.pin now)) results = (.error e, after) →
      ∃ status index, e = .pathValidation status ∧ after = results.fail status index ∧
        path.LeavesOpen status index) ∧
    ∀ e, (env.verify now settings (some target) pool).value = .error e →
      (settings.filterWhenBuilding = true → e.kind ≠ .brokenChainLink) ∧
      (e.status? = some .nameChainingFailure → settings.filterWhenBuilding = false ∧
        ∃ child parent, path.Follows child parent ∧
          (env.verifiers.certificateSignature child parent).value = .error e.cause) := by
  refine ⟨hbuilt.outcome_checkNames, hbuilt.outcome_checkSignatures, ?_, ?_, ?_⟩
  · intro later results e after h
    exact hbuilt.index_ne_zero_of_checkValidity h
  · intro hfilter later results e after h
    exact hbuilt.leavesOpen_of_validate hfilter h
  · intro e h
    constructor
    · intro hfilter
      exact hbuilt.kind_ne_brokenChainLink henv hfilter h
    · intro hstatus
      obtain ⟨v, -, hposition, hexplains, rfl⟩ := hbuilt.violation_of_verify henv h
      have hcause := Error.status?_eq_some_iff.1 hstatus
      exact hbuilt.error_of_nameChainingFailure hposition hexplains hcause

namespace Sample

/-- With two intermediates allowed, the path through the mesh is found and fails at the lowest of
the three, which is one of the failures that building leaves open. -/
theorem leavesOpen_mesh :
    environment.validators = [.builtin] ∧
    environment.Builds now (Settings.empty.setInitialPathLength 2) leaf mesh sortedMesh
      ⟨root, [lower, back, upper], leaf⟩ ∧
    ∃ status index after, outcome ((CertificationPath.mk root [lower, back, upper] leaf).validate
        environment.verifiers now ((Settings.empty.setInitialPathLength 2).pin now)) .empty =
          (.error (.pathValidation status), after) ∧
      (CertificationPath.mk root [lower, back, upper] leaf).LeavesOpen status index := by
  have hbuilt := @builds_mesh (Settings.empty.setInitialPathLength 2) rfl rfl
  obtain ⟨-, -, -, hvalidate, -⟩ := hbuilt.validation_agrees rfl
  have hfailed : ∃ e after, outcome ((CertificationPath.mk root [lower, back, upper] leaf).validate
      environment.verifiers now ((Settings.empty.setInitialPathLength 2).pin now)) .empty =
        (.error e, after) := ⟨_, _, rfl⟩
  obtain ⟨e, after, h⟩ := hfailed
  obtain ⟨status, index, rfl, -, hopen⟩ := hvalidate rfl now .empty e after h
  exact ⟨rfl, hbuilt, status, index, after, h, hopen⟩

/-- Fails with the error of names that do not chain. -/
def misleading : SignatureVerifier :=
  ⟨none, fun _ => pure (.error (.pathValidation .nameChainingFailure))⟩

/-- A verifier may itself answer that names do not chain. Without the filter its answer is reported
for a path on which they do. -/
theorem misleading_error_breaks_chain :
    ∃ e, (Environment.mk [verifier, misleading] [.builtin]).Builds now
        (Settings.empty.setFilterWhenBuilding false) leaf [unreadable, otherRoot]
        ⟨[otherRoot], [unreadable]⟩ ⟨otherRoot, [unreadable], leaf⟩ ∧
      (CertificationPath.mk otherRoot [unreadable] leaf).nameViolation? = none ∧
      ((Environment.mk [verifier, misleading] [.builtin]).verify now
        (Settings.empty.setFilterWhenBuilding false) (some leaf) [unreadable, otherRoot]).value =
          .error e ∧
      e.status? = some .nameChainingFailure ∧ e.kind = .brokenChainLink := by
  have hclassified :
      (ClassifiedPool.classify [verifier, misleading] [unreadable, otherRoot]).value =
        .ok ⟨[otherRoot], [unreadable]⟩ := rfl
  have hfound : (CertificationPath.find [verifier, misleading]
      (Settings.empty.setFilterWhenBuilding false) leaf ⟨[otherRoot], [unreadable]⟩).value =
        .ok ⟨otherRoot, [unreadable], leaf⟩ := by
    rw [CertificationPath.find_eq_ok_iff hclassified]
    exact ⟨⟨[unreadable], otherRoot⟩, rfl, by decide +kernel⟩
  have hbuilt : (Environment.mk [verifier, misleading] [.builtin]).Builds now
      (Settings.empty.setFilterWhenBuilding false) leaf [unreadable, otherRoot]
      ⟨[otherRoot], [unreadable]⟩ ⟨otherRoot, [unreadable], leaf⟩ := ⟨rfl, hclassified, hfound⟩
  refine ⟨_, hbuilt, rfl, hbuilt.value_verify rfl, rfl, rfl⟩

end Sample

end TrustChain
