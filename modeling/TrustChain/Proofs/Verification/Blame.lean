import TrustChain.Proofs.Name.Matching
import TrustChain.Proofs.Path.Reachability
import TrustChain.Proofs.Verification.Stages

/-!
# Failures are justified

The error of a verification is of some kind and names a certificate, and for a link the issuer as
well. Each kind stands for a fact about the certificates named (`IsJustified`), and the fact holds
whichever stage the error comes from. Verifiers with errors that are statuses of path validation are
left out, because nobody could tell such an error from one that the stage itself reports.
-/

namespace TrustChain

/-! ### Errors of verifiers -/

namespace Verifiers

/-- The errors of the verifiers are not statuses of path validation. -/
def ReportNoStatus (verifiers : Verifiers) : Prop :=
  ∀ verifier ∈ verifiers, ∀ query status,
    (verifier.evaluate query).value ≠ .error (.pathValidation status)

variable {verifiers : Verifiers}

theorem error_of_answerOr {query : SignatureQuery} {error e : Error}
    (h : (answerOr query error verifiers).value = .error e) :
    e = error ∨ ∃ verifier ∈ verifiers, (verifier.evaluate query).value = .error e := by
  induction verifiers generalizing error with
  | nil => exact .inl (Except.error.inj h).symm
  | cons verifier rest ih =>
      have hconsult : (verifier.consult query).value = (verifier.evaluate query).value := rfl
      rw [answerOr, Journaled.value_bind, hconsult] at h
      cases hanswer : (verifier.evaluate query).value with
      | ok status => simp [hanswer] at h
      | error failure =>
          simp only [hanswer] at h
          rcases ih h with rfl | ⟨other, hmem, hother⟩
          · exact .inr ⟨verifier, List.mem_cons_self, hanswer⟩
          · exact .inr ⟨other, List.mem_cons_of_mem _ hmem, hother⟩

/-- A signature that cannot be evaluated is a failure of that kind. -/
theorem kind_of_certificateSignature (hquiet : verifiers.ReportNoStatus) {c issuer : Certificate}
    {e : Error} (h : (verifiers.certificateSignature c issuer).value = .error e) :
    e.kind = .cryptoEvaluationFailure := by
  have hcause : ∀ status, e ≠ .pathValidation status := by
    intro status heq
    unfold certificateSignature at h
    split at h
    · cases h
    · split at h
      · rename_i failure hportion
        obtain rfl : failure = e := Except.error.inj h
        unfold Certificate.signedPortion at hportion
        cases hencoding : signedPortion c.encoding with
        | ok message => simp [hencoding, Except.mapError] at hportion
        | error problem =>
            rw [hencoding] at hportion
            cases (Except.error.inj hportion).trans heq
      · rcases error_of_answerOr h with hunrecognized | ⟨verifier, hmem, herror⟩
        · cases hunrecognized.symm.trans heq
        · exact hquiet verifier hmem _ status (heq ▸ herror)
  cases e with
  | pathValidation status => exact absurd rfl (hcause status)
  | _ => rfl

theorem certificateSignature_of_isSelfSigned {c : Certificate} {e : Error}
    (h : (verifiers.isSelfSigned c).value = .error e) :
    (verifiers.certificateSignature c c).value = .error e := by
  have hmap : (verifiers.isSelfSigned c).value =
      (verifiers.certificateSignature c c).value.map SignatureStatus.isValid := rfl
  rw [hmap] at h
  cases hsignature : (verifiers.certificateSignature c c).value with
  | ok status => simp [hsignature, Except.map] at h
  | error failure => simpa [hsignature, Except.map] using h

end Verifiers

/-! ### What an error stands for -/

/-- Two certificates of a path of which the second follows the first. -/
def CertificationPath.Follows (path : CertificationPath) (child parent : Certificate) : Prop :=
  ∃ i, path.certificates[i]? = some child ∧ path.certificates[i + 1]? = some parent

namespace VerificationError

/-- An error names a certificate, and an issuer if there is one to name. -/
def Names (e : VerificationError) (c : Certificate) (issuer : Option Certificate) : Prop :=
  e.subject = some c.subjectText ∧ e.issuerSubject = issuer.map Certificate.subjectText

/-- A signature could not be evaluated: that of the target or of a member of the pool with its own
key, one that the search came across, or one on the path that was found by names alone. -/
inductive IsUnevaluated (env : Environment) (now : UInt64) (settings : Settings)
    (target : Option Certificate) (pool : List Certificate) (e : VerificationError) : Prop where
  | alone {c : Certificate} (hplace : target = some c ∨ c ∈ pool)
      (herror : (env.verifiers.isSelfSigned c).value = .error e.cause) (hnames : e.Names c none)
  | searched {c child parent : Certificate} {classified : ClassifiedPool}
      (hfilter : settings.filterWhenBuilding = true) (htarget : target = some c)
      (hsorted : (ClassifiedPool.classify env.verifiers pool).value = .ok classified)
      (hreached : classified.Reaches env.verifiers.IsSigned c child)
      (hmem : parent ∈ classified.members)
      (herror : env.verifiers.FailsWith child parent e.cause) (hnames : e.Names child (some parent))
  | onPath {c child parent : Certificate} {classified : ClassifiedPool} {path : CertificationPath}
      (hfilter : settings.filterWhenBuilding = false) (htarget : target = some c)
      (hbuilt : env.Builds now settings c pool classified path)
      (hfollows : path.Follows child parent)
      (herror : (env.verifiers.certificateSignature child parent).value = .error e.cause)
      (hnames : e.Names child (some parent))

/-- What the kind of an error says of the certificates that the error names. -/
def IsJustified (env : Environment) (now : UInt64) (settings : Settings)
    (target : Option Certificate) (pool : List Certificate) (e : VerificationError) : Prop :=
  match e.kind with
  | .absentCertificate => target = none ∧ e.subject = none
  | .expired =>
    ∃ c status,
      (target = some c ∨ ∃ leaf classified path, target = some leaf ∧
        env.Builds now settings leaf pool classified path ∧ c ∈ path.certificates) ∧
      (c.validAt (settings.timeOfInterest now).toNat false).value = .error status ∧
      e.status? = some status ∧ e.Names c none ∧ e.validity = some c.validity
  | .selfSignedLeaf =>
    ∃ c, target = some c ∧ (env.verifiers.isSelfSigned c).value = .ok true ∧ e.Names c none
  | .noPathFound =>
    ∃ c classified, target = some c ∧
      (ClassifiedPool.classify env.verifiers pool).value = .ok classified ∧
      (∀ path : CertificationPath,
        ¬ path.Ascends env.verifiers settings.filterWhenBuilding classified c) ∧
      e.Names c none
  | .brokenChainLink =>
    settings.filterWhenBuilding = false ∧
    ∃ c classified path child parent, target = some c ∧
      env.Builds now settings c pool classified path ∧ path.Follows child parent ∧
      (env.verifiers.certificateSignature child parent).value = .ok .invalid ∧
      e.Names child (some parent)
  | .constraintViolation =>
    settings.enforceBasicConstraints = true ∧
    ∃ c classified path culprit status, target = some c ∧
      env.Builds now settings c pool classified path ∧
      path.ViolatesConstraints settings culprit status ∧ e.status? = some status ∧
      e.Names culprit none
  | .cryptoEvaluationFailure => IsUnevaluated env now settings target pool e

/-! ### The stages -/

variable {env : Environment} {now : UInt64} {settings : Settings} {target : Option Certificate}
  {pool : List Certificate}

theorem names_ofCause (cause : Error) (c : Certificate) :
    (ofCause cause (some c) none).Names c none := by
  refine ⟨rfl, ?_⟩
  unfold ofCause
  dsimp only
  split <;> rfl

/-- An error that cannot be mistaken for a status is about the evaluation of a signature. -/
theorem isJustified_of_isUnevaluated {e : VerificationError}
    (hkind : e.cause.kind = .cryptoEvaluationFailure)
    (h : IsUnevaluated env now settings target pool e) :
    e.IsJustified env now settings target pool := by
  have hkind : e.kind = .cryptoEvaluationFailure := hkind
  unfold IsJustified
  rw [hkind]
  exact h

theorem names_ofCause_of_unevaluated {cause : Error} (hkind : cause.kind = .cryptoEvaluationFailure)
    (child parent : Certificate) :
    (ofCause cause (some child) (some parent)).Names child (some parent) := by
  refine ⟨rfl, ?_⟩
  unfold ofCause
  simp only [hkind]

theorem kind_of_check {validity : Validity} {time : Nat} {status : Status}
    (h : validity.check time = .error status) : status.kind? = some .expired := by
  rcases Validity.status_of_check h with rfl | rfl <;> rfl

theorem isJustified_of_expired {c : Certificate} {issuer : Option Certificate} {status : Status}
    (hplace : target = some c ∨ ∃ leaf classified path, target = some leaf ∧
      env.Builds now settings leaf pool classified path ∧ c ∈ path.certificates)
    (hstatus : c.validity.check (settings.timeOfInterest now).toNat = .error status) :
    (ofCause (.pathValidation status) (some c) issuer).IsJustified env now settings target
      pool := by
  have hcause : (Error.pathValidation status).kind = .expired := by
    unfold Error.kind
    dsimp only
    rw [kind_of_check hstatus]
    rfl
  have hkind : (ofCause (.pathValidation status) (some c) issuer).kind = .expired := hcause
  unfold IsJustified
  rw [hkind]
  refine ⟨c, status, hplace, ?_, rfl, ⟨rfl, ?_⟩, ?_⟩
  · rw [Certificate.value_validAt]
    exact hstatus
  · unfold ofCause
    simp only [hcause]
    rfl
  · unfold ofCause
    simp only [hcause]
    rfl

theorem isJustified_of_target (hquiet : env.verifiers.ReportNoStatus) {cause : Error}
    (h : (checkTarget env.verifiers now settings target).value = .error cause) :
    (ofCause cause target none).IsJustified env now settings target pool := by
  rw [value_checkTarget] at h
  split at h
  · cases h
    exact ⟨rfl, rfl⟩
  · rename_i c
    split at h
    · rename_i status hstatus
      cases h
      exact isJustified_of_expired (.inl rfl) hstatus
    · split at h
      · rename_i failure herror
        cases h
        have hkind := Verifiers.kind_of_certificateSignature hquiet
          (Verifiers.certificateSignature_of_isSelfSigned herror)
        exact isJustified_of_isUnevaluated hkind
          (.alone (.inl rfl) herror (names_ofCause cause c))
      · rename_i hself
        cases h
        exact ⟨c, rfl, hself, names_ofCause _ c⟩
      · cases h

theorem isJustified_of_pool (hquiet : env.verifiers.ReportNoStatus) {fault : Fault}
    (h : (ClassifiedPool.classify env.verifiers pool).value = .error fault) :
    (ofFault fault).IsJustified env now settings target pool := by
  obtain ⟨hmem, hissuer, herror⟩ := ClassifiedPool.classifyUnseen_fault h
  have hkind := Verifiers.kind_of_certificateSignature hquiet
    (Verifiers.certificateSignature_of_isSelfSigned herror)
  unfold ofFault
  rw [hissuer]
  exact isJustified_of_isUnevaluated hkind
    (.alone (.inr hmem) herror (names_ofCause fault.error fault.certificate))

theorem isJustified_of_search (hquiet : env.verifiers.ReportNoStatus) {c : Certificate}
    {classified : ClassifiedPool} {fault : Fault}
    (hsorted : (ClassifiedPool.classify env.verifiers pool).value = .ok classified)
    (h : (CertificationPath.find env.verifiers settings c classified).value = .error fault) :
    (ofFault fault).IsJustified env now settings (some c) pool := by
  have hnone := CertificationPath.not_ascends_of_find hsorted h
  rw [CertificationPath.value_find] at h
  rcases hrun : PathSearch.run env.verifiers settings.filterWhenBuilding classified c with
    ⟨found, search⟩
  rw [hrun] at h
  cases found with
  | some ascent => cases h
  | none =>
      dsimp only at h
      cases hfault : search.fault? with
      | none =>
          rw [hfault] at h
          cases h
          exact ⟨c, classified, rfl, hsorted, hnone, names_ofCause _ c⟩
      | some reported =>
          rw [hfault] at h
          cases h
          have hrecorded : (PathSearch.run env.verifiers settings.filterWhenBuilding classified
              c).2.fault? = some fault := by
            rw [hrun, hfault]
          obtain ⟨hfilter, parent, hissuer, hmem, hexplored, hfails⟩ :=
            failsWith_of_fault? hrecorded
          rw [hfilter] at hexplored
          have hkind := Verifiers.kind_of_certificateSignature hquiet hfails.2
          unfold ofFault
          rw [hissuer]
          exact isJustified_of_isUnevaluated hkind
            (.searched hfilter rfl hsorted (reaches_of_explored hexplored) hmem hfails
              (names_ofCause_of_unevaluated hkind fault.certificate parent))

/-- The search has looked at the links of a path it found: each has the right names, and where
signatures were filtered the signature was good. -/
theorem isCandidate_of_follows {c child parent : Certificate} {classified : ClassifiedPool}
    {path : CertificationPath} (hbuilt : env.Builds now settings c pool classified path)
    (hfollows : path.Follows child parent) :
    env.verifiers.IsCandidate settings.filterWhenBuilding child parent := by
  obtain ⟨i, hlink⟩ := hfollows
  exact hbuilt.ascends.isCandidate_of_mem_links (CertificationPath.mem_links_iff.2 hlink)

theorem filter_eq_false_of_follows {c child parent : Certificate} {classified : ClassifiedPool}
    {path : CertificationPath} (hbuilt : env.Builds now settings c pool classified path)
    (hfollows : path.Follows child parent)
    (hbad : (env.verifiers.certificateSignature child parent).value ≠ .ok .valid) :
    settings.filterWhenBuilding = false := by
  by_contra hfilter
  have hcandidate := isCandidate_of_follows hbuilt hfollows
  exact hbad (hcandidate.signed (by simpa using hfilter))

theorem kind_of_violatesConstraints {path : CertificationPath} {c : Certificate} {status : Status}
    (h : path.ViolatesConstraints settings c status) :
    (Error.pathValidation status).kind = .constraintViolation := by
  cases h <;> rfl

theorem isJustified_of_path (hquiet : env.verifiers.ReportNoStatus) {c : Certificate}
    {classified : ClassifiedPool} {path : CertificationPath} {v : Violation}
    (hbuilt : env.Builds now settings c pool classified path)
    (hposition : path.certificates[v.index]? = some v.certificate)
    (hexplains : path.Explains env.verifiers now settings v) :
    (ofCause v.cause (some v.certificate) path.certificates[v.index + 1]?).IsJustified env now
      settings (some c) pool := by
  cases hexplains with
  | @name parent hparent hname hcause =>
      -- the search compared the same two names, in the other order
      have hcandidate := isCandidate_of_follows hbuilt ⟨v.index, hposition, hparent⟩
      rw [Name.agrees_comm, hcandidate.agrees] at hname
      cases hname
  | @signature parent hparent hbad hcause =>
      have hfollows : path.Follows v.certificate parent := ⟨v.index, hposition, hparent⟩
      have hfilter := filter_eq_false_of_follows hbuilt hfollows (by simp [hbad])
      rw [hcause, hparent]
      exact ⟨hfilter, c, classified, path, v.certificate, parent, rfl, hbuilt, hfollows, hbad,
        rfl, rfl⟩
  | @evaluation parent hparent herror =>
      have hfollows : path.Follows v.certificate parent := ⟨v.index, hposition, hparent⟩
      have hfilter := filter_eq_false_of_follows hbuilt hfollows (by simp [herror])
      have hkind := Verifiers.kind_of_certificateSignature hquiet herror
      rw [hparent]
      exact isJustified_of_isUnevaluated hkind (.onPath hfilter rfl hbuilt hfollows herror
        (names_ofCause_of_unevaluated hkind v.certificate parent))
  | dating hstatus hcause =>
      rw [hcause]
      exact isJustified_of_expired
        (.inr ⟨c, classified, path, rfl, hbuilt, List.mem_of_getElem? hposition⟩) hstatus
  | @constraints status henforced hviolates hcause =>
      rw [hcause]
      have hkind := kind_of_violatesConstraints hviolates
      have hnames : (ofCause (.pathValidation status) (some v.certificate)
          path.certificates[v.index + 1]?).Names v.certificate none := by
        refine ⟨rfl, ?_⟩
        unfold ofCause
        simp only [hkind]
        rfl
      have hkind : (ofCause (.pathValidation status) (some v.certificate)
          path.certificates[v.index + 1]?).kind = .constraintViolation := hkind
      unfold IsJustified
      rw [hkind]
      exact ⟨henforced, c, classified, path, v.certificate, status, rfl, hbuilt, hviolates, rfl,
        hnames⟩

end VerificationError

/-- **Every failure is justified.** With the built-in validator alone, and verifiers whose errors
are not statuses, the kind of an error is true of the certificates that the error names. -/
theorem Environment.verify_error_isJustified {env : Environment} {now : UInt64}
    {settings : Settings} {target : Option Certificate} {pool : List Certificate}
    {e : VerificationError} (henv : env.validators = [.builtin])
    (hquiet : env.verifiers.ReportNoStatus)
    (h : (env.verify now settings target pool).value = .error e) :
    e.IsJustified env now settings target pool := by
  cases verify_eq_error henv h with
  | target hrefused => exact VerificationError.isJustified_of_target hquiet hrefused
  | pool hunsorted => exact VerificationError.isJustified_of_pool hquiet hunsorted
  | search hsorted hnotFound =>
      exact VerificationError.isJustified_of_search hquiet hsorted hnotFound
  | path hbuilt hexplains hposition =>
      exact VerificationError.isJustified_of_path hquiet hbuilt hposition hexplains

namespace Sample

theorem reportNoStatus_verifier : Verifiers.ReportNoStatus [verifier] := by
  intro v hv query status
  obtain rfl := List.mem_singleton.1 hv
  unfold verifier
  dsimp only
  rw [Journaled.value_pure]
  split
  · simp
  · split
    · simp
    · split
      · simp
      · simp

/-- With two intermediates allowed, the lowest of the three in the mesh is one too many. -/
theorem verify_blames_lower :
    environment.validators = [.builtin] ∧ environment.verifiers.ReportNoStatus ∧
    (environment.verify now (Settings.empty.setInitialPathLength 2) (some leaf) mesh).value =
      .error (.ofCause (.pathValidation .invalidPathLength) (some lower) (some back)) ∧
    (VerificationError.ofCause (.pathValidation .invalidPathLength) (some lower)
      (some back)).IsJustified environment now (Settings.empty.setInitialPathLength 2)
        (some leaf) mesh := by
  have hbuilt := @builds_mesh (Settings.empty.setInitialPathLength 2) rfl rfl
  have hviolation : (CertificationPath.mk root [lower, back, upper] leaf).firstViolation?
      environment.verifiers now (Settings.empty.setInitialPathLength 2) =
        some (.ofStatus lower "path length constraint violation" .invalidPathLength 1) := rfl
  have hfailed : (environment.verify now (Settings.empty.setInitialPathLength 2) (some leaf)
      mesh).value =
        .error (.ofCause (.pathValidation .invalidPathLength) (some lower) (some back)) := by
    rw [hbuilt.value_verify rfl, hviolation]
    dsimp only
    rw [Environment.ofPath_fail rfl]
    rfl
  exact ⟨rfl, reportNoStatus_verifier, hfailed,
    Environment.verify_error_isJustified rfl reportNoStatus_verifier hfailed⟩

end Sample

end TrustChain
