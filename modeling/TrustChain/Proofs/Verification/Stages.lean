import TrustChain.Verification
import TrustChain.Proofs.Path.Building
import TrustChain.Proofs.Path.Validation

/-!
# The stages of verification

Verification checks the target, classifies the pool, finds a path and validates it. Each stage has a
value that does not depend on the journal, and the first that fails decides (`value_verify`). The
time of interest is pinned beforehand; that changes neither the time nor any other setting, so all
stages may be said to read the settings as they were given.
-/

namespace TrustChain

/-! ### The pinned time -/

namespace Settings

variable (settings : Settings) (now : UInt64)

/-- A later reading of the clock does not count. -/
theorem timeOfInterest_pin (later : UInt64) :
    (settings.pin now).timeOfInterest later = settings.timeOfInterest now := by
  have hstated : (settings.pin now).statedTime? = some (settings.timeOfInterest now) := by
    unfold statedTime? pin setTimeOfInterest set
    rw [Record.get?_insert_self]
  unfold timeOfInterest
  rw [hstated, Option.getD_some]
  rfl

theorem get?_pin {name : String} (h : name ≠ timeOfInterestName) :
    (settings.pin now).record.get? name = settings.record.get? name :=
  Record.get?_insert_of_ne _ h _

theorem flag_pin {name : String} (h : name ≠ timeOfInterestName) (default : Bool) :
    (settings.pin now).flag name default = settings.flag name default := by
  unfold flag
  rw [get?_pin settings now h]

theorem initialPathLength_pin :
    (settings.pin now).initialPathLength = settings.initialPathLength := by
  unfold initialPathLength
  rw [get?_pin settings now (by decide)]

end Settings

theorem value_checkTarget_pin (verifiers : Verifiers) (now : UInt64) (settings : Settings)
    (target : Option Certificate) :
    (checkTarget verifiers now (settings.pin now) target).value =
      (checkTarget verifiers now settings target).value := by
  rw [value_checkTarget, value_checkTarget, Settings.timeOfInterest_pin]

namespace CertificationPath

theorem value_find_pin (verifiers : Verifiers) (now : UInt64) (settings : Settings)
    (target : Certificate) (pool : ClassifiedPool) :
    (find verifiers (settings.pin now) target pool).value =
      (find verifiers settings target pool).value := by
  have hfilter : (settings.pin now).filterWhenBuilding = settings.filterWhenBuilding :=
    settings.flag_pin now (by decide) true
  rw [value_find, value_find, hfilter]

theorem datingViolation?_pin (now later : UInt64) (settings : Settings)
    (path : CertificationPath) :
    path.datingViolation? later (settings.pin now) = path.datingViolation? now settings := by
  have hdated : (settings.pin now).enforceTrustAnchorValidity =
      settings.enforceTrustAnchorValidity := settings.flag_pin now (by decide) true
  unfold datingViolation? validityViolation? datedCertificates
  rw [Settings.timeOfInterest_pin, hdated]

theorem firstViolation?_pin (verifiers : Verifiers) (now later : UInt64) (settings : Settings)
    (path : CertificationPath) :
    path.firstViolation? verifiers later (settings.pin now) =
      path.firstViolation? verifiers now settings := by
  have hanchor : (settings.pin now).enforceTrustAnchorConstraints =
      settings.enforceTrustAnchorConstraints := settings.flag_pin now (by decide) false
  have hconstraints : (settings.pin now).enforceBasicConstraints =
      settings.enforceBasicConstraints := settings.flag_pin now (by decide) true
  unfold firstViolation? constraintViolation? initialBudget
  rw [datingViolation?_pin, Settings.initialPathLength_pin, hanchor, hconstraints]

end CertificationPath

/-- The links of a path are those that a search follows. -/
theorem CertificationPath.Ascends.isCandidate_of_mem_links {verifiers : Verifiers} {filter : Bool}
    {classified : ClassifiedPool} {target : Certificate} {path : CertificationPath}
    (hascends : path.Ascends verifiers filter classified target) {child parent : Certificate}
    {i : Nat} (hmem : ((child, parent), i) ∈ path.links) :
    verifiers.IsCandidate filter child parent := by
  obtain ⟨hchild, hparent⟩ := mem_links_iff.1 hmem
  obtain ⟨hlt, rfl⟩ := List.getElem?_eq_some_iff.1 hchild
  obtain ⟨hnext, rfl⟩ := List.getElem?_eq_some_iff.1 hparent
  exact List.isChain_iff_getElem.1 hascends.linked i hnext

/-! ### The four stages -/

/-- How verification reports what the validators decide about a path. -/
def CertificationPath.report (path : CertificationPath) :
    Except Error Unit × Results → Except VerificationError VerifiedChain
  | (.error e, results) => .error (.ofPath e path results)
  | (.ok (), _) => .ok (.ofPath path)

/-- The stages in turn. The validators' verdict on the path that is found comes last. -/
theorem Environment.value_verify_eq (env : Environment) (now : UInt64) (settings : Settings)
    (target : Option Certificate) (pool : List Certificate) :
    (env.verify now settings target pool).value =
      match (checkTarget env.verifiers now settings target).value with
      | .error e => .error (.ofCause e target none)
      | .ok c =>
        match (ClassifiedPool.classify env.verifiers pool).value with
        | .error fault => .error (.ofFault fault)
        | .ok classified =>
          match (CertificationPath.find env.verifiers settings c classified).value with
          | .error fault => .error (.ofFault fault)
          | .ok path =>
            path.report (Check.outcome (env.validatePath now (settings.pin now) path) .empty) := by
  unfold verify
  rw [Journaled.value_bind, value_checkTarget_pin]
  cases (checkTarget env.verifiers now settings target).value with
  | error e => rfl
  | ok c =>
      dsimp only
      rw [Journaled.value_bind]
      cases (ClassifiedPool.classify env.verifiers pool).value with
      | error fault => rfl
      | ok classified =>
          dsimp only
          rw [Journaled.value_bind, CertificationPath.value_find_pin]
          cases (CertificationPath.find env.verifiers settings c classified).value with
          | error fault => rfl
          | ok path =>
              unfold Check.outcome
              dsimp only
              rw [Journaled.value_bind]
              rcases ((env.validatePath now (settings.pin now) path).run.run .empty).value
                with ⟨e | u, results⟩ <;> rfl

/-- The built-in validator's verdict on a path, as verification reports it. -/
theorem Environment.report_validatePath {env : Environment} (henv : env.validators = [.builtin])
    (now : UInt64) (settings : Settings) (path : CertificationPath) :
    path.report (Check.outcome (env.validatePath now (settings.pin now) path) .empty) =
      match path.firstViolation? env.verifiers now settings with
      | some v => .error (.ofPath v.cause path (Results.empty.fail v.status v.index))
      | none => .ok (.ofPath path) := by
  rw [outcome_validatePath henv, CertificationPath.outcome_validate,
    CertificationPath.firstViolation?_pin]
  cases path.firstViolation? env.verifiers now settings with
  | none => rfl
  | some v => rfl

theorem Environment.value_verify {env : Environment} (henv : env.validators = [.builtin])
    (now : UInt64) (settings : Settings) (target : Option Certificate) (pool : List Certificate) :
    (env.verify now settings target pool).value =
      match (checkTarget env.verifiers now settings target).value with
      | .error e => .error (.ofCause e target none)
      | .ok c =>
        match (ClassifiedPool.classify env.verifiers pool).value with
        | .error fault => .error (.ofFault fault)
        | .ok classified =>
          match (CertificationPath.find env.verifiers settings c classified).value with
          | .error fault => .error (.ofFault fault)
          | .ok path =>
            match path.firstViolation? env.verifiers now settings with
            | some v => .error (.ofPath v.cause path (Results.empty.fail v.status v.index))
            | none => .ok (.ofPath path) := by
  rw [value_verify_eq]
  simp only [report_validatePath henv]

namespace Environment

/-- A path is found for a target that passes its checks, in a pool that can be classified. -/
structure Builds (env : Environment) (now : UInt64) (settings : Settings) (target : Certificate)
    (pool : List Certificate) (classified : ClassifiedPool) (path : CertificationPath) : Prop where
  checked : (checkTarget env.verifiers now settings (some target)).value = .ok target
  sorted : (ClassifiedPool.classify env.verifiers pool).value = .ok classified
  found : (CertificationPath.find env.verifiers settings target classified).value = .ok path

variable {env : Environment} {now : UInt64} {settings : Settings} {target : Option Certificate}
  {pool : List Certificate}

theorem Builds.ascends {c : Certificate} {classified : ClassifiedPool} {path : CertificationPath}
    (hbuilt : env.Builds now settings c pool classified path) :
    path.Ascends env.verifiers settings.filterWhenBuilding classified c :=
  CertificationPath.ascends_of_find hbuilt.sorted hbuilt.found

/-- Once a path is found, the validators decide. -/
theorem Builds.value_verify_eq {c : Certificate} {classified : ClassifiedPool}
    {path : CertificationPath} (hbuilt : env.Builds now settings c pool classified path) :
    (env.verify now settings (some c) pool).value =
      path.report (Check.outcome (env.validatePath now (settings.pin now) path) .empty) := by
  rw [Environment.value_verify_eq, hbuilt.checked]
  dsimp only
  rw [hbuilt.sorted]
  dsimp only
  rw [hbuilt.found]

/-- Once a path is found, its validation decides. -/
theorem Builds.value_verify (henv : env.validators = [.builtin]) {c : Certificate}
    {classified : ClassifiedPool} {path : CertificationPath}
    (hbuilt : env.Builds now settings c pool classified path) :
    (env.verify now settings (some c) pool).value =
      match path.firstViolation? env.verifiers now settings with
      | some v => .error (.ofPath v.cause path (Results.empty.fail v.status v.index))
      | none => .ok (.ofPath path) := by
  rw [hbuilt.value_verify_eq, report_validatePath henv]

theorem verify_eq_ok (henv : env.validators = [.builtin]) {chain : VerifiedChain}
    (h : (env.verify now settings target pool).value = .ok chain) :
    ∃ c classified path, target = some c ∧ env.Builds now settings c pool classified path ∧
      path.firstViolation? env.verifiers now settings = none ∧ chain = .ofPath path := by
  rw [value_verify henv] at h
  split at h
  · cases h
  · rename_i c hchecked
    obtain ⟨rfl, -⟩ := checkTarget_eq_ok hchecked
    split at h
    · cases h
    · rename_i classified hsorted
      split at h
      · cases h
      · rename_i path hfound
        split at h
        · cases h
        · rename_i hnone
          cases h
          exact ⟨c, classified, path, rfl, ⟨hchecked, hsorted, hfound⟩, hnone, rfl⟩

/-- The recorded position is that of the certificate that violates the rules, so the error names it
and the next one. -/
theorem ofPath_fail {path : CertificationPath} {v : Violation}
    (hposition : path.certificates[v.index]? = some v.certificate) :
    VerificationError.ofPath v.cause path (Results.empty.fail v.status v.index) =
      .ofCause v.cause (some v.certificate) path.certificates[v.index + 1]? := by
  have hlt : v.index < path.length := by
    rw [← path.length_certificates]
    exact (List.getElem?_eq_some_iff.1 hposition).1
  unfold VerificationError.ofPath
  rw [Results.failedIndex?_fail, Option.filter_some, if_pos (by simpa using hlt),
    Option.getD_some]
  dsimp only
  rw [hposition]

theorem Builds.violation_of_verify (henv : env.validators = [.builtin]) {c : Certificate}
    {classified : ClassifiedPool} {path : CertificationPath} {e : VerificationError}
    (hbuilt : env.Builds now settings c pool classified path)
    (h : (env.verify now settings (some c) pool).value = .error e) :
    ∃ v, path.firstViolation? env.verifiers now settings = some v ∧
      path.certificates[v.index]? = some v.certificate ∧
      path.Explains env.verifiers now settings v ∧
      e = .ofCause v.cause (some v.certificate) path.certificates[v.index + 1]? := by
  rw [hbuilt.value_verify henv] at h
  split at h
  · rename_i v hviolation
    obtain ⟨hposition, hexplains⟩ := CertificationPath.explains_of_firstViolation? hviolation
    rw [ofPath_fail hposition] at h
    exact ⟨v, hviolation, hposition, hexplains, (Except.error.inj h).symm⟩
  · cases h

/-- The stages at which verification may fail, each with the error it fails with. -/
inductive Fails (env : Environment) (now : UInt64) (settings : Settings) (pool : List Certificate) :
    Option Certificate → VerificationError → Prop where
  | target {target : Option Certificate} {cause : Error}
      (hrefused : (checkTarget env.verifiers now settings target).value = .error cause) :
      Fails env now settings pool target (.ofCause cause target none)
  | pool {target : Certificate} {fault : Fault}
      (hunsorted : (ClassifiedPool.classify env.verifiers pool).value = .error fault) :
      Fails env now settings pool (some target) (.ofFault fault)
  | search {target : Certificate} {classified : ClassifiedPool} {fault : Fault}
      (hsorted : (ClassifiedPool.classify env.verifiers pool).value = .ok classified)
      (hnotFound : (CertificationPath.find env.verifiers settings target classified).value =
        .error fault) :
      Fails env now settings pool (some target) (.ofFault fault)
  | path {target : Certificate} {classified : ClassifiedPool} {path : CertificationPath}
      {v : Violation} (hbuilt : env.Builds now settings target pool classified path)
      (hexplains : path.Explains env.verifiers now settings v)
      (hposition : path.certificates[v.index]? = some v.certificate) :
      Fails env now settings pool (some target)
        (.ofCause v.cause (some v.certificate) path.certificates[v.index + 1]?)

theorem verify_eq_error (henv : env.validators = [.builtin]) {e : VerificationError}
    (h : (env.verify now settings target pool).value = .error e) :
    env.Fails now settings pool target e := by
  have hverify := h
  rw [value_verify henv] at h
  split at h
  · rename_i cause hrefused
    cases h
    exact .target hrefused
  · rename_i c hchecked
    obtain ⟨rfl, -⟩ := checkTarget_eq_ok hchecked
    split at h
    · rename_i fault hunsorted
      cases h
      exact .pool hunsorted
    · rename_i classified hsorted
      split at h
      · rename_i fault hnotFound
        cases h
        exact .search hsorted hnotFound
      · rename_i path hfound
        have hbuilt : env.Builds now settings c pool classified path :=
          ⟨hchecked, hsorted, hfound⟩
        obtain ⟨v, -, hposition, hexplains, rfl⟩ := hbuilt.violation_of_verify henv hverify
        exact .path hbuilt hexplains hposition

end Environment

namespace Sample

def environment : Environment := ⟨[verifier], [.builtin]⟩

/-- In the mesh the long path is found whenever signatures are filtered and the leaf is good. -/
theorem builds_mesh {settings : Settings} (hfilter : settings.filterWhenBuilding = true)
    (hchecked : (checkTarget [verifier] now settings (some leaf)).value = .ok leaf) :
    environment.Builds now settings leaf mesh sortedMesh ⟨root, [lower, back, upper], leaf⟩ := by
  refine ⟨hchecked, classify_mesh, ?_⟩
  rw [CertificationPath.find_eq_ok_iff classify_mesh, hfilter]
  exact ⟨_, rfl, climb?_mesh⟩

end Sample

end TrustChain
