import TrustChain.Proofs.Verification.Agreement

/-!
# The order of a pool

Which paths a pool admits does not depend on the order of its certificates, as long as their
encodings tell them apart; so neither does whether one is found. But only the first one found is
validated, and the order decides which that is. A certificate that is no longer valid, put in front
of another one for the same issuer, makes a verification fail that succeeds without it. What is true
is that a pool in another order fails in no other way than by a path that does not validate, and
that it succeeds if all paths validate alike.
-/

namespace TrustChain

/-! ### The same certificates in another order -/

theorem IdentifiedByEncoding.perm {pool other : List Certificate}
    (hidentified : IdentifiedByEncoding pool) (hperm : pool.Perm other) :
    IdentifiedByEncoding other := by
  intro c hc d hd
  exact hidentified c (hperm.mem_iff.2 hc) d (hperm.mem_iff.2 hd)

namespace ClassifiedPool

variable {verifiers : Verifiers} {pool : List Certificate} {classified : ClassifiedPool}

theorem mem_withoutRepeats_iff (hidentified : IdentifiedByEncoding pool) {c : Certificate} :
    c ∈ withoutRepeats [] pool ↔ c ∈ pool := by
  constructor
  · exact fun hmem => (withoutRepeats_sublist [] pool).subset hmem
  · intro hmem
    -- a certificate is left out only for another one with its encoding, which is then the same
    obtain ⟨d, hd, heq⟩ := exists_mem_withoutRepeats hmem List.not_mem_nil
    obtain rfl := hidentified d ((withoutRepeats_sublist [] pool).subset hd) c hmem heq
    exact hd

theorem mem_trustAnchors_iff (hidentified : IdentifiedByEncoding pool)
    (hsorted : (classify verifiers pool).value = .ok classified) {c : Certificate} :
    c ∈ classified.trustAnchors ↔ c ∈ pool ∧ verifiers.knowsSelfSigned c = true := by
  obtain ⟨-, hanchors, -⟩ := eq_filter_of_classifyUnseen hsorted
  rw [hanchors, List.mem_filter, mem_withoutRepeats_iff hidentified]

theorem mem_intermediates_iff (hidentified : IdentifiedByEncoding pool)
    (hsorted : (classify verifiers pool).value = .ok classified) {c : Certificate} :
    c ∈ classified.intermediates ↔ c ∈ pool ∧ verifiers.knowsSelfSigned c = false := by
  obtain ⟨-, -, hintermediates⟩ := eq_filter_of_classifyUnseen hsorted
  rw [hintermediates, List.mem_filter, mem_withoutRepeats_iff hidentified, Bool.not_eq_true']

theorem exists_classify_of_perm {other : List Certificate}
    (hidentified : IdentifiedByEncoding pool) (hperm : pool.Perm other)
    (hsorted : (classify verifiers pool).value = .ok classified) :
    ∃ reclassified, (classify verifiers other).value = .ok reclassified := by
  cases hother : (classify verifiers other).value with
  | ok reclassified => exact ⟨reclassified, rfl⟩
  | error fault =>
      obtain ⟨hmem, -, herror⟩ := classifyUnseen_fault hother
      obtain ⟨hevaluated, -⟩ := eq_filter_of_classifyUnseen hsorted
      have hanswer := hevaluated fault.certificate
        ((mem_withoutRepeats_iff hidentified).2 (hperm.mem_iff.2 hmem))
      rw [herror] at hanswer
      cases hanswer

end ClassifiedPool

theorem CertificationPath.Ascends.of_perm {verifiers : Verifiers} {filter : Bool}
    {pool other : List Certificate} {classified reclassified : ClassifiedPool}
    {target : Certificate} {path : CertificationPath}
    (hascends : path.Ascends verifiers filter classified target)
    (hidentified : IdentifiedByEncoding pool) (hperm : pool.Perm other)
    (hsorted : (ClassifiedPool.classify verifiers pool).value = .ok classified)
    (hresorted : (ClassifiedPool.classify verifiers other).value = .ok reclassified) :
    path.Ascends verifiers filter reclassified target := by
  have hother := hidentified.perm hperm
  refine ⟨hascends.target_eq, ?_, ?_, hascends.distinct, hascends.linked⟩
  · intro c hc
    have hmem := hascends.intermediates_mem c hc
    rw [ClassifiedPool.mem_intermediates_iff hidentified hsorted, hperm.mem_iff] at hmem
    exact (ClassifiedPool.mem_intermediates_iff hother hresorted).2 hmem
  · have hmem := hascends.trustAnchor_mem
    rw [ClassifiedPool.mem_trustAnchors_iff hidentified hsorted, hperm.mem_iff] at hmem
    exact (ClassifiedPool.mem_trustAnchors_iff hother hresorted).2 hmem

/-! ### A stated time -/

section Stated

variable {settings : Settings} {time : UInt64} (hstated : settings.statedTime? = some time)
include hstated

theorem Settings.timeOfInterest_of_stated (now : UInt64) : settings.timeOfInterest now = time := by
  unfold timeOfInterest
  rw [hstated]
  rfl

theorem value_checkTarget_of_stated (verifiers : Verifiers) (now later : UInt64)
    (target : Option Certificate) :
    (checkTarget verifiers later settings target).value =
      (checkTarget verifiers now settings target).value := by
  rw [value_checkTarget, value_checkTarget, Settings.timeOfInterest_of_stated hstated,
    Settings.timeOfInterest_of_stated hstated]

theorem CertificationPath.firstViolation?_of_stated (verifiers : Verifiers) (now later : UInt64)
    (path : CertificationPath) :
    path.firstViolation? verifiers later settings =
      path.firstViolation? verifiers now settings := by
  unfold firstViolation? datingViolation?
  rw [Settings.timeOfInterest_of_stated hstated, Settings.timeOfInterest_of_stated hstated]

end Stated

/-! ### Verification -/

namespace Environment

def Accepts (env : Environment) (now : UInt64) (settings : Settings) (target : Option Certificate)
    (pool : List Certificate) : Prop :=
  ∃ chain, (env.verify now settings target pool).value = .ok chain

variable {env : Environment} {settings : Settings} {time now : UInt64} (later : UInt64)
  {pool other : List Certificate}

/-- A path that is found in one order is there to be found in every other. -/
theorem Builds.exists_of_perm (hstated : settings.statedTime? = some time)
    (hidentified : IdentifiedByEncoding pool) (hperm : pool.Perm other) {c : Certificate}
    {classified : ClassifiedPool} {path : CertificationPath}
    (hbuilt : env.Builds now settings c pool classified path) :
    ∃ reclassified found, env.Builds later settings c other reclassified found ∧
      found.Ascends env.verifiers settings.filterWhenBuilding classified c := by
  obtain ⟨reclassified, hresorted⟩ :=
    ClassifiedPool.exists_classify_of_perm hidentified hperm hbuilt.sorted
  have hascends := hbuilt.ascends.of_perm hidentified hperm hbuilt.sorted hresorted
  cases hfound :
      (CertificationPath.find env.verifiers settings c reclassified).value with
  | error fault =>
      exact absurd hascends (CertificationPath.not_ascends_of_find hresorted hfound path)
  | ok found =>
      have hchecked := hbuilt.checked
      rw [value_checkTarget_of_stated hstated env.verifiers later now] at hchecked
      have hrebuilt : env.Builds later settings c other reclassified found :=
        ⟨hchecked, hresorted, hfound⟩
      exact ⟨reclassified, found, hrebuilt, hrebuilt.ascends.of_perm (hidentified.perm hperm)
        hperm.symm hresorted hbuilt.sorted⟩

/-- All the paths that a pool admits for a target validate if one of them does. -/
def Unambiguous (env : Environment) (now : UInt64) (settings : Settings) (target : Certificate)
    (pool : List Certificate) : Prop :=
  ∀ classified, ∀ path alternative : CertificationPath,
    (ClassifiedPool.classify env.verifiers pool).value = .ok classified →
    path.Ascends env.verifiers settings.filterWhenBuilding classified target →
    alternative.Ascends env.verifiers settings.filterWhenBuilding classified target →
    path.firstViolation? env.verifiers now settings = none →
    alternative.firstViolation? env.verifiers now settings = none

theorem Unambiguous.perm (hstated : settings.statedTime? = some time)
    (hidentified : IdentifiedByEncoding pool) (hperm : pool.Perm other) {c : Certificate}
    (halike : env.Unambiguous now settings c pool) : env.Unambiguous later settings c other := by
  intro reclassified path alternative hresorted hpath halternative hvalid
  have hreidentified := hidentified.perm hperm
  obtain ⟨classified, hsorted⟩ :=
    ClassifiedPool.exists_classify_of_perm hreidentified hperm.symm hresorted
  rw [CertificationPath.firstViolation?_of_stated hstated env.verifiers now later] at hvalid ⊢
  exact halike classified path alternative hsorted
    (hpath.of_perm hreidentified hperm.symm hresorted hsorted)
    (halternative.of_perm hreidentified hperm.symm hresorted hsorted) hvalid

/-- Without a time and without constraints nothing is left to validate that was not looked at when
the path was built. -/
theorem unambiguous_of_unconstrained (hstated : settings.statedTime? = some 0)
    (hfilter : settings.filterWhenBuilding = true)
    (hunconstrained : settings.enforceBasicConstraints = false) (c : Certificate) :
    env.Unambiguous now settings c pool := by
  intro classified path alternative _ _ halternative _
  rw [hfilter] at halternative
  have hdating : alternative.datingViolation? now settings = none := by
    unfold CertificationPath.datingViolation?
    rw [Settings.timeOfInterest_of_stated hstated]
    rfl
  unfold CertificationPath.firstViolation?
  simp [halternative.nameViolation?_eq_none, halternative.badSignature?_eq_none, hdating,
    hunconstrained]

theorem exists_found_of_verify (henv : env.validators = [.builtin])
    (hstated : settings.statedTime? = some time) (hidentified : IdentifiedByEncoding pool)
    (hperm : pool.Perm other) {target : Option Certificate} {chain : VerifiedChain}
    (h : (env.verify now settings target pool).value = .ok chain) :
    ∃ c classified path reclassified found, target = some c ∧ chain = .ofPath path ∧
      env.Builds now settings c pool classified path ∧
      path.firstViolation? env.verifiers now settings = none ∧
      env.Builds later settings c other reclassified found ∧
      found.Ascends env.verifiers settings.filterWhenBuilding classified c := by
  obtain ⟨c, classified, path, rfl, hbuilt, hvalid, rfl⟩ := verify_eq_ok henv h
  obtain ⟨reclassified, found, hrebuilt, hascends⟩ :=
    hbuilt.exists_of_perm later hstated hidentified hperm
  exact ⟨c, classified, path, reclassified, found, rfl, rfl, hbuilt, hvalid, hrebuilt, hascends⟩

theorem builds_perm_iff (hstated : settings.statedTime? = some time)
    (hidentified : IdentifiedByEncoding pool) (hperm : pool.Perm other) (c : Certificate) :
    (∃ classified path, env.Builds now settings c pool classified path) ↔
      ∃ classified path, env.Builds later settings c other classified path := by
  constructor
  · rintro ⟨classified, path, hbuilt⟩
    obtain ⟨reclassified, found, hrebuilt, -⟩ :=
      hbuilt.exists_of_perm later hstated hidentified hperm
    exact ⟨reclassified, found, hrebuilt⟩
  · rintro ⟨reclassified, found, hrebuilt⟩
    obtain ⟨classified, path, hbuilt, -⟩ :=
      hrebuilt.exists_of_perm now hstated (hidentified.perm hperm) hperm.symm
    exact ⟨classified, path, hbuilt⟩

theorem Accepts.perm (henv : env.validators = [.builtin])
    (hstated : settings.statedTime? = some time) (hidentified : IdentifiedByEncoding pool)
    (hperm : pool.Perm other) {target : Option Certificate}
    (halike : ∀ c, target = some c → env.Unambiguous now settings c pool)
    (haccepts : env.Accepts now settings target pool) :
    env.Accepts later settings target other := by
  obtain ⟨chain, h⟩ := haccepts
  obtain ⟨c, classified, path, reclassified, found, rfl, -, hbuilt, hvalid, hrebuilt, hascends⟩ :=
    exists_found_of_verify later henv hstated hidentified hperm h
  have hfound :=
    halike c rfl classified path found hbuilt.sorted hbuilt.ascends hascends hvalid
  rw [← CertificationPath.firstViolation?_of_stated hstated env.verifiers now later] at hfound
  refine ⟨.ofPath found, ?_⟩
  rw [hrebuilt.value_verify henv, hfound]

theorem accepts_perm_iff (henv : env.validators = [.builtin])
    (hstated : settings.statedTime? = some time) (hidentified : IdentifiedByEncoding pool)
    (hperm : pool.Perm other) {target : Option Certificate}
    (halike : ∀ c, target = some c → env.Unambiguous now settings c pool) :
    env.Accepts now settings target pool ↔ env.Accepts later settings target other := by
  constructor
  · exact Accepts.perm later henv hstated hidentified hperm halike
  · apply Accepts.perm now henv hstated (hidentified.perm hperm) hperm.symm
    intro c hc
    exact (halike c hc).perm later hstated hidentified hperm

/-- **What the order of a pool decides.** Where the time is stated and encodings tell certificates
apart, whether a path is found does not depend on the order of the pool. A pool that is accepted in
one order is refused in another only because another path is found that does not validate, with the
signature filter for one of the reasons that building leaves open. So the verdicts agree where all
paths validate alike, in particular with the filter if neither times nor constraints matter. -/
theorem verify_of_perm (henv : env.validators = [.builtin])
    (hstated : settings.statedTime? = some time) (hidentified : IdentifiedByEncoding pool)
    (hperm : pool.Perm other) (target : Option Certificate) :
    (∀ c, (∃ classified path, env.Builds now settings c pool classified path) ↔
      ∃ classified path, env.Builds later settings c other classified path) ∧
    (∀ chain e, (env.verify now settings target pool).value = .ok chain →
      (env.verify later settings target other).value = .error e →
      ∃ c path classified found v, target = some c ∧ chain = .ofPath path ∧ found ≠ path ∧
        env.Builds later settings c other classified found ∧
        found.Explains env.verifiers later settings v ∧
        found.certificates[v.index]? = some v.certificate ∧
        e = .ofCause v.cause (some v.certificate) found.certificates[v.index + 1]? ∧
        (settings.filterWhenBuilding = true →
          v.cause = .pathValidation v.status ∧ found.LeavesOpen v.status v.index)) ∧
    ((∀ c, target = some c → env.Unambiguous now settings c pool) →
      (env.Accepts now settings target pool ↔ env.Accepts later settings target other)) ∧
    (settings.filterWhenBuilding = true → time = 0 → settings.enforceBasicConstraints = false →
      (env.Accepts now settings target pool ↔ env.Accepts later settings target other)) := by
  refine ⟨builds_perm_iff later hstated hidentified hperm, ?_,
    accepts_perm_iff later henv hstated hidentified hperm, ?_⟩
  · intro chain e hverified hrefused
    obtain ⟨c, classified, path, reclassified, found, rfl, rfl, hbuilt, hvalid, hrebuilt, -⟩ :=
      exists_found_of_verify later henv hstated hidentified hperm hverified
    obtain ⟨v, hviolation, hposition, hexplains, rfl⟩ := hrebuilt.violation_of_verify henv hrefused
    refine ⟨c, path, reclassified, found, v, rfl, rfl, ?_, hrebuilt, hexplains, hposition, rfl, ?_⟩
    · -- the path that was accepted has no violation, at either reading of the clock
      rintro rfl
      rw [CertificationPath.firstViolation?_of_stated hstated env.verifiers now later, hvalid]
        at hviolation
      cases hviolation
    · intro hfilter
      exact hrebuilt.leavesOpen_of_firstViolation? hfilter hviolation
  · rintro hfilter rfl hunconstrained
    apply accepts_perm_iff later henv hstated hidentified hperm
    intro c _
    exact unambiguous_of_unconstrained hstated hfilter hunconstrained c

end Environment

/-! ### Two certificates for one issuer -/

namespace Sample

def dated : Settings := Settings.empty.setTimeOfInterest now

/-- Another certificate for the name and the key of `upper`, which ended with the year 2020. -/
def expired : Certificate :=
  let c := certificate 8 1 3 (.rsa, 1) (.rsa, 3)
  { c with signed := { c.signed with body := { c.body with
      validity := ⟨newYear 2020 rfl, newYear 2021 rfl⟩ } } }

/-- Has the encoding of `upper`, and another subject. -/
def stray : Certificate := { certificate 9 5 3 (.rsa, 1) (.rsa, 3) with encoding := upper.encoding }

theorem builds_upper : environment.Builds now dated leaf [upper, expired, root]
    ⟨[root], [upper, expired]⟩ ⟨root, [upper], leaf⟩ := by
  have hsorted : (ClassifiedPool.classify [verifier] [upper, expired, root]).value =
      .ok ⟨[root], [upper, expired]⟩ := rfl
  refine ⟨rfl, hsorted, (CertificationPath.find_eq_ok_iff hsorted).2 ⟨⟨[upper], root⟩, rfl, ?_⟩⟩
  decide +kernel

theorem builds_expired : environment.Builds now dated leaf [expired, upper, root]
    ⟨[root], [expired, upper]⟩ ⟨root, [expired], leaf⟩ := by
  have hsorted : (ClassifiedPool.classify [verifier] [expired, upper, root]).value =
      .ok ⟨[root], [expired, upper]⟩ := rfl
  refine ⟨rfl, hsorted, (CertificationPath.find_eq_ok_iff hsorted).2 ⟨⟨[expired], root⟩, rfl, ?_⟩⟩
  decide +kernel

theorem verify_upper : (environment.verify now dated (some leaf) [upper, expired, root]).value =
    .ok (.ofPath ⟨root, [upper], leaf⟩) := by
  have hvalid : (CertificationPath.mk root [upper] leaf).firstViolation? environment.verifiers now
      dated = none := rfl
  rw [builds_upper.value_verify rfl, hvalid]

theorem verify_expired : (environment.verify now dated (some leaf) [expired, upper, root]).value =
    .error (.ofCause (.pathValidation .invalidNotAfterDate) (some expired) (some root)) := by
  have hviolation : (CertificationPath.mk root [expired] leaf).firstViolation? environment.verifiers
      now dated = some (.ofStatus expired (expired.validity.complaint .invalidNotAfterDate)
        .invalidNotAfterDate 1) := rfl
  rw [builds_expired.value_verify rfl, hviolation]
  dsimp only
  rw [Environment.ofPath_fail rfl]
  rfl

theorem identifiedByEncoding_twins : IdentifiedByEncoding [upper, expired, root] := by
  unfold IdentifiedByEncoding
  decide +kernel

theorem perm_twins : [upper, expired, root].Perm [expired, upper, root] := .swap _ _ _

/-- With the expired certificate in front a path is found as well, and it fails for one of the
reasons that building leaves open. -/
theorem leavesOpen_expired :
    environment.validators = [.builtin] ∧ dated.statedTime? = some now ∧
    IdentifiedByEncoding [upper, expired, root] ∧
    [upper, expired, root].Perm [expired, upper, root] ∧
    (environment.verify now dated (some leaf) [upper, expired, root]).value =
      .ok (.ofPath ⟨root, [upper], leaf⟩) ∧
    ∃ classified found status index,
      environment.Builds now dated leaf [expired, upper, root] classified found ∧
      found.LeavesOpen status index := by
  obtain ⟨-, hrefused, -⟩ := @Environment.verify_of_perm environment dated now now now _ _ rfl rfl
    identifiedByEncoding_twins perm_twins (some leaf)
  obtain ⟨c, path, classified, found, v, hc, -, -, hbuilt, -, -, -, hopen⟩ :=
    hrefused _ _ verify_upper verify_expired
  cases hc
  exact ⟨rfl, rfl, identifiedByEncoding_twins, perm_twins, verify_upper, classified, found,
    v.status, v.index, hbuilt, (hopen rfl).2⟩

theorem builds_without_stray : environment.Builds now dated leaf [upper, stray, root]
    ⟨[root], [upper]⟩ ⟨root, [upper], leaf⟩ := by
  have hsorted : (ClassifiedPool.classify [verifier] [upper, stray, root]).value =
      .ok ⟨[root], [upper]⟩ := rfl
  refine ⟨rfl, hsorted, (CertificationPath.find_eq_ok_iff hsorted).2 ⟨⟨[upper], root⟩, rfl, ?_⟩⟩
  decide +kernel

theorem not_accepts_stray : ¬ environment.Accepts now dated (some leaf) [stray, upper, root] := by
  rintro ⟨chain, h⟩
  obtain ⟨c, classified, path, hc, hbuilt, -⟩ := Environment.verify_eq_ok rfl h
  cases hc
  have hsorted : (ClassifiedPool.classify [verifier] [stray, upper, root]).value =
      .ok ⟨[root], [stray]⟩ := rfl
  obtain rfl := Except.ok.inj (hsorted.symm.trans hbuilt.sorted)
  obtain ⟨ascent, -, hfound⟩ := (CertificationPath.find_eq_ok_iff hsorted).1 hbuilt.found
  have hnone : PathSearch.climb? [verifier] dated.filterWhenBuilding ⟨[root], [stray]⟩
      [leaf.encoding] leaf = none := by
    decide +kernel
  cases hnone.symm.trans hfound

/-- The order of a pool decides the verdict where a certificate that has expired comes before or
after its twin, and where one of two certificates with the same encoding is passed over. -/
theorem pool_order_decides :
    ([upper, expired, root].Perm [expired, upper, root] ∧
      environment.Accepts now dated (some leaf) [upper, expired, root] ∧
      ¬ environment.Accepts now dated (some leaf) [expired, upper, root]) ∧
    [upper, stray, root].Perm [stray, upper, root] ∧
      environment.Accepts now dated (some leaf) [upper, stray, root] ∧
      ¬ environment.Accepts now dated (some leaf) [stray, upper, root] := by
  have hvalid : (CertificationPath.mk root [upper] leaf).firstViolation? environment.verifiers now
      dated = none := rfl
  refine ⟨⟨perm_twins, ⟨_, verify_upper⟩, ?_⟩, .swap _ _ _, ?_, not_accepts_stray⟩
  · rintro ⟨chain, h⟩
    cases verify_expired.symm.trans h
  · refine ⟨.ofPath ⟨root, [upper], leaf⟩, ?_⟩
    rw [builds_without_stray.value_verify rfl, hvalid]

end Sample

end TrustChain
