import TrustChain.Proofs.Verification.Stages

/-!
# A verified chain can be trusted

Whatever the pool holds and whatever the verifiers answer, a chain that verification returns leads
from the target over signatures that verify to a self-signed certificate of the pool, and everything
that the settings ask for holds of it.
-/

namespace TrustChain

namespace CertificationPath

/-- What a verified chain stands for. Its certificates above the target are from the pool, no two
encodings are equal, the last certificate is self-signed and no other is, and the path is valid. -/
structure IsTrusted (verifiers : Verifiers) (now : UInt64) (settings : Settings)
    (pool : List Certificate) (path : CertificationPath) : Prop extends
    path.IsValid verifiers now settings where
  members : ∀ c ∈ path.issuers, c ∈ pool
  distinct : (path.certificates.map Certificate.encoding).Nodup
  anchored : (verifiers.isSelfSigned path.trustAnchor).value = .ok true
  notSelfSigned : ∀ c ∈ path.target :: path.intermediates,
    (verifiers.isSelfSigned c).value = .ok false

end CertificationPath

namespace Environment

variable {env : Environment} {now : UInt64} {settings : Settings} {pool : List Certificate}

/-- What is known of a path before it is validated. -/
theorem Builds.isTrusted {target : Certificate} {classified : ClassifiedPool}
    {path : CertificationPath} (hbuilt : env.Builds now settings target pool classified path)
    (hvalid : path.IsValid env.verifiers now settings) :
    path.IsTrusted env.verifiers now settings pool := by
  obtain ⟨hchecked, hsorted, hfound⟩ := hbuilt
  have hascends := CertificationPath.ascends_of_find hsorted hfound
  have hanchor := ClassifiedPool.trustAnchor_of_classify hsorted hascends.trustAnchor_mem
  have hintermediate : ∀ c ∈ path.intermediates,
      c ∈ pool ∧ (env.verifiers.isSelfSigned c).value = .ok false := by
    intro c hc
    exact ClassifiedPool.intermediate_of_classify hsorted (hascends.intermediates_mem c hc)
  refine ⟨hvalid, ?_, hascends.distinct, hanchor.2, ?_⟩
  · intro c hc
    rcases List.mem_append.1 hc with hc | hc
    · exact (hintermediate c hc).1
    · rw [List.mem_singleton.1 hc]
      exact hanchor.1
  · intro c hc
    rcases List.mem_cons.1 hc with rfl | hc
    · rw [hascends.target_eq]
      exact (checkTarget_eq_ok hchecked).2.2
    · exact (hintermediate c hc).2

/-- **Verification is sound.** With the built-in validator alone, a chain that is returned for a
target is a path from it that can be trusted. -/
theorem verify_sound {target : Option Certificate} {chain : VerifiedChain}
    (henv : env.validators = [.builtin])
    (h : (env.verify now settings target pool).value = .ok chain) :
    ∃ path : CertificationPath, chain.certificates = path.certificates ∧
      target = some path.target ∧ path.IsTrusted env.verifiers now settings pool := by
  obtain ⟨c, classified, path, rfl, hbuilt, hnone, rfl⟩ := verify_eq_ok henv h
  have hvalid := CertificationPath.isValid_of_firstViolation?_eq_none hnone
  have htarget : path.target = c := hbuilt.ascends.target_eq
  exact ⟨path, rfl, congrArg some htarget.symm, hbuilt.isTrusted hvalid⟩

end Environment

namespace Sample

/-- The chain through the mesh is verified and can be trusted. -/
theorem verify_passes_mesh :
    environment.validators = [.builtin] ∧
    (environment.verify now .empty (some leaf) mesh).value =
      .ok (.ofPath ⟨root, [lower, back, upper], leaf⟩) ∧
    ∃ path : CertificationPath, path.certificates = [leaf, lower, back, upper, root] ∧
      path.IsTrusted [verifier] now .empty mesh := by
  have hbuilt := @builds_mesh .empty rfl rfl
  have hvalid : (CertificationPath.mk root [lower, back, upper] leaf).firstViolation?
      environment.verifiers now .empty = none := rfl
  have hverified : (environment.verify now .empty (some leaf) mesh).value =
      .ok (.ofPath ⟨root, [lower, back, upper], leaf⟩) := by
    rw [hbuilt.value_verify rfl, hvalid]
  refine ⟨rfl, hverified, ?_⟩
  obtain ⟨path, hcertificates, -, htrusted⟩ := Environment.verify_sound rfl hverified
  exact ⟨path, hcertificates.symm, htrusted⟩

end Sample

end TrustChain
